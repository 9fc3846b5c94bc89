import OpenLighting.SlpServer

namespace OpenLighting.Slp

open TransitionSystem FiniteMap

variable {Scope Url Entry : Type}

/-- What has been passed to `AddPR` since the last `ResetPRListChanged`, and `pr_list` as it was
then. -/
structure Responders where
  base : Finset UInt32
  added : List UInt32

variable (responders : Responders) (address : UInt32)

namespace Responders

def initial : Responders := ⟨∅, []⟩

def prList : Finset UInt32 :=
  responders.base ∪ responders.added.toFinset

/-- An address was added to `pr_list`. -/
def Grown : Prop := ∃ address ∈ responders.added, address ∉ responders.base

/-- The last call of `AddPR` added an address. -/
def LastIsNew : Prop :=
  ∃ earlier address, responders.added = earlier ++ [address] ∧ address ∉ responders.base ∧
    address ∉ earlier

def add : Responders :=
  { responders with added := responders.added ++ [address] }

theorem LastIsNew.grown {responders : Responders} (last : LastIsNew responders) :
    Grown responders := by
  have ⟨earlier, address, all, new, _⟩ := last
  exact ⟨address, by rw [all]; exact List.mem_append_right _ List.mem_cons_self, new⟩

theorem not_lastIsNew_reset (base : Finset UInt32) : ¬ LastIsNew ⟨base, []⟩ := by
  intro ⟨earlier, address, all, _⟩
  exact absurd all (by simp)

theorem prList_add : (responders.add address).prList = insert address responders.prList := by
  ext other
  simp only [prList, add, Finset.mem_union, Finset.mem_insert, List.mem_toFinset, List.mem_append,
    List.mem_singleton]
  tauto

/-- The last call counts, whatever was before. -/
theorem lastIsNew_add : LastIsNew (responders.add address) ↔ address ∉ responders.prList := by
  rw [prList, Finset.mem_union, List.mem_toFinset, not_or]
  constructor
  · intro ⟨earlier, last, all, new, unseen⟩
    have ⟨same, equal⟩ := List.append_inj' all rfl
    rw [List.singleton_inj.mp equal, show responders.added = earlier from same]
    exact ⟨new, unseen⟩
  · intro ⟨new, unseen⟩
    exact ⟨responders.added, address, rfl, new, unseen⟩

end Responders

namespace Server

/-- A multicast operation, with its `pr_list` and `m_pr_list_changed`. -/
def multicast (state : Server Scope Url Entry) (number : Nat) :
    Option (Operation Scope Url × Finset UInt32 × Bool) :=
  match state.operations.lookup number with
  | none => none
  | some operation =>
    match operation.kind with
    | .unicast _ _ => none
    | .multicast prList prListChanged => some (operation, prList, prListChanged)

variable {operation : Operation Scope Url} {prList : Finset UInt32} {prListChanged : Bool}

theorem multicast_eq_some {state : Server Scope Url Entry} {number : Nat} :
    state.multicast number = some (operation, prList, prListChanged) ↔
      state.operations.lookup number = some operation ∧
        operation.kind = .multicast prList prListChanged := by
  rw [multicast]
  constructor
  · intro found
    split at found
    · cases found
    · rename_i other inside
      split at found
      · cases found
      · rename_i kind
        cases found
        exact ⟨inside, kind⟩
  · intro ⟨found, kind⟩
    rw [found]
    dsimp only
    rw [kind]

section Steps
variable [DecidableEq Scope] [LinearOrder Url]

/-- The timeout of the operation calls `ResetPRListChanged`. -/
def Resets (options : Options Scope) (state : Server Scope Url Entry) (number : Nat)
    (operation : Operation Scope Url) (prList : Finset UInt32) (prListChanged : Bool) : Prop :=
  number ∈ state.timers ∧ state.pendingReplies.lookup operation.xid ≠ none ∧
    ¬ multicastDone options operation prList prListChanged ∧ prListChanged = true

instance (options : Options Scope) (state : Server Scope Url Entry) (number : Nat)
    (operation : Operation Scope Url) (prList : Finset UInt32) (prListChanged : Bool) :
    Decidable (state.Resets options number operation prList prListChanged) :=
  inferInstanceAs (Decidable (_ ∧ _))

def record (options : Options Scope) (state : Server Scope Url Entry)
    (event : Event Scope Url Entry) (number : Nat) (responders : Responders) : Responders :=
  match state.multicast number with
  | none => responders
  | some (operation, prList, prListChanged) =>
    match event with
    | .serviceReply xid source errorCode _ =>
      if state.pendingReplies.lookup xid = some number ∧ errorCode = slpOk then
        responders.add source
      else responders
    | .timeout key =>
      if key = number ∧ state.Resets options number operation prList prListChanged then
        ⟨prList, []⟩
      else responders
    | _ => responders

/-- A server with the records of its operations. -/
def recordedStep (options : Options Scope)
    (state : Server Scope Url Entry × (Nat → Responders)) (event : Event Scope Url Entry) :
    Server Scope Url Entry × (Nat → Responders) :=
  (state.1.step options event,
    fun number => state.1.record options event number (state.2 number))

end Steps

/-- The record of each multicast operation gives its list, and its flag is the last call of
`AddPR`. -/
structure Recorded (state : Server Scope Url Entry) (records : Nat → Responders) : Prop where
  exact : ∀ number operation prList prListChanged,
    state.multicast number = some (operation, prList, prListChanged) →
      number < state.operationCount ∧ prList = (records number).prList ∧
        (prListChanged = true ↔ (records number).LastIsNew)
  fresh : ∀ number, state.operationCount ≤ number → records number = .initial

/-- The multicast operations are the same, but for some that end and new ones. -/
structure Grows (state after : Server Scope Url Entry) : Prop where
  count : state.operationCount ≤ after.operationCount
  kept : ∀ number operation prList prListChanged,
    after.multicast number = some (operation, prList, prListChanged) →
      state.multicast number = some (operation, prList, prListChanged) ∨
        state.operationCount ≤ number ∧ number < after.operationCount ∧ prList = ∅ ∧
          prListChanged = false

section Growth
variable {state middle after : Server Scope Url Entry}

theorem Grows.trans (first : Grows state middle) (second : Grows middle after) :
    Grows state after := by
  refine ⟨first.count.trans second.count, fun number operation prList prListChanged found => ?_⟩
  have counts := first.count
  have more := second.count
  cases second.kept number operation prList prListChanged found with
  | inr new => exact .inr ⟨by omega, new.2⟩
  | inl old =>
    cases first.kept number operation prList prListChanged old with
    | inl older => exact .inl older
    | inr new => exact .inr ⟨new.1, by omega, new.2.2⟩

/-- Other parts of the server do not matter. -/
theorem Grows.of_eq (operations : after.operations = state.operations)
    (count : after.operationCount = state.operationCount) : Grows state after := by
  refine ⟨count.ge, fun number operation prList prListChanged found => .inl ?_⟩
  rw [multicast, ← operations]
  exact found

theorem Grows.refl (state : Server Scope Url Entry) : Grows state state := .of_eq rfl rfl

/-- Nor do they before a change, -/
theorem Grows.since (grows : Grows middle after) (operations : middle.operations = state.operations)
    (count : middle.operationCount = state.operationCount) : Grows state after :=
  Grows.trans (.of_eq operations count) grows

/-- or after it. -/
theorem Grows.followed (grows : Grows state middle)
    (operations : after.operations = middle.operations)
    (count : after.operationCount = middle.operationCount) : Grows state after :=
  grows.trans (.of_eq operations count)

theorem grows_deleteOperation (state : Server Scope Url Entry) (key : Nat) :
    Grows state (state.deleteOperation key) := by
  refine ⟨Nat.le_refl _, fun number operation prList prListChanged found => .inl ?_⟩
  have ⟨inside, kind⟩ := multicast_eq_some.mp found
  rw [deleteOperation, lookup_erase_eq] at inside
  split at inside
  · cases inside
  · exact multicast_eq_some.mpr ⟨inside, kind⟩

theorem grows_insert_unicast (state : Server Scope Url Entry) (key : Nat) {daUrl : Url}
    {daBusy : Bool} (kind : operation.kind = .unicast daUrl daBusy) :
    Grows state { state with operations := state.operations.insert key operation } := by
  refine ⟨Nat.le_refl _, fun number other prList prListChanged found => .inl ?_⟩
  have ⟨inside, sort⟩ := multicast_eq_some.mp found
  rw [lookup_insert_eq] at inside
  split at inside
  · cases inside
    rw [kind] at sort
    cases sort
  · exact multicast_eq_some.mpr ⟨inside, sort⟩

theorem grows_addReply (state : Server Scope Url Entry) (xid : UInt16) (number : Nat) :
    Grows state (state.addReply xid number) := by
  rw [addReply]
  split
  · exact .of_eq rfl rfl
  · exact .refl state

theorem grows_onRequest (state : Server Scope Url Entry) (parent : Nat)
    (change : PendingSrvRqst Scope Entry → PendingSrvRqst Scope Entry) :
    Grows state (state.onRequest parent change) := by
  rw [onRequest]
  split <;> exact .of_eq rfl rfl

theorem grows_checkIfFindSrvComplete [DecidableEq Scope] (state : Server Scope Url Entry)
    (parent : Nat) :
    Grows state (state.checkIfFindSrvComplete parent) := by
  rw [checkIfFindSrvComplete]
  split
  · exact .of_eq rfl rfl
  · split <;> exact .of_eq rfl rfl

theorem grows_startOperation (options : Options Scope) (state : Server Scope Url Entry)
    (scopes : Finset Scope) (parent : Nat) {kind : Kind Url}
    (new : ∀ prList prListChanged, kind = .multicast prList prListChanged →
      prList = ∅ ∧ prListChanged = false) :
    Grows state (state.startOperation options scopes parent kind) := by
  refine .trans ⟨Nat.le_succ _, fun number operation prList prListChanged found => ?_⟩
    (grows_addReply _ _ _)
  have ⟨inside, sort⟩ := multicast_eq_some.mp found
  rw [lookup_insert_eq] at inside
  split at inside
  · rename_i same
    cases inside
    exact .inr ⟨same.ge, by dsimp only; omega, new prList prListChanged sort⟩
  · exact .inl (multicast_eq_some.mpr ⟨inside, sort⟩)

theorem grows_resend (state : Server Scope Url Entry) (key : Nat)
    (operation : Operation Scope Url) (daUrl : Url) :
    Grows state (state.resend key operation daUrl) := by
  have stored : Grows state { state with
      operations := state.operations.insert key { operation with kind := .unicast daUrl false } } :=
    grows_insert_unicast state key rfl
  exact stored.trans ((grows_addReply _ _ _).since rfl rfl)

section Equality
variable [DecidableEq Scope]

theorem grows_askAgents (options : Options Scope) (parent : Nat)
    (agents : List (DirectoryAgent Scope Url)) (state : Server Scope Url Entry)
    (remaining : Finset Scope) : Grows state (askAgents options parent agents state remaining).1 := by
  induction agents generalizing state remaining with
  | nil => exact .refl state
  | cons agent rest ih =>
    rw [askAgents]
    split
    · exact ih state remaining
    · exact .trans (grows_startOperation options state _ parent (fun _ _ same => by cases same))
        (ih _ _)

theorem grows_findServiceInScopes (options : Options Scope) (state : Server Scope Url Entry)
    (parent : Nat) (scopes : Finset Scope) :
    Grows state (state.findServiceInScopes options parent scopes) := by
  have asked := grows_askAgents options parent (state.getMinimalCoveringList scopes) state scopes
  rw [findServiceInScopes]
  dsimp only
  split
  · exact asked
  · exact asked.trans (grows_startOperation options _ _ parent (fun _ _ same => by
      cases same
      exact ⟨rfl, rfl⟩))

theorem grows_findService (options : Options Scope) (state : Server Scope Url Entry)
    (scopes : Finset Scope) (found : List Entry) :
    Grows state (state.findService options scopes found) := by
  rw [findService]
  generalize (if options.enableDa = true then scopes \ options.configuredScopes else scopes) = asked
  split
  · exact .of_eq rfl rfl
  · exact (grows_findServiceInScopes options _ _ asked).since rfl rfl

end Equality

section Order
variable [LinearOrder Url]

theorem grows_abandon (state : Server Scope Url Entry) (key : Nat) (xid : UInt16)
    (bad : Option Url) : Grows state (state.abandon key xid bad) := by
  have dropped : Grows state (((state.eraseReply xid).removeTimeout key).deleteOperation key) :=
    (grows_deleteOperation _ key).since rfl rfl
  cases bad with
  | none => exact dropped
  | some url => exact dropped.followed rfl rfl

variable [DecidableEq Scope]

theorem grows_receivedDASrvReply (options : Options Scope) (state : Server Scope Url Entry)
    (key : Nat) (operation : Operation Scope Url) (daUrl : Url) (errorCode : UInt16)
    (urls : List Entry) :
    Grows state (state.receivedDASrvReply options key operation daUrl errorCode urls) := by
  rw [receivedDASrvReply]
  split
  · have settled : Grows state ((((state.eraseReply operation.xid).addUrls operation.parent
        urls).markScopesAsDone operation).checkIfFindSrvComplete operation.parent) :=
      (((grows_onRequest (state.eraseReply operation.xid) _ _).trans
        (grows_onRequest _ _ _)).trans (grows_checkIfFindSrvComplete _ _)).since rfl rfl
    exact settled.trans ((grows_deleteOperation _ key).since rfl rfl)
  · split
    · exact (grows_insert_unicast (state.eraseReply operation.xid) key rfl).since rfl rfl
    · exact (grows_abandon state key _ _).trans (grows_findServiceInScopes options _ _ _)

theorem grows_requestServiceDATimeout (options : Options Scope) (state : Server Scope Url Entry)
    (key : Nat) (operation : Operation Scope Url) (daUrl : Url) :
    Grows state (state.requestServiceDATimeout options key operation daUrl) := by
  have again : ∀ bad, Grows state (findServiceInScopes options
      (state.abandon key operation.xid bad) operation.parent operation.scopes) := by
    intro bad
    exact (grows_abandon state key _ bad).trans (grows_findServiceInScopes options _ _ _)
  rw [requestServiceDATimeout]
  split
  · exact grows_deleteOperation state key
  · dsimp only
    split
    · exact again _
    · split
      · exact grows_resend state key _ daUrl
      · exact again none

end Order

theorem grows_newDAAdvert [LinearOrder Url] (state : Server Scope Url Entry) (url : Url)
    (scopes : Finset Scope)
    (bootTimestamp : UInt32) (errorCode : UInt16) (addressed : Bool) :
    Grows state (state.newDAAdvert url scopes bootTimestamp errorCode addressed) := by
  rw [newDAAdvert]
  split
  · exact .refl state
  · split
    · exact .of_eq rfl rfl
    · split
      · split
        · exact .of_eq rfl rfl
        · exact .refl state
      · split
        · exact .refl state
        · exact .of_eq rfl rfl

end Growth

section Records
variable {state after : Server Scope Url Entry} {records : Nat → Responders}

variable {options : Options Scope}

theorem record_none (event : Event Scope Url Entry) {number : Nat}
    (none : state.multicast number = none) (responders : Responders) :
    state.record options event number responders = responders := by
  rw [record, none]

/-- The records still hold after operations end and new ones start. -/
theorem Recorded.mono (recorded : Recorded state records) (grows : Grows state after) :
    Recorded after records := by
  have count := grows.count
  refine ⟨fun number operation prList prListChanged found => ?_, fun number high =>
    recorded.fresh number (by omega)⟩
  cases grows.kept number operation prList prListChanged found with
  | inl old =>
    have ⟨low, rest⟩ := recorded.exact number operation prList prListChanged old
    exact ⟨by omega, rest⟩
  | inr new =>
    have ⟨high, low, empty, unchanged⟩ := new
    rw [recorded.fresh number high, empty, unchanged]
    exact ⟨low, rfl, iff_of_false (by simp) (Responders.not_lastIsNew_reset ∅)⟩

/-- An event that adds nothing to them leaves them as they are. -/
theorem Recorded.grow (recorded : Recorded state records) (grows : Grows state after)
    {event : Event Scope Url Entry}
    (same : ∀ number operation prList prListChanged,
      state.multicast number = some (operation, prList, prListChanged) →
        state.record options event number (records number) = records number) :
    Recorded after (fun number => state.record options event number (records number)) := by
  have still : (fun number => state.record options event number (records number)) = records := by
    funext number
    cases found : state.multicast number with
    | none => exact record_none event found _
    | some some => exact same number some.1 some.2.1 some.2.2 found
  rw [still]
  exact recorded.mono grows

theorem Recorded.replace (recorded : Recorded state records) {key : Nat}
    {operation changed : Operation Scope Url} {prList list : Finset UInt32} {before flag : Bool}
    (present : state.multicast key = some (operation, prList, before))
    (kind : changed.kind = .multicast list flag) {records' : Nat → Responders}
    (own : list = (records' key).prList ∧ (flag = true ↔ (records' key).LastIsNew))
    (others : ∀ number, number ≠ key → records' number = records number)
    (operations : after.operations = state.operations.insert key changed)
    (count : after.operationCount = state.operationCount) : Recorded after records' := by
  have low := (recorded.exact key operation prList before present).1
  constructor
  · intro number other list' flag' found
    have ⟨inside, sort⟩ := multicast_eq_some.mp found
    rw [operations, lookup_insert_eq] at inside
    rw [count]
    split at inside
    · rename_i same
      cases inside
      rw [kind, Kind.multicast.injEq] at sort
      rw [same, ← sort.1, ← sort.2]
      exact ⟨low, own⟩
    · rename_i different
      rw [others number different]
      exact recorded.exact number other list' flag' (multicast_eq_some.mpr ⟨inside, sort⟩)
  · intro number high
    rw [count] at high
    rw [others number (by omega)]
    exact recorded.fresh number high

theorem operations_onRequest (parent : Nat)
    (change : PendingSrvRqst Scope Entry → PendingSrvRqst Scope Entry) :
    (state.onRequest parent change).operations = state.operations ∧
      (state.onRequest parent change).operationCount = state.operationCount := by
  rw [onRequest]
  split <;> exact ⟨rfl, rfl⟩

/-- The callback of a multicast operation runs. -/
theorem Recorded.receivedSASrvReply (recorded : Recorded state records) {key : Nat}
    (present : state.multicast key = some (operation, prList, prListChanged)) {xid : UInt16}
    (waits : state.pendingReplies.lookup xid = some key) (source : UInt32) (errorCode : UInt16)
    (urls : List Entry) :
    Recorded (state.receivedSASrvReply key operation prList source errorCode urls)
      (fun number => state.record options (.serviceReply xid source errorCode urls) number
        (records number)) := by
  have ⟨operations, count⟩ := @operations_onRequest _ _ _ state operation.parent
    (fun request => { request with urls := request.urls ++ urls })
  rw [Server.receivedSASrvReply]
  split
  · rename_i ok
    have added : state.record options (.serviceReply xid source errorCode urls) key (records key) =
        (records key).add source := by
      rw [record, present]
      exact if_pos ⟨waits, ok⟩
    have ⟨_, list, _⟩ := recorded.exact key operation prList prListChanged present
    have kind : ({ operation with
        kind := .multicast (insert source prList) (decide (source ∉ prList)) } :
          Operation Scope Url).kind =
        .multicast (insert source prList) (decide (source ∉ prList)) := rfl
    refine recorded.replace present kind ?_ ?_ (by rw [← operations]; rfl) count
    · rw [added, Responders.prList_add, ← list, Responders.lastIsNew_add, ← list,
        decide_eq_true_iff]
      exact ⟨rfl, Iff.rfl⟩
    · intro number different
      rw [record]
      split
      · rfl
      · refine if_neg (fun both => different ?_)
        rw [waits] at both
        exact (Option.some.inj both.1).symm
  · rename_i failed
    refine recorded.grow (.refl state) (fun number _ _ _ found => ?_)
    rw [record, found]
    exact if_neg (fun both => failed both.2)

section Equality
variable [DecidableEq Scope]

section

variable (recorded : Recorded state records)
include recorded

theorem Recorded.handleServiceReply [LinearOrder Url] (xid : UInt16) (source : UInt32)
    (errorCode : UInt16) (urls : List Entry) :
    Recorded (state.handleServiceReply options xid source errorCode urls)
      (fun number => state.record options (.serviceReply xid source errorCode urls) number
        (records number)) := by
  have elsewhere : (∀ number, state.pendingReplies.lookup xid = some number →
      state.multicast number = none) → ∀ number operation prList prListChanged,
        state.multicast number = some (operation, prList, prListChanged) →
          state.record options (.serviceReply xid source errorCode urls) number (records number) =
            records number := by
    intro other number operation prList prListChanged found
    rw [record, found]
    refine if_neg (fun both => ?_)
    rw [other number both.1] at found
    cases found
  rw [Server.handleServiceReply]
  cases waits : state.pendingReplies.lookup xid with
  | none => exact recorded.grow (.refl state) (elsewhere (by simp [waits]))
  | some key =>
    dsimp only
    cases inside : state.operations.lookup key with
    | none =>
      dsimp only
      have absent : state.multicast key = none := by rw [multicast, inside]
      refine recorded.grow ?_ (elsewhere (fun number same => ?_))
      · exact .of_eq rfl rfl
      · rw [← Option.some.inj (waits.symm.trans same), absent]
    | some operation =>
      dsimp only
      cases kind : operation.kind with
      | unicast daUrl daBusy =>
        have absent : state.multicast key = none := by
          rw [multicast, inside]
          dsimp only
          rw [kind]
        refine recorded.grow (grows_receivedDASrvReply options state key operation daUrl
          errorCode urls) (elsewhere (fun number same => ?_))
        rw [← Option.some.inj (waits.symm.trans same), absent]
      | multicast prList prListChanged =>
        exact recorded.receivedSASrvReply (multicast_eq_some.mpr ⟨inside, kind⟩) waits source
          errorCode urls

/-- The timer of a multicast operation fires. -/
theorem Recorded.requestServiceMulticastTimeout {key : Nat}
    (present : state.multicast key = some (operation, prList, prListChanged))
    (timed : key ∈ state.timers) :
    Recorded ((state.removeTimeout key).requestServiceMulticastTimeout options key operation prList
        prListChanged)
      (fun number => state.record options (.timeout key) number (records number)) := by
  have ⟨_, list, flag⟩ := recorded.exact key operation prList prListChanged present
  have others : ∀ number, number ≠ key →
      state.record options (.timeout key) number (records number) = records number := by
    intro number different
    rw [record]
    split
    · rfl
    · exact if_neg (fun both => different both.1.symm)
  have unchanged : ¬ state.Resets options key operation prList prListChanged →
      state.record options (.timeout key) key (records key) = records key := by
    intro keeps
    rw [record, present]
    exact if_neg (fun both => keeps both.2)
  have same : ¬ state.Resets options key operation prList prListChanged →
      ∀ number operation prList prListChanged,
        state.multicast number = some (operation, prList, prListChanged) →
          state.record options (.timeout key) number (records number) = records number := by
    intro keeps number _ _ _ _
    by_cases equal : number = key
    · exact equal ▸ unchanged keeps
    · exact others number equal
  have kind : operation.updateRetryTime.kind = .multicast prList prListChanged :=
    (multicast_eq_some.mp present).2
  rw [Server.requestServiceMulticastTimeout]
  cases waits : (state.removeTimeout key).pendingReplies.lookup operation.xid with
  | none =>
    have keeps : ¬ state.Resets options key operation prList prListChanged :=
      fun resets => resets.2.1 waits
    refine recorded.replace present kind ?_ others rfl rfl
    rw [unchanged keeps]
    exact ⟨list, flag⟩
  | some number =>
    dsimp only
    split
    · rename_i done
      have settled : Grows state ((((state.removeTimeout key).eraseReply
          operation.xid).markScopesAsDone operation).checkIfFindSrvComplete operation.parent) :=
        ((grows_onRequest ((state.removeTimeout key).eraseReply operation.xid) _ _).trans
          (grows_checkIfFindSrvComplete _ _)).since rfl rfl
      exact recorded.grow (settled.trans (grows_deleteOperation _ key))
        (same (fun resets => resets.2.2.1 done))
    · rename_i goesOn
      rw [repeatMulticast]
      split
      · rename_i changed
        have resets : state.record options (.timeout key) key (records key) = ⟨prList, []⟩ := by
          rw [record, present]
          have found : state.pendingReplies.lookup operation.xid = some number := waits
          exact if_pos ⟨rfl, timed, by rw [found]; exact Option.some_ne_none _, goesOn, changed⟩
        have cleared : ({ operation.updateRetryTime with
            xid := (state.removeTimeout key).nextXid
            kind := .multicast prList false } : Operation Scope Url).kind =
            .multicast prList false := rfl
        refine Recorded.mono (recorded.replace present cleared ?_ others ?_ ?_)
          (grows_addReply _ _ _)
        · rw [resets]
          refine ⟨?_, iff_of_false (by simp) (Responders.not_lastIsNew_reset prList)⟩
          rw [Responders.prList, List.toFinset_nil, Finset.union_empty]
        · rfl
        · rfl
      · rename_i changed
        refine recorded.replace present kind ?_ others rfl rfl
        rw [unchanged (fun resets => changed resets.2.2.2)]
        exact ⟨list, flag⟩

theorem Recorded.timeout [LinearOrder Url] (key : Nat) :
    Recorded (state.timeout options key)
      (fun number => state.record options (.timeout key) number (records number)) := by
  have elsewhere : (key ∈ state.timers → state.multicast key = none) →
      ∀ number operation prList prListChanged,
        state.multicast number = some (operation, prList, prListChanged) →
          state.record options (.timeout key) number (records number) = records number := by
    intro other number operation prList prListChanged found
    rw [record, found]
    refine if_neg (fun both => ?_)
    rw [← both.1, other (both.1 ▸ both.2.1)] at found
    cases found
  rw [Server.timeout]
  split
  · rename_i timed
    dsimp only
    cases inside : (state.removeTimeout key).operations.lookup key with
    | none =>
      refine recorded.grow ?_ (elsewhere (fun _ => ?_))
      · exact .of_eq rfl rfl
      · rw [multicast, show state.operations.lookup key = none from inside]
    | some operation =>
      dsimp only
      cases kind : operation.kind with
      | unicast daUrl daBusy =>
        dsimp only
        have grows := grows_requestServiceDATimeout options (state.removeTimeout key) key
          operation daUrl
        refine recorded.grow (grows.since rfl rfl) (elsewhere (fun _ => ?_))
        rw [multicast, show state.operations.lookup key = some operation from inside]
        dsimp only
        rw [kind]
      | multicast prList prListChanged =>
        exact recorded.requestServiceMulticastTimeout (multicast_eq_some.mpr ⟨inside, kind⟩)
          timed
  · rename_i idle
    exact recorded.grow (.refl state) (elsewhere (fun timed => absurd timed idle))

/-- Every event keeps the records. -/
theorem Recorded.step [LinearOrder Url] (event : Event Scope Url Entry) :
    Recorded (state.step options event)
      (fun number => state.record options event number (records number)) := by
  cases event with
  | findService scopes found =>
    refine recorded.grow (grows_findService options state scopes found) ?_
    intro number operation prList prListChanged inside
    rw [record, inside]
  | serviceReply xid source errorCode urls =>
    exact recorded.handleServiceReply xid source errorCode urls
  | timeout key => exact recorded.timeout key
  | newDAAdvert url scopes bootTimestamp errorCode addressed =>
    refine recorded.grow (grows_newDAAdvert state url scopes bootTimestamp errorCode addressed) ?_
    intro number operation prList prListChanged inside
    rw [record, inside]

end

end Equality

end Records

theorem recorded_initial (agents : List (DirectoryAgent Scope Url)) (nextXid : UInt16) :
    Recorded (initial agents nextXid : Server Scope Url Entry) (fun _ => .initial) := by
  refine ⟨fun number operation prList prListChanged found => ?_, fun _ _ => rfl⟩
  have impossible := (multicast_eq_some.mp found).1
  cases impossible

theorem timers_onRequest (state : Server Scope Url Entry) (parent : Nat)
    (change : PendingSrvRqst Scope Entry → PendingSrvRqst Scope Entry) :
    (state.onRequest parent change).timers = state.timers := by
  rw [onRequest]
  split <;> rfl

theorem timers_checkIfFindSrvComplete [DecidableEq Scope] (state : Server Scope Url Entry)
    (parent : Nat) :
    (state.checkIfFindSrvComplete parent).timers = state.timers := by
  rw [checkIfFindSrvComplete]
  split
  · rfl
  · split <;> rfl

theorem timers_addReply (state : Server Scope Url Entry) (xid : UInt16) (number : Nat) :
    (state.addReply xid number).timers = state.timers := by
  rw [addReply]
  split <;> rfl

section Convergence
variable [DecidableEq Scope] [LinearOrder Url] (options : Options Scope)

theorem recorded_run (agents : List (DirectoryAgent Scope Url))
    (nextXid : UInt16) (events : List (Event Scope Url Entry)) :
    Recorded
      (run (recordedStep options) (initial agents nextXid, fun _ => .initial) events).1
      (run (recordedStep options) (initial agents nextXid, fun _ => .initial) events).2 :=
  @run_invariant _ _ (recordedStep options) (fun _ _ => True)
    (fun state => Recorded state.1 state.2) (fun _ event recorded _ => recorded.step event) _ _
    (recorded_initial agents nextXid) (permitted_true _ _ _)

/-- The size and the time of a multicast operation are below their limits at its timeout. -/
def WithinLimits (operation : Operation Scope Url) (prList : Finset UInt32) : Prop :=
  prList.card ≤ maxPrListSize ∧ operation.updateRetryTime.totalTime < options.configMcMax

/-- What a timeout should find: the flag says whether an address was added, and with a new
address the request is sent again, with a timer for the next timeout. -/
def NoticesResponders (state : Server Scope Url Entry) (number : Nat)
    (operation : Operation Scope Url) (prList : Finset UInt32) (prListChanged : Bool)
    (responders : Responders) : Prop :=
  (prListChanged = true ↔ responders.Grown) ∧
    (number ∈ state.timers → responders.Grown → WithinLimits options operation prList →
      number ∈ (state.timeout options number).timers)

/-- The last answer added an address if any did, and the callback still waits under the xid of
the request. -/
def LastAnswerNew (state : Server Scope Url Entry) (number : Nat)
    (operation : Operation Scope Url) (prList : Finset UInt32) (responders : Responders) : Prop :=
  (responders.Grown → responders.LastIsNew) ∧
    (number ∈ state.timers → responders.Grown → WithinLimits options operation prList →
      state.pendingReplies.lookup operation.xid ≠ none)

/-- A multicast operation has a timer after its timeout when it goes on. -/
theorem mem_timers_timeout {state : Server Scope Url Entry} {number : Nat}
    (present : state.multicast number = some (operation, prList, prListChanged))
    (timed : number ∈ state.timers) :
    number ∈ (state.timeout options number).timers ↔
      state.pendingReplies.lookup operation.xid ≠ none ∧
        ¬ multicastDone options operation prList prListChanged := by
  have ⟨inside, kind⟩ := multicast_eq_some.mp present
  have stopped : number ∉ (state.removeTimeout number).timers := Finset.notMem_erase number _
  rw [Server.timeout, if_pos timed]
  dsimp only
  rw [show (state.removeTimeout number).operations.lookup number = some operation from inside]
  dsimp only
  rw [kind]
  dsimp only
  rw [requestServiceMulticastTimeout]
  have waits : (state.removeTimeout number).pendingReplies.lookup operation.xid =
      state.pendingReplies.lookup operation.xid := rfl
  rw [waits]
  cases state.pendingReplies.lookup operation.xid with
  | none => exact iff_of_false stopped (fun both => both.1 rfl)
  | some key =>
    dsimp only
    split
    · rename_i done
      refine iff_of_false ?_ (fun both => both.2 done)
      rw [deleteOperation, timers_checkIfFindSrvComplete, markScopesAsDone, timers_onRequest]
      exact stopped
    · rename_i goesOn
      refine iff_of_true ?_ ⟨Option.some_ne_none _, goesOn⟩
      rw [repeatMulticast]
      split
      · rw [timers_addReply]
        exact Finset.mem_insert_self _ _
      · exact Finset.mem_insert_self _ _

/-- In every run, whenever a multicast operation waits, its timeout notices the addresses that
were added since the last reset exactly when the last answer was from one of them, or none was,
and the callback is still there. -/
theorem responders_noticed_iff (options : Options Scope) (agents : List (DirectoryAgent Scope Url))
    (nextXid : UInt16) (events : List (Event Scope Url Entry)) (number : Nat)
    (operation : Operation Scope Url) (prList : Finset UInt32) (prListChanged : Bool)
    (present : (run (recordedStep options) (initial agents nextXid, fun _ => .initial)
      events).1.multicast number = some (operation, prList, prListChanged)) :
    let after := run (recordedStep options) (initial agents nextXid, fun _ => .initial) events
    NoticesResponders options after.1 number operation prList prListChanged (after.2 number) ↔
      LastAnswerNew options after.1 number operation prList (after.2 number) := by
  have recorded := recorded_run options agents nextXid events
  generalize run (recordedStep options) (initial agents nextXid, fun _ => .initial) events = after
    at present recorded
  have ⟨_, _, flag⟩ := recorded.exact number operation prList prListChanged present
  constructor
  · intro ⟨told, again⟩
    refine ⟨fun grown => flag.mp (told.mpr grown), fun timed grown within => ?_⟩
    exact ((mem_timers_timeout options present timed).mp (again timed grown within)).1
  · intro ⟨last, waits⟩
    have told : prListChanged = true ↔ (after.2 number).Grown :=
      ⟨fun changed => (flag.mp changed).grown, fun grown => flag.mpr (last grown)⟩
    refine ⟨told, fun timed grown within => ?_⟩
    refine (mem_timers_timeout options present timed).mpr ⟨waits timed grown within, fun done => ?_⟩
    cases done with
    | inl unchanged => exact absurd (told.mpr grown) (by rw [unchanged.1]; exact Bool.false_ne_true)
    | inr limit =>
      cases limit with
      | inl size => exact absurd within.1 (Nat.not_le.mpr size)
      | inr time => exact absurd within.2 (UInt32.not_lt.mpr time)

end Convergence

/-- Two services answer a request. -/
theorem two_responders_noticed :
    let options : Options Nat := ⟨false, ∅, 2000, 15000, 15000⟩
    let after := run (recordedStep options) ((initial [] 0 : Server Nat Nat Nat), fun _ => .initial)
      [.findService {1} [], .serviceReply 0 9 slpOk [4], .serviceReply 0 8 slpOk [5]]
    NoticesResponders options after.1 0 ⟨0, 2000, 0, 1, {1}, 0, .multicast {8, 9} true⟩ {8, 9} true
      (after.2 0) := by
  refine (responders_noticed_iff ⟨false, ∅, 2000, 15000, 15000⟩ [] 0 [.findService {1} [],
    .serviceReply 0 9 slpOk [4], .serviceReply 0 8 slpOk [5]] 0 _ _ _ rfl).mpr
    ⟨fun _ => ⟨[9], 8, rfl, by decide, by decide⟩, fun _ _ _ found => ?_⟩
  cases found

/-- One answers twice, and the request is not sent again. -/
theorem duplicate_hides_responder :
    let options : Options Nat := ⟨false, ∅, 2000, 15000, 15000⟩
    let after := run (recordedStep options) ((initial [] 0 : Server Nat Nat Nat), fun _ => .initial)
      [.findService {1} [], .timeout 0, .serviceReply 0 9 slpOk [4], .serviceReply 0 9 slpOk [4]]
    let operation : Operation Nat Nat := ⟨0, 4000, 2000, 2, {1}, 0, .multicast {9} false⟩
    after.1.multicast 0 = some (operation, {9}, false) ∧
      ¬ NoticesResponders options after.1 0 operation {9} false (after.2 0) ∧
      0 ∈ after.1.timers ∧ WithinLimits options operation {9} ∧
      0 ∉ (after.1.timeout options 0).timers := by
  refine ⟨rfl, ?_, by decide +kernel, ⟨by decide, by decide⟩, by decide +kernel⟩
  intro ⟨told, _⟩
  exact Bool.false_ne_true (told.mpr ⟨9, by decide, by decide⟩)

end Server

end OpenLighting.Slp
