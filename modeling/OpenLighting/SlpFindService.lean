import Mathlib.Data.UInt
import OpenLighting.SlpServer

namespace OpenLighting.Slp

open TransitionSystem FiniteMap

variable {Scope Url Entry : Type}

section Condition

variable [DecidableEq Scope] [LinearOrder Url]

/-- The number of operations that `FindServiceInScopes` starts. -/
def newOperations : List (DirectoryAgent Scope Url) → Finset Scope → Nat
  | [], remaining => if remaining = ∅ then 0 else 1
  | agent :: rest, remaining =>
    if remaining ∩ agent.scopes = ∅ then newOperations rest remaining
    else newOperations rest (remaining \ agent.scopes) + 1

namespace Server

/-- No callback waits under the next xids. -/
def XidsFree (state : Server Scope Url Entry) (count : Nat) : Prop :=
  count ≤ 2 ^ 16 ∧ ∀ index < count,
    state.pendingReplies.lookup (state.nextXid + UInt16.ofNat index) = none

/-- There are xids for the operations that `FindServiceInScopes` starts. -/
def Room (state : Server Scope Url Entry) (scopes : Finset Scope) : Prop :=
  state.XidsFree (newOperations (state.getMinimalCoveringList scopes) scopes)

/-- A call has scopes to look in or a server that is a directory agent, no directory agent
answers that it is busy, and no xid is allocated while a callback waits under it. -/
def Orderly (options : Options Scope) (state : Server Scope Url Entry) :
    Event Scope Url Entry → Prop
  | .findService scopes _ =>
    (options.enableDa = true ∨ scopes ≠ ∅) ∧
      state.Room (if options.enableDa then scopes \ options.configuredScopes else scopes)
  | .serviceReply xid _ errorCode _ => ∀ number operation daUrl daBusy,
      state.pendingReplies.lookup xid = some number →
      state.operations.lookup number = some operation →
      operation.kind = .unicast daUrl daBusy →
        errorCode ≠ daBusyNow ∧ (errorCode ≠ slpOk →
          (state.abandon number operation.xid (some daUrl)).Room operation.scopes)
  | .timeout number => ∀ operation, state.operations.lookup number = some operation →
      match operation.kind with
      | .unicast daUrl _ =>
        if options.configRetryMax <
            operation.updateRetryTime.totalTime + operation.updateRetryTime.retryTime then
          (state.abandon number operation.xid (some daUrl)).Room operation.scopes
        else state.stillServes daUrl operation.scopes = false →
          (state.abandon number operation.xid none).Room operation.scopes
      | .multicast prList prListChanged =>
        ¬ multicastDone options operation prList prListChanged → prListChanged = true →
          (state.eraseReply operation.xid).XidsFree 1
  | .newDAAdvert _ _ _ _ _ => True

end Server

end Condition

namespace Server

/-- No deleted object is used, no callback runs twice, and a call whose callback has not run
has an operation with a timer, and one operation for each scope that is not complete. -/
structure Attended (state : Server Scope Url Entry) : Prop where
  unused : state.misused = []
  once : (state.completed.map Prod.fst).Nodup
  owned : ∀ number < state.requestCount, number ∉ state.completed.map Prod.fst →
    ∃ request, state.requests.lookup number = some request ∧
      (∃ key operation, state.operations.lookup key = some operation ∧
        operation.parent = number ∧ key ∈ state.timers) ∧
      ∀ scope ∈ request.pending, ∃! key, ∃ operation,
        state.operations.lookup key = some operation ∧ operation.parent = number ∧
          scope ∈ operation.scopes

end Server

/-- The requests are those whose callback has not run. -/
structure Bookkept (requests : Nat → Option (PendingSrvRqst Scope Entry)) (requestCount : Nat)
    (completed : List (Nat × List Entry)) : Prop where
  once : (completed.map Prod.fst).Nodup
  known : ∀ number ∈ completed.map Prod.fst, number < requestCount
  waiting : ∀ number, requests number ≠ none ↔
    number < requestCount ∧ number ∉ completed.map Prod.fst
  unfinished : ∀ number request, requests number = some request → request.pending ≠ ∅

/-- Each operation has its timer and its callback, under its own xid. -/
structure Scheduled (operations : Nat → Option (Operation Scope Url)) (timers : Finset Nat)
    (pendingReplies : UInt16 → Option Nat) (operationCount : Nat) : Prop where
  timed : ∀ key, key ∈ timers ↔ operations key ≠ none
  numbered : ∀ key, operations key ≠ none → key < operationCount
  replies : ∀ xid key, pendingReplies xid = some key ↔
    ∃ operation, operations key = some operation ∧ operation.xid = xid

/-- The scopes that are not complete are shared out among the operations, but for those of
one request that no operation has. -/
structure Shared (pending : Nat → Finset Scope) (operations : Nat → Option (Operation Scope Url))
    (parent : Nat) (orphans : Finset Scope) : Prop where
  nonempty : ∀ key operation, operations key = some operation → operation.scopes ≠ ∅
  inside : ∀ key operation, operations key = some operation →
    operation.scopes ⊆ pending operation.parent
  apart : ∀ key operation other rival, operations key = some operation →
    operations other = some rival → operation.parent = rival.parent → key ≠ other →
      Disjoint operation.scopes rival.scopes
  covered : ∀ number, ∀ scope ∈ pending number, (number = parent ∧ scope ∈ orphans) ∨
    ∃ key operation, operations key = some operation ∧ operation.parent = number ∧
      scope ∈ operation.scopes
  orphaned : orphans ⊆ pending parent
  separate : ∀ key operation, operations key = some operation → operation.parent = parent →
    Disjoint operation.scopes orphans

def pendingScopes (requests : Nat → Option (PendingSrvRqst Scope Entry)) (number : Nat) :
    Finset Scope :=
  match requests number with
  | some request => request.pending
  | none => ∅

section Operations

variable {operations : Nat → Option (Operation Scope Url)} {timers : Finset Nat}
  {pendingReplies : UInt16 → Option Nat} {operationCount : Nat}

section

variable (scheduled : Scheduled operations timers pendingReplies operationCount)
include scheduled

theorem Scheduled.start {key count : Nat} {operation : Operation Scope Url}
    (fresh : operations key = none) (free : pendingReplies operation.xid = none)
    (more : operationCount ≤ count) (below : key < count) :
    Scheduled (Function.update operations key (some operation)) (insert key timers)
      (Function.update pendingReplies operation.xid (some key)) count := by
  refine ⟨?_, ?_, ?_⟩
  · intro other
    rw [Finset.mem_insert, Function.update_apply, scheduled.timed]
    split
    · rename_i same
      exact iff_of_true (Or.inl same) (Option.some_ne_none _)
    · rename_i different
      exact or_iff_right different
  · intro other present
    rw [Function.update_apply] at present
    split at present
    · rename_i same
      rw [same]
      exact below
    · exact lt_of_lt_of_le (scheduled.numbered other present) more
  · intro xid other
    rw [Function.update_apply, Function.update_apply]
    have before := scheduled.replies xid other
    split
    · rename_i same
      rw [same] at before ⊢
      rw [free] at before
      split
      · rename_i equal
        rw [equal]
        exact iff_of_true rfl ⟨operation, rfl, rfl⟩
      · rename_i different
        rw [← before]
        refine iff_of_false ?_ ?_
        · exact fun found => different (Option.some.inj found).symm
        · exact fun found => absurd found (by simp)
    · rename_i different
      split
      · rename_i equal
        rw [equal, fresh] at before
        refine iff_of_false ?_ ?_
        · intro found
          obtain ⟨_, impossible, _⟩ := before.mp (equal ▸ found)
          cases impossible
        · rintro ⟨_, found, same⟩
          cases found
          exact different same.symm
      · exact before

theorem Scheduled.drop {key : Nat} {operation : Operation Scope Url}
    (present : operations key = some operation) :
    Scheduled (Function.update operations key none) (timers.erase key)
      (Function.update pendingReplies operation.xid none) operationCount := by
  have own := (scheduled.replies operation.xid key).mpr ⟨operation, present, rfl⟩
  refine ⟨?_, ?_, ?_⟩
  · intro other
    rw [Finset.mem_erase, Function.update_apply, scheduled.timed]
    split
    · rename_i same
      exact iff_of_false (fun kept => kept.1 same) (fun kept => kept rfl)
    · rename_i different
      exact and_iff_right different
  · intro other kept
    rw [Function.update_apply] at kept
    split at kept
    · exact absurd rfl kept
    · exact scheduled.numbered other kept
  · intro xid other
    rw [Function.update_apply, Function.update_apply]
    have before := scheduled.replies xid other
    split
    · rename_i same
      refine iff_of_false (fun found => by cases found) ?_
      rintro ⟨rival, found, equal⟩
      split at found
      · cases found
      · rename_i different
        rw [same] at equal
        have also := (scheduled.replies operation.xid other).mpr ⟨rival, found, equal⟩
        rw [own] at also
        exact different (Option.some.inj also).symm
    · rename_i different
      split
      · rename_i equal
        refine iff_of_false ?_ (fun found => by obtain ⟨_, impossible, _⟩ := found; cases impossible)
        intro found
        obtain ⟨rival, inside, same⟩ := before.mp found
        rw [equal, present] at inside
        cases inside
        exact different same.symm
      · exact before

/-- An operation is changed, but for its xid. -/
theorem Scheduled.update {key : Nat} {operation changed : Operation Scope Url}
    (present : operations key = some operation) (same : changed.xid = operation.xid) :
    Scheduled (Function.update operations key (some changed)) timers pendingReplies
      operationCount := by
  have somewhere : ∀ other, Function.update operations key (some changed) other ≠ none ↔
      operations other ≠ none := by
    intro other
    rw [Function.update_apply]
    split
    · rename_i equal
      rw [equal, present]
      exact iff_of_true (Option.some_ne_none _) (Option.some_ne_none _)
    · rfl
  refine ⟨?_, ?_, ?_⟩
  · intro other
    rw [somewhere]
    exact scheduled.timed other
  · intro other kept
    exact scheduled.numbered other ((somewhere other).mp kept)
  · intro xid other
    rw [scheduled.replies, Function.update_apply]
    split
    · rename_i equal
      rw [equal, present]
      constructor
      · rintro ⟨_, old, found⟩
        cases old
        exact ⟨changed, rfl, same.trans found⟩
      · rintro ⟨_, new, found⟩
        cases new
        exact ⟨operation, rfl, same.symm.trans found⟩
    · rfl

end

end Operations

section Scopes

variable {pending : Nat → Finset Scope} {operations : Nat → Option (Operation Scope Url)}
  {parent : Nat} {orphans : Finset Scope}

/-- Whose the orphans are does not matter where there are none. -/
theorem Shared.anyParent (shared : Shared pending operations parent ∅) (other : Nat) :
    Shared pending operations other ∅ := by
  refine ⟨shared.nonempty, shared.inside, shared.apart, ?_, Finset.empty_subset _, ?_⟩
  · intro number scope member
    rcases shared.covered number scope member with orphan | owned
    · exact absurd orphan.2 (Finset.notMem_empty scope)
    · exact Or.inr owned
  · exact fun _ operation _ _ => Finset.disjoint_empty_right operation.scopes

/-- An operation takes over orphans. -/
theorem Shared.start [DecidableEq Scope] (shared : Shared pending operations parent orphans)
    {key : Nat} {operation : Operation Scope Url} (fresh : operations key = none)
    (own : operation.parent = parent) (offered : operation.scopes ≠ ∅)
    (taken : operation.scopes ⊆ orphans) :
    Shared pending (Function.update operations key (some operation)) parent
      (orphans \ operation.scopes) := by
  refine ⟨?_, ?_, ?_, ?_, ?_, ?_⟩
  · intro other found present
    rw [Function.update_apply] at present
    split at present
    · cases present
      exact offered
    · exact shared.nonempty other found present
  · intro other found present
    rw [Function.update_apply] at present
    split at present
    · cases present
      rw [own]
      exact taken.trans shared.orphaned
    · exact shared.inside other found present
  · intro one first two second atOne atTwo same different
    rw [Function.update_apply] at atOne atTwo
    split at atOne <;> split at atTwo
    · rename_i here also
      omega
    · cases atOne
      exact ((shared.separate two second atTwo (same.symm.trans own)).mono_right taken).symm
    · cases atTwo
      exact (shared.separate one first atOne (same.trans own)).mono_right taken
    · exact shared.apart one first two second atOne atTwo same different
  · intro number scope member
    rcases shared.covered number scope member with ⟨rfl, orphan⟩ | ⟨other, found, present, rest⟩
    · by_cases here : scope ∈ operation.scopes
      · right
        exact ⟨key, operation, Function.update_self .., own, here⟩
      · exact Or.inl ⟨rfl, Finset.mem_sdiff.mpr ⟨orphan, here⟩⟩
    · right
      refine ⟨other, found, ?_, rest⟩
      rw [Function.update_apply, if_neg]
      · exact present
      · rintro rfl
        rw [fresh] at present
        cases present
  · exact Finset.sdiff_subset.trans shared.orphaned
  · intro other found present same
    rw [Function.update_apply] at present
    split at present
    · cases present
      exact Finset.disjoint_sdiff
    · exact (shared.separate other found present same).mono_right Finset.sdiff_subset

/-- An operation is deleted, and its scopes are orphans. -/
theorem Shared.drop (shared : Shared pending operations parent ∅) {key : Nat}
    {operation : Operation Scope Url} (present : operations key = some operation) :
    Shared pending (Function.update operations key none) operation.parent operation.scopes := by
  have kept : ∀ other found, Function.update operations key none other = some found →
      other ≠ key ∧ operations other = some found := by
    intro other found inside
    rw [Function.update_apply] at inside
    split at inside
    · cases inside
    · rename_i different
      exact ⟨different, inside⟩
  refine ⟨?_, ?_, ?_, ?_, shared.inside key operation present, ?_⟩
  · intro other found inside
    exact shared.nonempty other found (kept other found inside).2
  · intro other found inside
    exact shared.inside other found (kept other found inside).2
  · intro one first two second atOne atTwo
    exact shared.apart one first two second (kept one first atOne).2 (kept two second atTwo).2
  · intro number scope member
    rcases shared.covered number scope member with orphan | ⟨other, found, inside, same, has⟩
    · exact absurd orphan.2 (Finset.notMem_empty scope)
    · by_cases here : other = key
      · rw [here, present] at inside
        cases inside
        exact Or.inl ⟨same.symm, has⟩
      · right
        refine ⟨other, found, ?_, same, has⟩
        rw [Function.update_apply, if_neg here]
        exact inside
  · intro other found inside same
    have old := kept other found inside
    exact shared.apart other found key operation old.2 present same old.1

/-- An operation is changed, but for its scopes and its request. -/
theorem Shared.update (shared : Shared pending operations parent orphans) {key : Nat}
    {operation changed : Operation Scope Url} (present : operations key = some operation)
    (scopes : changed.scopes = operation.scopes) (own : changed.parent = operation.parent) :
    Shared pending (Function.update operations key (some changed)) parent orphans := by
  have old : ∀ other found, Function.update operations key (some changed) other = some found →
      ∃ before, operations other = some before ∧ found.scopes = before.scopes ∧
        found.parent = before.parent := by
    intro other found inside
    rw [Function.update_apply] at inside
    split at inside
    · rename_i same
      cases inside
      exact ⟨operation, same ▸ present, scopes, own⟩
    · exact ⟨found, inside, rfl, rfl⟩
  refine ⟨?_, ?_, ?_, ?_, shared.orphaned, ?_⟩
  · intro other found inside
    obtain ⟨before, atOther, same, _⟩ := old other found inside
    rw [same]
    exact shared.nonempty other before atOther
  · intro other found inside
    obtain ⟨before, atOther, same, mother⟩ := old other found inside
    rw [same, mother]
    exact shared.inside other before atOther
  · intro one first two second atOne atTwo equal different
    obtain ⟨former, wasOne, sameOne, motherOne⟩ := old one first atOne
    obtain ⟨latter, wasTwo, sameTwo, motherTwo⟩ := old two second atTwo
    rw [sameOne, sameTwo]
    rw [motherOne, motherTwo] at equal
    exact shared.apart one former two latter wasOne wasTwo equal different
  · intro number scope member
    rcases shared.covered number scope member with orphan | ⟨other, found, inside, same, has⟩
    · exact Or.inl orphan
    · right
      by_cases here : other = key
      · rw [here, present] at inside
        cases inside
        exact ⟨key, changed, Function.update_self .., own.trans same, scopes ▸ has⟩
      · refine ⟨other, found, ?_, same, has⟩
        rw [Function.update_apply, if_neg here]
        exact inside
  · intro other found inside same
    obtain ⟨before, atOther, equal, mother⟩ := old other found inside
    rw [equal]
    exact shared.separate other before atOther (mother.symm.trans same)

/-- The orphans are complete. -/
theorem Shared.finish [DecidableEq Scope] (shared : Shared pending operations parent orphans) :
    Shared (Function.update pending parent (pending parent \ orphans)) operations parent ∅ := by
  refine ⟨shared.nonempty, ?_, shared.apart, ?_, Finset.empty_subset _, ?_⟩
  · intro key operation present
    rw [Function.update_apply]
    split
    · rename_i same
      rw [← same]
      apply Finset.subset_sdiff.mpr
      exact ⟨shared.inside key operation present, shared.separate key operation present same⟩
    · exact shared.inside key operation present
  · intro number scope member
    right
    rw [Function.update_apply] at member
    split at member
    · rename_i same
      obtain ⟨before, kept⟩ := Finset.mem_sdiff.mp member
      rcases shared.covered parent scope before with orphan | owned
      · exact absurd orphan.2 kept
      · rw [same]
        exact owned
    · rename_i different
      rcases shared.covered number scope member with orphan | owned
      · omega
      · exact owned
  · exact fun _ operation _ _ => Finset.disjoint_empty_right operation.scopes

/-- A request begins with all its scopes orphans. -/
theorem Shared.enter (shared : Shared pending operations parent ∅) {number : Nat}
    (unknown : pending number = ∅) (scopes : Finset Scope) :
    Shared (Function.update pending number scopes) operations number scopes := by
  have other : ∀ key operation, operations key = some operation → operation.parent ≠ number := by
    intro key operation present same
    have inside := shared.inside key operation present
    rw [same, unknown] at inside
    exact shared.nonempty key operation present (Finset.subset_empty.mp inside)
  refine ⟨shared.nonempty, ?_, shared.apart, ?_, ?_, ?_⟩
  · intro key operation present
    rw [Function.update_apply, if_neg (other key operation present)]
    exact shared.inside key operation present
  · intro request scope member
    rw [Function.update_apply] at member
    split at member
    · rename_i same
      exact Or.inl ⟨same, member⟩
    · rcases shared.covered request scope member with orphan | owned
      · exact absurd orphan.2 (Finset.notMem_empty scope)
      · exact Or.inr owned
  · rw [Function.update_self]
  · intro key operation present same
    exact absurd same (other key operation present)

end Scopes

section Requests

variable {requests : Nat → Option (PendingSrvRqst Scope Entry)} {requestCount : Nat}
  {completed : List (Nat × List Entry)}

section

variable (bookkept : Bookkept requests requestCount completed)
include bookkept

theorem Bookkept.enter {request : PendingSrvRqst Scope Entry} (offered : request.pending ≠ ∅) :
    Bookkept (Function.update requests requestCount (some request)) (requestCount + 1) completed := by
  refine ⟨bookkept.once, ?_, ?_, ?_⟩
  · intro number member
    exact Nat.lt_succ_of_lt (bookkept.known number member)
  · intro number
    rw [Function.update_apply]
    split
    · refine iff_of_true (Option.some_ne_none _) ⟨by omega, ?_⟩
      intro member
      have below := bookkept.known number member
      omega
    · rw [bookkept.waiting]
      exact and_congr_left (fun _ => by omega)
  · intro number found present
    rw [Function.update_apply] at present
    split at present
    · cases present
      exact offered
    · exact bookkept.unfinished number found present

/-- A callback runs at once. -/
theorem Bookkept.skip (urls : List Entry) :
    Bookkept requests (requestCount + 1) (completed ++ [(requestCount, urls)]) := by
  have fresh : requestCount ∉ completed.map Prod.fst :=
    fun member => absurd (bookkept.known _ member) (lt_irrefl _)
  have names : (completed ++ [(requestCount, urls)]).map Prod.fst =
      completed.map Prod.fst ++ [requestCount] := List.map_append
  refine ⟨?_, ?_, ?_, bookkept.unfinished⟩
  · rw [names, ← List.concat_eq_append]
    exact bookkept.once.concat fresh
  · rw [names]
    intro number member
    rcases List.mem_append.mp member with before | last
    · exact Nat.lt_succ_of_lt (bookkept.known number before)
    · rw [List.mem_singleton.mp last]
      omega
  · intro number
    rw [names, bookkept.waiting, List.mem_append, List.mem_singleton, not_or]
    constructor
    · exact fun before => ⟨by omega, before.2, by omega⟩
    · exact fun after => ⟨by omega, after.2.1⟩

theorem Bookkept.change {number : Nat} {request changed : PendingSrvRqst Scope Entry}
    (present : requests number = some request) (offered : changed.pending ≠ ∅) :
    Bookkept (Function.update requests number (some changed)) requestCount completed := by
  refine ⟨bookkept.once, bookkept.known, ?_, ?_⟩
  · intro other
    rw [← bookkept.waiting, Function.update_apply]
    split
    · rename_i same
      rw [same, present]
      exact iff_of_true (Option.some_ne_none _) (Option.some_ne_none _)
    · rfl
  · intro other found inside
    rw [Function.update_apply] at inside
    split at inside
    · cases inside
      exact offered
    · exact bookkept.unfinished other found inside

end

variable {number : Nat}

/-- A callback runs and its request is deleted. -/
theorem Bookkept.finish (bookkept : Bookkept requests requestCount completed)
    (present : requests number ≠ none) (urls : List Entry) :
    Bookkept (Function.update requests number none) requestCount
      (completed ++ [(number, urls)]) := by
  have running := (bookkept.waiting number).mp present
  have names : (completed ++ [(number, urls)]).map Prod.fst =
      completed.map Prod.fst ++ [number] := List.map_append
  refine ⟨?_, ?_, ?_, ?_⟩
  · rw [names, ← List.concat_eq_append]
    exact bookkept.once.concat running.2
  · rw [names]
    intro other member
    rcases List.mem_append.mp member with before | last
    · exact bookkept.known other before
    · rw [List.mem_singleton.mp last]
      exact running.1
  · intro other
    rw [names, Function.update_apply, List.mem_append, List.mem_singleton, not_or]
    split
    · rename_i same
      exact iff_of_false (fun kept => kept rfl) (fun after => after.2.2 same)
    · rename_i different
      rw [bookkept.waiting]
      constructor
      · exact fun before => ⟨before.1, before.2, different⟩
      · exact fun after => ⟨after.1, after.2.1⟩
  · intro other found inside
    rw [Function.update_apply] at inside
    split at inside
    · cases inside
    · exact bookkept.unfinished other found inside

theorem pendingScopes_some {request : PendingSrvRqst Scope Entry}
    (present : requests number = some request) :
    pendingScopes requests number = request.pending := by
  unfold pendingScopes
  rw [present]

theorem pendingScopes_none (absent : requests number = none) :
    pendingScopes requests number = ∅ := by
  unfold pendingScopes
  rw [absent]

/-- The scopes of an entry that are not complete. -/
def pendingOf (entry : Option (PendingSrvRqst Scope Entry)) : Finset Scope :=
  match entry with
  | some request => request.pending
  | none => ∅

theorem pendingScopes_update (requests : Nat → Option (PendingSrvRqst Scope Entry)) (number : Nat)
    (request : PendingSrvRqst Scope Entry) :
    pendingScopes (Function.update requests number (some request)) =
      Function.update (pendingScopes requests) number request.pending :=
  Function.comp_update pendingOf requests number (some request)

theorem pendingScopes_erase (requests : Nat → Option (PendingSrvRqst Scope Entry)) (number : Nat) :
    pendingScopes (Function.update requests number none) =
      Function.update (pendingScopes requests) number ∅ :=
  Function.comp_update pendingOf requests number none

end Requests

namespace Server

/-- The state is as it should be, but for the scopes of one request that no operation has. -/
structure Tended (state : Server Scope Url Entry) (parent : Nat) (orphans : Finset Scope) : Prop where
  unused : state.misused = []
  bookkept : Bookkept (fun number => state.requests.lookup number) state.requestCount state.completed
  scheduled : Scheduled (fun key => state.operations.lookup key) state.timers
    (fun xid => state.pendingReplies.lookup xid) state.operationCount
  shared : Shared (pendingScopes fun number => state.requests.lookup number)
    (fun key => state.operations.lookup key) parent orphans

section Invariant

variable {state : Server Scope Url Entry} {options : Options Scope} {parent : Nat}
  {orphans : Finset Scope}

theorem exists_request {number : Nat} {scope : Scope}
    (member : scope ∈ pendingScopes (fun number => state.requests.lookup number) number) :
    ∃ request, state.requests.lookup number = some request ∧ scope ∈ request.pending := by
  unfold pendingScopes at member
  split at member
  · rename_i request found
    exact ⟨request, found, member⟩
  · exact absurd member (Finset.notMem_empty scope)

theorem Tended.attended (tended : Tended state parent ∅) : Attended state := by
  refine ⟨tended.unused, tended.bookkept.once, ?_⟩
  intro number below running
  obtain ⟨request, found⟩ := Option.ne_none_iff_exists'.mp
    ((tended.bookkept.waiting number).mpr ⟨below, running⟩)
  have share : ∀ scope ∈ request.pending, ∃ key operation,
      state.operations.lookup key = some operation ∧ operation.parent = number ∧
        scope ∈ operation.scopes := by
    intro scope member
    have pending : scope ∈ pendingScopes (fun number => state.requests.lookup number) number := by
      rw [pendingScopes_some found]
      exact member
    rcases tended.shared.covered number scope pending with orphan | owned
    · exact absurd orphan.2 (Finset.notMem_empty scope)
    · exact owned
  refine ⟨request, found, ?_, ?_⟩
  · obtain ⟨scope, member⟩ := Finset.nonempty_iff_ne_empty.mpr
      (tended.bookkept.unfinished number request found)
    obtain ⟨key, operation, present, own, _⟩ := share scope member
    refine ⟨key, operation, present, own, (tended.scheduled.timed key).mpr ?_⟩
    exact Option.ne_none_iff_exists'.mpr ⟨operation, present⟩
  · intro scope member
    obtain ⟨key, operation, present, own, has⟩ := share scope member
    refine ⟨key, ⟨operation, present, own, has⟩, ?_⟩
    rintro other ⟨rival, also, mother, holds⟩
    by_contra different
    have apart := tended.shared.apart other rival key operation also present
      (mother.trans own.symm) different
    exact Finset.disjoint_left.mp apart holds has

theorem xid_offset (xid : UInt16) (index : Nat) :
    xid + 1 + UInt16.ofNat index = xid + UInt16.ofNat (index + 1) := by
  rw [UInt16.ofNat_add, UInt16.add_assoc, UInt16.add_comm 1]
  rfl

theorem xid_apart (xid : UInt16) {index : Nat} (small : index + 1 < 2 ^ 16) :
    xid + UInt16.ofNat (index + 1) ≠ xid := by
  intro same
  have values := congrArg UInt16.toNat same
  rw [UInt16.toNat_add, UInt16.toNat_ofNat'] at values
  omega

theorem addReply_free {xid : UInt16} (free : state.pendingReplies.lookup xid = none) (number : Nat) :
    state.addReply xid number =
      { state with pendingReplies := state.pendingReplies.insert xid number } := by
  unfold addReply
  rw [free]

theorem startOperation_free (free : state.pendingReplies.lookup state.nextXid = none)
    (scopes : Finset Scope) (parent : Nat) (kind : Kind Url) :
    state.startOperation options scopes parent kind =
      { state with
        nextXid := state.nextXid + 1
        operationCount := state.operationCount + 1
        operations := state.operations.insert state.operationCount
          ⟨state.nextXid, options.configRetry, 0, 1, scopes, parent, kind⟩
        timers := insert state.operationCount state.timers
        pendingReplies := state.pendingReplies.insert state.nextXid state.operationCount } := by
  unfold startOperation
  rw [addReply_free]
  exact free

theorem XidsFree.first {count : Nat} (free : state.XidsFree (count + 1)) :
    state.pendingReplies.lookup state.nextXid = none := by
  have here := free.2 0 (Nat.succ_pos count)
  rwa [show UInt16.ofNat 0 = 0 from rfl, UInt16.add_zero] at here

theorem XidsFree.rest {count : Nat} (free : state.XidsFree (count + 1)) (scopes : Finset Scope)
    (parent : Nat) (kind : Kind Url) :
    (state.startOperation options scopes parent kind).XidsFree count := by
  rw [startOperation_free free.first]
  refine ⟨by have bound := free.1; omega, ?_⟩
  intro index below
  rw [xid_offset, lookup_insert_eq, if_neg]
  · exact free.2 (index + 1) (by omega)
  · have bound := free.1
    exact xid_apart state.nextXid (by omega)

variable {key : Nat} {operation : Operation Scope Url}

theorem Tended.request (tended : Tended state parent orphans)
    (present : state.operations.lookup key = some operation) :
    ∃ request, state.requests.lookup operation.parent = some request := by
  obtain ⟨scope, member⟩ := Finset.nonempty_iff_ne_empty.mpr
    (tended.shared.nonempty key operation present)
  obtain ⟨request, found, _⟩ := exists_request (tended.shared.inside key operation present member)
  exact ⟨request, found⟩

theorem Tended.abandon [LinearOrder Url] (tended : Tended state parent ∅)
    (present : state.operations.lookup key = some operation) (bad : Option Url) :
    Tended (state.abandon key operation.xid bad) operation.parent operation.scopes := by
  have scheduled := tended.scheduled.drop present
  have shared := tended.shared.drop present
  rw [← lookup_erase_update] at scheduled shared
  rw [← lookup_erase_update] at scheduled
  cases bad with
  | none | some url => exact ⟨tended.unused, tended.bookkept, scheduled, shared⟩

theorem Tended.update (tended : Tended state parent ∅) {key : Nat}
    {operation changed : Operation Scope Url}
    (present : state.operations.lookup key = some operation) (xid : changed.xid = operation.xid)
    (scopes : changed.scopes = operation.scopes) (own : changed.parent = operation.parent) :
    Tended { state with operations := state.operations.insert key changed } parent ∅ := by
  have scheduled := tended.scheduled.update present xid
  have shared := tended.shared.update present scopes own
  rw [← lookup_insert_update] at scheduled shared
  exact ⟨tended.unused, tended.bookkept, scheduled, shared⟩

theorem onRequest_some {request : PendingSrvRqst Scope Entry}
    (found : state.requests.lookup parent = some request)
    (change : PendingSrvRqst Scope Entry → PendingSrvRqst Scope Entry) :
    state.onRequest parent change =
      { state with requests := state.requests.insert parent (change request) } := by
  unfold onRequest
  rw [found]

theorem Tended.addUrls (tended : Tended state parent orphans) {number : Nat}
    {request : PendingSrvRqst Scope Entry} (found : state.requests.lookup number = some request)
    (urls : List Entry) : Tended (state.addUrls number urls) parent orphans := by
  unfold Server.addUrls
  rw [onRequest_some found]
  have bookkept := @Bookkept.change _ _ _ _ _ tended.bookkept _ _
    { request with urls := request.urls ++ urls } found
    (tended.bookkept.unfinished number request found)
  have before : pendingScopes (fun number => state.requests.lookup number) number =
      request.pending := pendingScopes_some found
  have same : pendingScopes (Function.update (fun number => state.requests.lookup number) number
      (some { request with urls := request.urls ++ urls })) =
      pendingScopes (fun number => state.requests.lookup number) := by
    rw [pendingScopes_update]
    rw [← before, Function.update_eq_self]
  have shared := tended.shared
  rw [← same] at shared
  rw [← lookup_insert_update] at bookkept shared
  exact ⟨tended.unused, bookkept, tended.scheduled, shared⟩

theorem Tended.receivedSASrvReply (tended : Tended state parent ∅)
    (present : state.operations.lookup key = some operation) (prList : Finset UInt32)
    (source : UInt32) (errorCode : UInt16) (urls : List Entry) :
    Tended (state.receivedSASrvReply key operation prList source errorCode urls) parent ∅ := by
  unfold Server.receivedSASrvReply
  split
  · obtain ⟨request, found⟩ := tended.request present
    have kept : (state.addUrls operation.parent urls).operations.lookup key = some operation := by
      unfold Server.addUrls
      rw [onRequest_some found]
      exact present
    exact (tended.addUrls found urls).update kept rfl rfl rfl
  · exact tended

theorem abandon_removeTimeout [LinearOrder Url] (state : Server Scope Url Entry) (key : Nat)
    (xid : UInt16) (bad : Option Url) :
    (state.removeTimeout key).abandon key xid bad = state.abandon key xid bad := by
  unfold Server.abandon removeTimeout eraseReply deleteOperation
  rw [Finset.erase_idem]

/-- The timer of an operation is set again. -/
theorem Tended.insert_timer (tended : Tended state parent orphans)
    (present : state.operations.lookup key = some operation) :
    insert key (state.timers.erase key) = state.timers := by
  apply Finset.insert_erase
  exact (tended.scheduled.timed key).mpr (Option.ne_none_iff_exists'.mpr ⟨operation, present⟩)

theorem Tended.repeatMulticast (tended : Tended state parent ∅)
    (present : state.operations.lookup key = some operation) (prList : Finset UInt32)
    {prListChanged : Bool}
    (free : prListChanged = true → (state.eraseReply operation.xid).XidsFree 1) :
    Tended ((state.removeTimeout key).repeatMulticast key operation.updateRetryTime prList
      prListChanged) parent ∅ := by
  unfold Server.repeatMulticast
  cases prListChanged with
  | false =>
    dsimp only [removeTimeout]
    rw [tended.insert_timer present]
    exact tended.update present rfl rfl rfl
  | true =>
    have next := (free rfl).first
    rw [if_pos rfl, addReply_free]
    · set changed : Operation Scope Url :=
        { operation.updateRetryTime with
          xid := state.nextXid
          kind := .multicast prList false } with change
      have below := tended.scheduled.numbered key
        (Option.ne_none_iff_exists'.mpr ⟨operation, present⟩)
      have scheduled := @Scheduled.start _ _ _ _ _ _ (tended.scheduled.drop present) key
        state.operationCount changed (Function.update_self ..)
        (by
          rw [← lookup_erase_update]
          exact next)
        (le_refl _) below
      have shared := @Shared.update _ _ _ _ _ _ tended.shared key operation changed present rfl rfl
      rw [Function.update_idem, ← lookup_insert_update,
        ← lookup_erase_update, ← lookup_insert_update] at scheduled
      rw [← lookup_insert_update] at shared
      exact ⟨tended.unused, tended.bookkept, scheduled, shared⟩
    · exact next

/-- Whatever the agents are. -/
theorem Tended.agents (tended : Tended state parent orphans)
    (agents : List (DirectoryAgent Scope Url)) :
    Tended { state with agents := agents } parent orphans :=
  { tended with }

/-- The next request has no scopes yet. -/
theorem Tended.fresh (tended : Tended state parent orphans) :
    state.requests.lookup state.requestCount = none := by
  by_contra present
  exact absurd ((tended.bookkept.waiting _).mp present).1 (lt_irrefl _)

theorem Tended.newDAAdvert [LinearOrder Url] (tended : Tended state parent ∅) (url : Url)
    (scopes : Finset Scope) (bootTimestamp : UInt32) (errorCode : UInt16) (addressed : Bool) :
    Tended (state.newDAAdvert url scopes bootTimestamp errorCode addressed) parent ∅ := by
  unfold Server.newDAAdvert
  split
  · exact tended
  · split
    · exact tended.agents _
    · split
      · split
        · exact tended.agents _
        · exact tended
      · split
        · exact tended
        · exact tended.agents _

section Scopes

variable [DecidableEq Scope]

theorem checkIfFindSrvComplete_some {request : PendingSrvRqst Scope Entry}
    (found : state.requests.lookup parent = some request) :
    state.checkIfFindSrvComplete parent =
      if request.pending = ∅ then
        { state with
          completed := state.completed ++ [(parent, request.urls)]
          requests := state.requests.erase parent }
      else state := by
  unfold checkIfFindSrvComplete
  rw [found]

variable {operation : Operation Scope Url} {key : Nat}

/-- The scopes of an operation that is gone are complete. -/
theorem Tended.settle (tended : Tended state operation.parent operation.scopes)
    (offered : operation.scopes ≠ ∅) :
    Tended ((state.markScopesAsDone operation).checkIfFindSrvComplete operation.parent)
      operation.parent ∅ := by
  obtain ⟨scope, member⟩ := Finset.nonempty_iff_ne_empty.mpr offered
  obtain ⟨request, found, _⟩ := exists_request (tended.shared.orphaned member)
  set changed : PendingSrvRqst Scope Entry :=
    { request with pending := request.pending \ operation.scopes } with change
  have marked : state.markScopesAsDone operation =
      { state with requests := state.requests.insert operation.parent changed } :=
    onRequest_some found _
  have present : (state.markScopesAsDone operation).requests.lookup operation.parent =
      some changed := by
    rw [marked]
    exact AList.lookup_insert _
  have shared := tended.shared.finish
  rw [show pendingScopes (fun number => state.requests.lookup number) operation.parent =
    request.pending from pendingScopes_some found,
    show request.pending \ operation.scopes = changed.pending from rfl] at shared
  rw [checkIfFindSrvComplete_some present, marked]
  split
  · rename_i complete
    have bookkept := tended.bookkept.finish
      (Option.ne_none_iff_exists'.mpr ⟨request, found⟩) changed.urls
    have gone : (fun number => ((state.requests.insert operation.parent changed).erase
        operation.parent).lookup number) =
        Function.update (fun number => state.requests.lookup number) operation.parent none := by
      rw [lookup_erase_update, lookup_insert_update, Function.update_idem]
    rw [complete, ← pendingScopes_erase, ← gone] at shared
    rw [← gone] at bookkept
    exact ⟨tended.unused, bookkept, tended.scheduled, shared⟩
  · rename_i incomplete
    have bookkept := tended.bookkept.change found incomplete
    rw [← lookup_insert_update] at bookkept
    rw [← pendingScopes_update, ← lookup_insert_update] at shared
    exact ⟨tended.unused, bookkept, tended.scheduled, shared⟩

theorem Tended.startOperation (options : Options Scope) (tended : Tended state parent orphans)
    (free : state.pendingReplies.lookup state.nextXid = none) {scopes : Finset Scope}
    (offered : scopes ≠ ∅) (taken : scopes ⊆ orphans) (kind : Kind Url) :
    Tended (state.startOperation options scopes parent kind) parent (orphans \ scopes) := by
  have fresh : state.operations.lookup state.operationCount = none := by
    by_contra present
    exact absurd (tended.scheduled.numbered _ present) (lt_irrefl _)
  rw [startOperation_free free]
  refine ⟨tended.unused, tended.bookkept, ?_, ?_⟩
  · rw [lookup_insert_update, lookup_insert_update]
    exact tended.scheduled.start fresh free (Nat.le_succ _) (Nat.lt_succ_self _)
  · rw [lookup_insert_update]
    exact tended.shared.start fresh rfl offered taken

/-- The agents take what they cover, and the xids suffice for the rest. -/
theorem Tended.askAgents (options : Options Scope) (agents : List (DirectoryAgent Scope Url))
    (tended : Tended state parent orphans) (free : state.XidsFree (newOperations agents orphans)) :
    ∃ after remaining, askAgents options parent agents state orphans = (after, remaining) ∧
      Tended after parent remaining ∧ after.XidsFree (if remaining = ∅ then 0 else 1) := by
  induction agents generalizing state orphans with
  | nil => exact ⟨state, orphans, rfl, tended, free⟩
  | cons agent rest ih =>
    rw [newOperations] at free
    rw [Server.askAgents]
    split at free
    · rename_i none
      rw [if_pos none]
      exact ih tended free
    · rename_i some
      rw [if_neg some]
      have started := tended.startOperation options free.first some Finset.inter_subset_left
        (.unicast agent.url false)
      rw [Finset.sdiff_inter_self_left] at started
      exact ih started (free.rest _ _ _)

theorem Tended.findServiceInScopes (options : Options Scope)
    (tended : Tended state parent orphans) (room : state.Room orphans) :
    Tended (findServiceInScopes options state parent orphans) parent ∅ := by
  obtain ⟨after, remaining, asked, left, free⟩ :=
    tended.askAgents options (state.getMinimalCoveringList orphans) room
  unfold Server.findServiceInScopes
  rw [asked]
  dsimp only
  split at free
  · rename_i none
    rw [if_pos none, ← none]
    exact left
  · rename_i some
    rw [if_neg some]
    have started := left.startOperation options free.first some (Finset.Subset.refl remaining)
      (.multicast ∅ false)
    rwa [Finset.sdiff_self] at started

/-- What becomes of the requests does not depend on the operations, the timers and the
pending replies. -/
theorem settle_frame (operation : Operation Scope Url)
    (operations : AList (fun _ : Nat => Operation Scope Url)) (timers : Finset Nat)
    (pendingReplies : AList (fun _ : UInt16 => Nat)) :
    ({ state with
        operations := operations
        timers := timers
        pendingReplies := pendingReplies }.markScopesAsDone operation).checkIfFindSrvComplete
      operation.parent =
    { (state.markScopesAsDone operation).checkIfFindSrvComplete operation.parent with
      operations := operations
      timers := timers
      pendingReplies := pendingReplies } := by
  unfold markScopesAsDone onRequest checkIfFindSrvComplete
  cases found : state.requests.lookup operation.parent with
  | none =>
    rw [found]
  | some request =>
    rw [AList.lookup_insert]
    dsimp only
    split <;> rfl

/-- An operation is deleted after its scopes are complete, or before. -/
theorem settle_then_drop (state : Server Scope Url Entry) (key : Nat)
    (operation : Operation Scope Url) :
    ((((state.eraseReply operation.xid).markScopesAsDone operation).checkIfFindSrvComplete
      operation.parent).removeTimeout key).deleteOperation key =
    ((((state.eraseReply operation.xid).removeTimeout key).deleteOperation key).markScopesAsDone
      operation).checkIfFindSrvComplete operation.parent := by
  have later := @settle_frame _ _ _ state _ operation state.operations state.timers
    (state.pendingReplies.erase operation.xid)
  have before := @settle_frame _ _ _ state _ operation (state.operations.erase key)
    (state.timers.erase key) (state.pendingReplies.erase operation.xid)
  unfold removeTimeout deleteOperation eraseReply
  rw [later, before]

theorem Tended.receivedDASrvReply [LinearOrder Url] (options : Options Scope)
    (tended : Tended state parent ∅) (present : state.operations.lookup key = some operation)
    (daUrl : Url) {errorCode : UInt16} (urls : List Entry) (free : errorCode ≠ daBusyNow)
    (room : errorCode ≠ slpOk →
      (state.abandon key operation.xid (some daUrl)).Room operation.scopes) :
    Tended (state.receivedDASrvReply options key operation daUrl errorCode urls)
      operation.parent ∅ := by
  unfold Server.receivedDASrvReply
  by_cases failed : errorCode ≠ slpOk
  · rw [if_neg failed, if_neg free]
    exact (tended.abandon present (some daUrl)).findServiceInScopes options (room failed)
  · rw [if_pos (not_not.mp failed)]
    obtain ⟨request, found⟩ := tended.request present
    have added : (state.eraseReply operation.xid).addUrls operation.parent urls =
        (state.addUrls operation.parent urls).eraseReply operation.xid := by
      unfold Server.addUrls
      rw [onRequest_some found]
      exact @onRequest_some _ _ _ (state.eraseReply operation.xid) _ _ found _
    have kept : (state.addUrls operation.parent urls).operations.lookup key = some operation := by
      unfold Server.addUrls
      rw [onRequest_some found]
      exact present
    have dropped := (tended.addUrls found urls).abandon kept none
    dsimp only
    rw [added, settle_then_drop]
    exact dropped.settle (tended.shared.nonempty key operation present)

theorem Tended.handleServiceReply [LinearOrder Url] (options : Options Scope)
    (tended : Tended state 0 ∅) (xid : UInt16) (source : UInt32) (errorCode : UInt16)
    (urls : List Entry) (orderly : Orderly options state (.serviceReply xid source errorCode urls)) :
    ∃ parent, Tended (state.handleServiceReply options xid source errorCode urls) parent ∅ := by
  unfold Server.handleServiceReply
  split
  · exact ⟨0, tended⟩
  · rename_i key found
    obtain ⟨operation, present, _⟩ := (tended.scheduled.replies xid key).mp found
    rw [present]
    dsimp only
    split
    · rename_i daUrl daBusy kind
      obtain ⟨free, room⟩ := orderly key operation daUrl daBusy found present kind
      exact ⟨operation.parent, tended.receivedDASrvReply options present daUrl urls free room⟩
    · exact ⟨0, tended.receivedSASrvReply present _ source errorCode urls⟩

theorem Tended.requestServiceDATimeout [LinearOrder Url] (options : Options Scope)
    (tended : Tended state parent ∅) (present : state.operations.lookup key = some operation)
    {daUrl : Url} {daBusy : Bool} (kind : operation.kind = .unicast daUrl daBusy)
    (orderly : Orderly options state (.timeout key)) :
    ∃ parent, Tended ((state.removeTimeout key).requestServiceDATimeout options key operation daUrl)
      parent ∅ := by
  have reply := (tended.scheduled.replies operation.xid key).mpr ⟨operation, present, rfl⟩
  have room := orderly operation present
  rw [kind] at room
  dsimp only at room
  unfold Server.requestServiceDATimeout
  rw [show (state.removeTimeout key).pendingReplies.lookup operation.xid = some key from reply]
  dsimp only
  split at room
  · rename_i exceeded
    rw [if_pos exceeded, abandon_removeTimeout]
    exact ⟨operation.parent, (tended.abandon present (some daUrl)).findServiceInScopes options room⟩
  · rename_i early
    rw [if_neg early]
    split
    · have again : (state.removeTimeout key).resend key operation.updateRetryTime daUrl =
          { state with
            operations := state.operations.insert key
              { operation.updateRetryTime with kind := .unicast daUrl false } } := by
        unfold resend addReply
        rw [show (state.removeTimeout key).pendingReplies.lookup operation.updateRetryTime.xid =
          some key from reply]
        change { state with
          operations := _, timers := insert key (state.timers.erase key) } = _
        rw [tended.insert_timer present]
        rfl
      rw [again]
      exact ⟨parent, tended.update present rfl rfl rfl⟩
    · rename_i lost
      rw [abandon_removeTimeout]
      exact ⟨operation.parent, (tended.abandon present none).findServiceInScopes options
        (room (Bool.eq_false_iff.mpr lost))⟩

theorem settle_then_delete (state : Server Scope Url Entry) (key : Nat)
    (operation : Operation Scope Url) :
    ((((state.removeTimeout key).eraseReply operation.xid).markScopesAsDone
      operation).checkIfFindSrvComplete operation.parent).deleteOperation key =
    ((((state.eraseReply operation.xid).removeTimeout key).deleteOperation key).markScopesAsDone
      operation).checkIfFindSrvComplete operation.parent := by
  have later := @settle_frame _ _ _ state _ operation state.operations (state.timers.erase key)
    (state.pendingReplies.erase operation.xid)
  have before := @settle_frame _ _ _ state _ operation (state.operations.erase key)
    (state.timers.erase key) (state.pendingReplies.erase operation.xid)
  unfold removeTimeout deleteOperation eraseReply
  rw [later, before]

theorem Tended.requestServiceMulticastTimeout [LinearOrder Url] (options : Options Scope)
    (tended : Tended state parent ∅) (present : state.operations.lookup key = some operation)
    (prList : Finset UInt32) (prListChanged : Bool)
    (free : ¬ multicastDone options operation prList prListChanged →
      prListChanged = true → (state.eraseReply operation.xid).XidsFree 1) :
    ∃ parent, Tended ((state.removeTimeout key).requestServiceMulticastTimeout options key operation
      prList prListChanged) parent ∅ := by
  have reply := (tended.scheduled.replies operation.xid key).mpr ⟨operation, present, rfl⟩
  unfold Server.requestServiceMulticastTimeout
  rw [show (state.removeTimeout key).pendingReplies.lookup operation.xid = some key from reply]
  dsimp only
  split
  · rw [settle_then_delete]
    have dropped := tended.abandon present none
    exact ⟨operation.parent, dropped.settle (tended.shared.nonempty key operation present)⟩
  · rename_i unfinished
    exact ⟨parent, tended.repeatMulticast present prList (free unfinished)⟩

theorem Tended.timeout [LinearOrder Url] (options : Options Scope) (tended : Tended state parent ∅)
    (key : Nat) (orderly : Orderly options state (.timeout key)) :
    ∃ parent, Tended (state.timeout options key) parent ∅ := by
  unfold Server.timeout
  split
  · rename_i pending
    obtain ⟨operation, present⟩ := Option.ne_none_iff_exists'.mp
      ((tended.scheduled.timed key).mp pending)
    have room := orderly operation present
    dsimp only
    rw [show (state.removeTimeout key).operations.lookup key = some operation from present]
    dsimp only
    split
    · rename_i daUrl daBusy kind
      exact tended.requestServiceDATimeout options present kind orderly
    · rename_i prList prListChanged kind
      rw [kind] at room
      exact tended.requestServiceMulticastTimeout options present prList prListChanged room
  · exact ⟨parent, tended⟩

theorem Tended.findService [LinearOrder Url] (options : Options Scope)
    (tended : Tended state parent ∅) (scopes : Finset Scope) (found : List Entry)
    (orderly : Orderly options state (.findService scopes found)) :
    ∃ parent, Tended (state.findService options scopes found) parent ∅ := by
  obtain ⟨offered, room⟩ := orderly
  unfold Server.findService
  dsimp only
  set wanted := if options.enableDa = true then scopes \ options.configuredScopes else scopes
    with want
  split
  · have skipped := tended.bookkept.skip found
    exact ⟨parent, tended.unused, skipped, tended.scheduled, tended.shared⟩
  · rename_i remote
    have some : wanted ≠ ∅ := by
      intro none
      rcases offered with agent | given
      · exact remote ⟨agent, none⟩
      · by_cases agent : options.enableDa = true
        · exact remote ⟨agent, none⟩
        · rw [want, if_neg agent] at none
          exact given none
    have bookkept := @Bookkept.enter _ _ _ _ _ tended.bookkept ⟨wanted, found⟩ some
    have shared := tended.shared.enter (pendingScopes_none tended.fresh) wanted
    rw [show wanted = (⟨wanted, found⟩ : PendingSrvRqst Scope Entry).pending from rfl,
      ← pendingScopes_update, ← lookup_insert_update] at shared
    rw [← lookup_insert_update] at bookkept
    have entered : Tended { state with
        requestCount := state.requestCount + 1
        requests := state.requests.insert state.requestCount ⟨wanted, found⟩ }
        state.requestCount wanted := ⟨tended.unused, bookkept, tended.scheduled, shared⟩
    exact ⟨state.requestCount, entered.findServiceInScopes options room⟩

theorem Tended.step [LinearOrder Url] (options : Options Scope) (tended : Tended state 0 ∅)
    (event : Event Scope Url Entry) (orderly : Orderly options state event) :
    Tended (state.step options event) 0 ∅ := by
  have whole : ∃ parent, Tended (state.step options event) parent ∅ := by
    cases event with
    | findService scopes found => exact tended.findService options scopes found orderly
    | serviceReply xid source errorCode urls =>
      exact tended.handleServiceReply options xid source errorCode urls orderly
    | timeout key => exact tended.timeout options key orderly
    | newDAAdvert url scopes bootTimestamp errorCode addressed =>
      exact ⟨0, tended.newDAAdvert url scopes bootTimestamp errorCode addressed⟩
  obtain ⟨parent, after⟩ := whole
  exact { after with shared := after.shared.anyParent 0 }

end Scopes

end Invariant

end Server

end OpenLighting.Slp
