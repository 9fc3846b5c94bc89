import OpenLighting.SlpRegistration

namespace OpenLighting.Slp.ServiceAgent

open TransitionSystem FiniteMap List

def SamePair (one two : SrvRegOperation) : Prop :=
  one.service.url.url = two.service.url.url ∧ one.daUrl = two.daUrl

/-- The operations, the timers and the acknowledgements belong together. -/
structure Sound (state : ServiceAgent) : Prop where
  numbers : (state.pendingOps.map SrvRegOperation.number).Nodup
  below : ∀ op ∈ state.pendingOps, op.number < state.operationCount
  acks : ∀ xid number, state.pendingAcks.lookup xid = some number →
    ∃ op ∈ state.pendingOps, op.number = number ∧ op.xid = xid
  timers : ∀ number, number ∈ state.timers ↔ ∃ op ∈ state.pendingOps, op.number = number

/-- The acknowledgement of every operation is waited for. -/
def Awaited (state : ServiceAgent) : Prop :=
  ∀ op ∈ state.pendingOps, (state.pendingAcks.lookup op.xid).isSome = true

section Operations
variable {state after : ServiceAgent} {op other : SrvRegOperation} {number : Nat}

theorem Sound.eq_of_number (sound : Sound state) (here : op ∈ state.pendingOps)
    (there : other ∈ state.pendingOps) (same : op.number = other.number) : op = other :=
  inj_on_of_nodup_map sound.numbers here there same

theorem Sound.findOperation (sound : Sound state) (member : op ∈ state.pendingOps) :
    state.findOperation op.number = some op := by
  unfold ServiceAgent.findOperation
  cases found : state.pendingOps.find? (fun other => decide (other.number = op.number)) with
  | none =>
    have missing := List.find?_eq_none.mp found op member
    simp at missing
  | some other =>
    have same : other.number = op.number := by simpa using List.find?_some found
    rw [sound.eq_of_number (mem_of_find?_eq_some found) member same]

theorem sound_initial (tracker : DATracker) (store : SLPStore) (nextXid : UInt16) :
    Sound (initial tracker store nextXid) := by
  constructor
  · exact nodup_nil
  · intro op member
    cases member
  · intro xid number found
    cases found
  · simp [initial]

end Operations

section Cancelling
variable {state before after : ServiceAgent} {op other : SrvRegOperation}
  {ops : List SrvRegOperation} {chosen : SrvRegOperation → Bool}

/-- What is left when some operations have been taken out. -/
structure Cancelled (state after : ServiceAgent) (chosen : SrvRegOperation → Bool) : Prop where
  pendingOps : after.pendingOps = state.pendingOps.filter (fun op => !chosen op)
  acks : ∀ xid, after.pendingAcks.lookup xid =
    if ∃ op ∈ state.pendingOps, chosen op = true ∧ op.xid = xid then none
    else state.pendingAcks.lookup xid
  timers : ∀ number, number ∈ after.timers ↔
    number ∈ state.timers ∧ ∀ op ∈ state.pendingOps, chosen op = true → op.number ≠ number
  count : after.operationCount = state.operationCount

/-- Freeing operations leaves the other fields alone. -/
theorem foldl_free_field {β : Type} (field : ServiceAgent → β)
    (kept : ∀ state op, field (freePendingDAOperation state op) = field state) :
    field (ops.foldl freePendingDAOperation state) = field state := by
  induction ops generalizing state with
  | nil => rfl
  | cons op ops ih => rw [foldl_cons, ih, kept]

theorem lookup_foldl_free (xid : UInt16) :
    (ops.foldl freePendingDAOperation state).pendingAcks.lookup xid =
      if ∃ op ∈ ops, op.xid = xid then none else state.pendingAcks.lookup xid := by
  induction ops generalizing state with
  | nil => simp
  | cons op ops ih =>
    rw [foldl_cons, ih, freePendingDAOperation]
    by_cases rest : ∃ later ∈ ops, later.xid = xid
    · obtain ⟨later, member, same⟩ := rest
      rw [if_pos ⟨later, member, same⟩, if_pos ⟨later, mem_cons_of_mem op member, same⟩]
    · rw [if_neg rest, lookup_erase_eq]
      by_cases here : xid = op.xid
      · rw [if_pos here, if_pos ⟨op, mem_cons_self, here.symm⟩]
      · rw [if_neg here, if_neg]
        intro found
        obtain ⟨later, member, same⟩ := found
        rcases mem_cons.mp member with first | inside
        · exact here (first ▸ same.symm)
        · exact rest ⟨later, inside, same⟩

theorem mem_timers_foldl_free (number : Nat) :
    number ∈ (ops.foldl freePendingDAOperation state).timers ↔
      number ∈ state.timers ∧ ∀ op ∈ ops, op.number ≠ number := by
  induction ops generalizing state with
  | nil => simp
  | cons op ops ih =>
    rw [foldl_cons, ih, freePendingDAOperation, Finset.mem_erase, forall_mem_cons]
    constructor
    · intro kept
      exact ⟨kept.1.2, fun same => kept.1.1 same.symm, kept.2⟩
    · intro kept
      exact ⟨⟨fun same => kept.2.1 same.symm, kept.1⟩, kept.2.2⟩

/-- The operations that are taken out may have lost their timers and acknowledgements before. -/
theorem cancelled_cancel (ops : before.pendingOps = state.pendingOps)
    (acks : ∀ xid, (¬ ∃ op ∈ state.pendingOps, chosen op = true ∧ op.xid = xid) →
      before.pendingAcks.lookup xid = state.pendingAcks.lookup xid)
    (timers : ∀ number, (∀ op ∈ state.pendingOps, chosen op = true → op.number ≠ number) →
      (number ∈ before.timers ↔ number ∈ state.timers))
    (count : before.operationCount = state.operationCount) :
    Cancelled state (before.cancel chosen) chosen := by
  constructor
  · rw [cancel, ops]
  · intro xid
    rw [cancel]
    rw [lookup_foldl_free, ops]
    simp only [mem_filter, and_assoc]
    by_cases out : ∃ op ∈ state.pendingOps, chosen op = true ∧ op.xid = xid
    · rw [if_pos out, if_pos out]
    · rw [if_neg out, if_neg out]
      exact acks xid out
  · intro number
    rw [cancel]
    rw [mem_timers_foldl_free, ops]
    simp only [mem_filter, and_imp]
    exact and_congr_left (timers number)
  · rw [cancel, ← count]
    exact foldl_free_field operationCount (fun _ _ => rfl)

theorem cancelled_cancel_self (state : ServiceAgent) (chosen : SrvRegOperation → Bool) :
    Cancelled state (state.cancel chosen) chosen :=
  cancelled_cancel rfl (fun _ _ => rfl) (fun _ _ => Iff.rfl) rfl

theorem Cancelled.mem_iff (cancelled : Cancelled state after chosen) :
    op ∈ after.pendingOps ↔ op ∈ state.pendingOps ∧ chosen op = false := by
  rw [cancelled.pendingOps, mem_filter, Bool.not_eq_true']

theorem Cancelled.sound (cancelled : Cancelled state after chosen) (sound : Sound state) :
    Sound after := by
  constructor
  · rw [cancelled.pendingOps]
    exact sound.numbers.sublist (List.Sublist.map _ filter_sublist)
  · intro op member
    rw [cancelled.count]
    exact sound.below op (cancelled.mem_iff.mp member).1
  · intro xid number found
    rw [cancelled.acks] at found
    split at found
    · cases found
    · rename_i out
      obtain ⟨op, member, named, same⟩ := sound.acks xid number found
      refine ⟨op, cancelled.mem_iff.mpr ⟨member, ?_⟩, named, same⟩
      rw [← Bool.not_eq_true]
      exact fun taken => out ⟨op, member, taken, same⟩
  · intro number
    rw [cancelled.timers, sound.timers]
    constructor
    · intro kept
      obtain ⟨⟨op, member, named⟩, out⟩ := kept
      refine ⟨op, cancelled.mem_iff.mpr ⟨member, ?_⟩, named⟩
      rw [← Bool.not_eq_true]
      exact fun taken => out op member taken named
    · intro kept
      obtain ⟨op, member, named⟩ := kept
      have parts := cancelled.mem_iff.mp member
      refine ⟨⟨op, parts.1, named⟩, ?_⟩
      intro other inside taken same
      rw [sound.eq_of_number inside parts.1 (same.trans named.symm), parts.2] at taken
      cases taken

/-- No operation that is taken out shares its xid with one that stays. -/
def Apart (ops : List SrvRegOperation) (chosen : SrvRegOperation → Bool) : Prop :=
  ∀ one ∈ ops, ∀ two ∈ ops, chosen one = true → chosen two = false → one.xid ≠ two.xid

theorem Cancelled.awaited_iff (cancelled : Cancelled state after chosen) (awaited : Awaited state) :
    Awaited after ↔ Apart state.pendingOps chosen := by
  constructor
  · intro still one here two there taken stays same
    have found := still two (cancelled.mem_iff.mpr ⟨there, stays⟩)
    rw [cancelled.acks, if_pos ⟨one, here, taken, same⟩] at found
    cases found
  · intro apart op member
    have parts := cancelled.mem_iff.mp member
    rw [cancelled.acks, if_neg]
    · exact awaited op parts.1
    · intro shared
      obtain ⟨one, here, taken, same⟩ := shared
      exact apart one here op parts.1 taken parts.2 same

end Cancelling

section Starting
variable {times : RetryTimes} {state between after : ServiceAgent}

/-- Some operations are new, with the xids that come next. -/
structure Grown (state after : ServiceAgent) (count : Nat) : Prop where
  pendingOps : ∃ new, after.pendingOps = state.pendingOps ++ new ∧
    ∀ op ∈ new, state.operationCount ≤ op.number ∧
      (after.pendingAcks.lookup op.xid).isSome = true
  acks : ∀ xid, (after.pendingAcks.lookup xid).isSome = true ↔
    (state.pendingAcks.lookup xid).isSome = true ∨
      ∃ index < count, xid = state.nextXid + UInt16.ofNat index
  nextXid : after.nextXid = state.nextXid + UInt16.ofNat count
  operationCount : state.operationCount ≤ after.operationCount
  sound : Sound state → Sound after

theorem Grown.refl (state : ServiceAgent) : Grown state state 0 := by
  constructor
  · exact ⟨[], (append_nil _).symm, fun _ absurdity => by cases absurdity⟩
  · simp
  · simp
  · omega
  · exact id

theorem Grown.trans {few more : Nat} (first : Grown state between few)
    (second : Grown between after more) : Grown state after (few + more) := by
  obtain ⟨new, shape, fresh⟩ := first.pendingOps
  obtain ⟨newer, further, fresher⟩ := second.pendingOps
  constructor
  · refine ⟨new ++ newer, by rw [further, shape, append_assoc], ?_⟩
    intro op member
    rcases mem_append.mp member with early | late
    · exact ⟨(fresh op early).1, (second.acks op.xid).mpr (.inl (fresh op early).2)⟩
    · exact ⟨le_trans first.operationCount (fresher op late).1, (fresher op late).2⟩
  · intro xid
    rw [second.acks, first.acks, first.nextXid, or_assoc]
    apply or_congr_right
    constructor
    · intro either
      rcases either with ⟨index, less, same⟩ | ⟨index, less, same⟩
      · exact ⟨index, by omega, same⟩
      · refine ⟨few + index, by omega, ?_⟩
        rw [same, UInt16.ofNat_add, UInt16.add_assoc]
    · intro found
      obtain ⟨index, less, same⟩ := found
      by_cases early : index < few
      · exact .inl ⟨index, early, same⟩
      · refine .inr ⟨index - few, by omega, ?_⟩
        rw [same, UInt16.add_assoc, ← UInt16.ofNat_add, Nat.add_sub_cancel' (by omega)]
  · rw [second.nextXid, first.nextXid, UInt16.ofNat_add, UInt16.add_assoc]
  · exact le_trans first.operationCount second.operationCount
  · exact fun sound => second.sound (first.sound sound)

theorem grown_foldl {α : Type} {start : ServiceAgent → α → ServiceAgent}
    (each : ∀ state item, Grown state (start state item) 1) (items : List α) :
    Grown state (items.foldl start state) items.length := by
  induction items generalizing state with
  | nil => exact .refl state
  | cons item items ih =>
    rw [foldl_cons, length_cons, Nat.add_comm]
    exact (each state item).trans ih

/-- The entry is there afterwards, be it the one of an older operation. -/
theorem lookup_addPendingSrvAck (state : ServiceAgent) (xid other : UInt16) (number : Nat) :
    (state.addPendingSrvAck xid number).pendingAcks.lookup other =
      if other = xid ∧ state.pendingAcks.lookup xid = none then some number
      else state.pendingAcks.lookup other := by
  unfold addPendingSrvAck
  cases found : state.pendingAcks.lookup xid with
  | none => simp [lookup_insert_eq]
  | some older => simp

theorem addPendingSrvAck_field {β : Type} (field : ServiceAgent → β)
    (kept : ∀ state acks, field { state with pendingAcks := acks } = field state) (xid : UInt16)
    (number : Nat) : field (state.addPendingSrvAck xid number) = field state := by
  unfold addPendingSrvAck
  split
  · exact kept _ _
  · rfl

def nextOperation (times : RetryTimes) (isRegistration : Bool) (service : ServiceEntry)
    (state : ServiceAgent) (agent : InternalDirectoryAgent) : SrvRegOperation :=
  ⟨state.operationCount, isRegistration, state.nextXid, times.configRetry, 0, agent.url, service⟩

section Fields
variable (isRegistration : Bool) (service : ServiceEntry) (agent : InternalDirectoryAgent)

theorem startOperation_pendingOps :
    (startOperation times isRegistration service state agent).pendingOps =
      state.pendingOps ++ [nextOperation times isRegistration service state agent] :=
  addPendingSrvAck_field pendingOps (fun _ _ => rfl) _ _

theorem startOperation_timers :
    (startOperation times isRegistration service state agent).timers =
      insert state.operationCount state.timers :=
  addPendingSrvAck_field timers (fun _ _ => rfl) _ _

theorem startOperation_operationCount :
    (startOperation times isRegistration service state agent).operationCount =
      state.operationCount + 1 :=
  addPendingSrvAck_field operationCount (fun _ _ => rfl) _ _

theorem startOperation_nextXid :
    (startOperation times isRegistration service state agent).nextXid = state.nextXid + 1 :=
  addPendingSrvAck_field nextXid (fun _ _ => rfl) _ _

theorem lookup_startOperation (xid : UInt16) :
    (startOperation times isRegistration service state agent).pendingAcks.lookup xid =
      if xid = state.nextXid ∧ state.pendingAcks.lookup state.nextXid = none then
        some state.operationCount
      else state.pendingAcks.lookup xid :=
  lookup_addPendingSrvAck _ _ xid _

theorem Sound.startOperation (sound : Sound state) :
    Sound (startOperation times isRegistration service state agent) := by
  constructor
  · rw [startOperation_pendingOps, map_append]
    refine List.Nodup.append sound.numbers (nodup_singleton _) ?_
    rw [map_singleton, disjoint_singleton]
    intro member
    obtain ⟨op, inside, same⟩ := mem_map.mp member
    have less := sound.below op inside
    change op.number = state.operationCount at same
    omega
  · intro op member
    rw [startOperation_pendingOps, mem_append, mem_singleton] at member
    rw [startOperation_operationCount]
    rcases member with inside | same
    · have less := sound.below op inside
      omega
    · rw [same]
      exact Nat.lt_succ_self _
  · intro xid number found
    rw [lookup_startOperation] at found
    rw [startOperation_pendingOps]
    split at found
    · rename_i new
      refine ⟨_, mem_append_right _ mem_cons_self, Option.some.inj found, new.1.symm⟩
    · obtain ⟨op, member, facts⟩ := sound.acks xid number found
      exact ⟨op, mem_append_left _ member, facts⟩
  · intro number
    rw [startOperation_timers, startOperation_pendingOps, Finset.mem_insert, sound.timers]
    simp only [mem_append, mem_singleton]
    constructor
    · intro either
      rcases either with new | ⟨op, member, named⟩
      · exact ⟨_, .inr rfl, new.symm⟩
      · exact ⟨op, .inl member, named⟩
    · intro found
      obtain ⟨op, inside | same, named⟩ := found
      · exact .inr ⟨op, inside, named⟩
      · rw [same] at named
        exact .inl named.symm

theorem grown_startOperation :
    Grown state (startOperation times isRegistration service state agent) 1 := by
  have filled (xid : UInt16) :
      ((startOperation times isRegistration service state agent).pendingAcks.lookup xid).isSome =
        true ↔ (state.pendingAcks.lookup xid).isSome = true ∨ xid = state.nextXid := by
    rw [lookup_startOperation]
    by_cases next : xid = state.nextXid
    · rw [next]
      cases state.pendingAcks.lookup state.nextXid with
      | none | some older => simp
    · simp [next]
  constructor
  · refine ⟨_, startOperation_pendingOps isRegistration service agent, ?_⟩
    intro op member
    rw [mem_singleton.mp member]
    exact ⟨Nat.le_refl _, (filled _).mpr (.inr rfl)⟩
  · intro xid
    rw [filled]
    simp
  · exact startOperation_nextXid isRegistration service agent
  · rw [startOperation_operationCount]
    omega
  · exact fun sound => sound.startOperation isRegistration service agent

end Fields

def nextXids (state : ServiceAgent) (count : Nat) : List UInt16 :=
  (List.range count).map (fun index => state.nextXid + UInt16.ofNat index)

theorem Grown.isSome_iff {count : Nat} (grown : Grown state after count) (xid : UInt16) :
    (after.pendingAcks.lookup xid).isSome = true ↔
      (state.pendingAcks.lookup xid).isSome = true ∨ xid ∈ state.nextXids count := by
  rw [grown.acks, nextXids]
  simp only [mem_map, mem_range, eq_comm]

theorem Grown.awaited_iff {count : Nat} (grown : Grown state after count) :
    Awaited after ↔ ∀ op ∈ state.pendingOps,
      (state.pendingAcks.lookup op.xid).isSome = true ∨ op.xid ∈ state.nextXids count := by
  obtain ⟨new, shape, fresh⟩ := grown.pendingOps
  unfold Awaited
  rw [shape]
  constructor
  · intro awaited op member
    exact (grown.isSome_iff op.xid).mp (awaited op (mem_append_left new member))
  · intro known op member
    rcases mem_append.mp member with old | late
    · exact (grown.isSome_iff op.xid).mpr (known op old)
    · exact (fresh op late).2

end Starting

section Leaving
variable {state between after : ServiceAgent} {op : SrvRegOperation}
  {chosen : SrvRegOperation → Bool} {count : Nat}

/-- The operation is not pending any more. -/
def Left (after : ServiceAgent) (op : SrvRegOperation) : Prop :=
  ∀ other ∈ after.pendingOps, other.number ≠ op.number

theorem Cancelled.left_iff (cancelled : Cancelled state after chosen) (sound : Sound state)
    (member : op ∈ state.pendingOps) : Left after op ↔ chosen op = true := by
  constructor
  · intro left
    by_contra stays
    exact left op (cancelled.mem_iff.mpr ⟨member, by simpa using stays⟩) rfl
  · intro taken other inside same
    have parts := cancelled.mem_iff.mp inside
    rw [sound.eq_of_number parts.1 member same, taken] at parts
    cases parts.2

theorem Grown.left_iff (grown : Grown state after count) (old : op.number < state.operationCount) :
    Left after op ↔ Left state op := by
  obtain ⟨new, shape, fresh⟩ := grown.pendingOps
  unfold Left
  rw [shape]
  constructor
  · exact fun left other member => left other (mem_append_left new member)
  · intro left other member
    rcases mem_append.mp member with early | late
    · exact left other early
    · have later := (fresh other late).1
      omega

/-- What an operation is known by. -/
def keys (state : ServiceAgent) : List (Nat × UInt16) :=
  state.pendingOps.map (fun op => (op.number, op.xid))

/-- Nothing happens to the operations but that they may be aged. -/
structure Kept (state after : ServiceAgent) : Prop where
  keys : after.keys = state.keys
  acks : after.pendingAcks = state.pendingAcks
  timers : after.timers = state.timers
  count : after.operationCount = state.operationCount

theorem Kept.of_eq (same : after = state) : Kept state after := by
  rw [same]
  exact ⟨rfl, rfl, rfl, rfl⟩

theorem mem_keys_iff {number : Nat} {xid : UInt16} :
    (number, xid) ∈ state.keys ↔ ∃ op ∈ state.pendingOps, op.number = number ∧ op.xid = xid := by
  simp [ServiceAgent.keys]

section

variable (kept : Kept state after)
include kept

theorem Kept.forward (member : op ∈ state.pendingOps) :
    ∃ other ∈ after.pendingOps, other.number = op.number ∧ other.xid = op.xid := by
  rw [← mem_keys_iff, kept.keys, mem_keys_iff]
  exact ⟨op, member, rfl, rfl⟩

theorem Kept.backward (member : op ∈ after.pendingOps) :
    ∃ other ∈ state.pendingOps, other.number = op.number ∧ other.xid = op.xid := by
  rw [← mem_keys_iff, ← kept.keys, mem_keys_iff]
  exact ⟨op, member, rfl, rfl⟩

theorem Kept.sound (sound : Sound state) : Sound after := by
  constructor
  · have numbers : ∀ state : ServiceAgent,
        state.pendingOps.map SrvRegOperation.number = state.keys.map Prod.fst := by
      intro state
      rw [ServiceAgent.keys, map_map]
      rfl
    rw [numbers, kept.keys, ← numbers]
    exact sound.numbers
  · intro op member
    obtain ⟨other, before, named, _⟩ := kept.backward member
    rw [← named, kept.count]
    exact sound.below other before
  · intro xid number found
    rw [kept.acks] at found
    obtain ⟨op, member, named, same⟩ := sound.acks xid number found
    obtain ⟨other, later, number, xid⟩ := kept.forward member
    exact ⟨other, later, number.trans named, xid.trans same⟩
  · intro number
    rw [kept.timers, sound.timers]
    constructor
    · intro found
      obtain ⟨op, member, named⟩ := found
      obtain ⟨other, later, number, _⟩ := kept.forward member
      exact ⟨other, later, number.trans named⟩
    · intro found
      obtain ⟨op, member, named⟩ := found
      obtain ⟨other, before, number, _⟩ := kept.backward member
      exact ⟨other, before, number.trans named⟩

theorem Kept.awaited (awaited : Awaited state) : Awaited after := by
  intro op member
  obtain ⟨other, before, _, same⟩ := kept.backward member
  rw [← same, kept.acks]
  exact awaited other before

theorem Kept.not_left (member : op ∈ state.pendingOps) : ¬ Left after op := by
  intro left
  obtain ⟨other, later, named, _⟩ := kept.forward member
  exact left other later named

end

end Leaving

/-- Why an operation is given up when its timer runs out. -/
inductive Reason where
  | expired
  | bad
  | gone
  | scopesLost
  deriving DecidableEq

section Timing
variable {times : RetryTimes} {state : ServiceAgent} {op other : SrvRegOperation}

/-- The agent has been tried for too long. -/
def tooLong (times : RetryTimes) (op : SrvRegOperation) : Bool :=
  let total := op.updateRetryTime.totalTime + op.updateRetryTime.retryTime
  if op.isRegistration then decide (times.configRetryMax < total)
  else decide (times.configRetryMax ≤ total)

/-- What becomes of an operation when its timer runs out. Without a reason it is tried again. -/
def verdict (times : RetryTimes) (tracker : DATracker) (op : SrvRegOperation) : Option Reason :=
  if op.isRegistration = true ∧ op.expires = true then some .expired
  else if tooLong times op then some .bad
  else
    match tracker.lookupDA op.daUrl with
    | none => some .gone
    | some agent =>
      if op.isRegistration = true ∧ (agent.scopes.intersection op.service.scopes).scopes = ∅ then
        some .scopesLost
      else none

/-- The agent of an operation has disappeared or has lost the matching scopes. -/
def Unserved (tracker : DATracker) (op : SrvRegOperation) : Prop :=
  ∀ agent, tracker.lookupDA op.daUrl = some agent →
    (agent.scopes.intersection op.service.scopes).scopes = ∅

theorem url_ageLifetime (op : SrvRegOperation) :
    op.ageLifetime.service.url.url = op.service.url.url := by
  unfold SrvRegOperation.ageLifetime URLEntry.ageLifetime
  split
  · rfl
  · rfl

/-- The operations for a service and an agent. -/
def ofPair (op other : SrvRegOperation) : Bool :=
  decide (other.service.url.url = op.service.url.url ∧ other.daUrl = op.daUrl)

theorem ofPair_eq_true : ofPair op other = true ↔ SamePair other op := decide_eq_true_iff

theorem deleteOperation_eq (state : ServiceAgent) (same : SamePair op other) :
    state.deleteOperation op = state.cancel (ofPair other) := by
  unfold deleteOperation cancelPendingDAOperationsForServiceAndDA
  rw [same.1, same.2]
  rfl

/-- An operation is given up with all that are for the same service and agent. -/
theorem cancelled_deleteOperation {before : ServiceAgent} (member : other ∈ state.pendingOps)
    (same : SamePair op other) (ops : before.pendingOps = state.pendingOps)
    (acks : before.pendingAcks = state.pendingAcks.erase other.xid)
    (timers : before.timers = state.timers.erase other.number)
    (count : before.operationCount = state.operationCount) :
    Cancelled state (before.deleteOperation op) (ofPair other) := by
  have included : ofPair other other = true := ofPair_eq_true.mpr ⟨rfl, rfl⟩
  rw [deleteOperation_eq before same]
  apply cancelled_cancel ops
  · intro xid out
    rw [acks, lookup_erase_eq, if_neg]
    intro here
    exact out ⟨other, member, included, here.symm⟩
  · intro number out
    rw [timers, Finset.mem_erase]
    have different := out other member included
    exact ⟨fun both => both.2, fun inside => ⟨fun here => different here.symm, inside⟩⟩
  · exact count

/-- An operation that is tried again is known by the same number and xid. -/
theorem kept_resend (sound : Sound state) (member : other ∈ state.pendingOps)
    (agent : InternalDirectoryAgent) (number : op.number = other.number) (xid : op.xid = other.xid) :
    Kept state ({ state with timers := state.timers.erase other.number }.resend op agent) := by
  constructor
  · unfold ServiceAgent.keys resend
    rw [map_map]
    apply map_congr_left
    intro one inside
    dsimp only [Function.comp_apply]
    split
    · rename_i same
      rw [number, xid, sound.eq_of_number inside member (same.trans number)]
    · rfl
  · rfl
  · show insert op.number (state.timers.erase other.number) = state.timers
    rw [number]
    exact Finset.insert_erase ((sound.timers other.number).mpr ⟨other, member, rfl⟩)
  · rfl

section

variable (sound : Sound state) (member : op ∈ state.pendingOps)
  (awaited : (state.pendingAcks.lookup op.xid).isSome = true)
include sound member awaited

theorem registrationTimeout_verdict (kind : op.isRegistration = true) :
    match verdict times state.tracker op with
    | none => Kept state (registrationTimeout times
        { state with timers := state.timers.erase op.number } op)
    | some _ => Cancelled state (registrationTimeout times
        { state with timers := state.timers.erase op.number } op) (ofPair op) := by
  obtain ⟨number, found⟩ := Option.isSome_iff_exists.mp awaited
  have same : SamePair op op := ⟨rfl, rfl⟩
  have aged : SamePair op.ageLifetime.updateRetryTime op := ⟨url_ageLifetime op, rfl⟩
  unfold verdict registrationTimeout
  simp only [found, kind, true_and]
  by_cases expired : op.expires = true
  · simp only [expired, if_true]
    exact cancelled_deleteOperation member same rfl rfl rfl rfl
  · simp only [expired]
    have total : tooLong times op = decide (times.configRetryMax <
        op.ageLifetime.updateRetryTime.totalTime + op.ageLifetime.updateRetryTime.retryTime) := by
      rw [tooLong, if_pos kind]
      rfl
    rw [total]
    by_cases long : times.configRetryMax <
        op.ageLifetime.updateRetryTime.totalTime + op.ageLifetime.updateRetryTime.retryTime
    · simp only [long, decide_true, if_true]
      exact cancelled_deleteOperation member aged rfl rfl rfl rfl
    · simp only [long, decide_false, if_false]
      have agents : op.ageLifetime.updateRetryTime.daUrl = op.daUrl := rfl
      have scopes : op.ageLifetime.updateRetryTime.service.scopes = op.service.scopes := rfl
      simp only [agents, scopes]
      cases present : state.tracker.lookupDA op.daUrl with
      | none =>
        exact cancelled_deleteOperation member aged rfl rfl rfl rfl
      | some agent =>
        by_cases lost : (agent.scopes.intersection op.service.scopes).scopes = ∅
        · simp only [lost, if_true]
          exact cancelled_deleteOperation member aged rfl rfl rfl rfl
        · simp only [lost, if_false]
          exact kept_resend sound member agent rfl rfl

theorem deRegistrationTimeout_verdict (kind : op.isRegistration = false) :
    match verdict times state.tracker op with
    | none => Kept state (deRegistrationTimeout times
        { state with timers := state.timers.erase op.number } op)
    | some _ => Cancelled state (deRegistrationTimeout times
        { state with timers := state.timers.erase op.number } op) (ofPair op) := by
  obtain ⟨number, found⟩ := Option.isSome_iff_exists.mp awaited
  have later : SamePair op.updateRetryTime op := ⟨rfl, rfl⟩
  unfold verdict deRegistrationTimeout
  simp only [found, kind, Bool.false_eq_true, false_and, if_false]
  have total : tooLong times op = decide (times.configRetryMax ≤
      op.updateRetryTime.totalTime + op.updateRetryTime.retryTime) := by
    rw [tooLong, kind]
    rfl
  rw [total]
  by_cases long : times.configRetryMax ≤ op.updateRetryTime.totalTime + op.updateRetryTime.retryTime
  · simp only [long, decide_true, if_true]
    exact cancelled_deleteOperation member later rfl rfl rfl rfl
  · simp only [long, decide_false, if_false]
    have agents : op.updateRetryTime.daUrl = op.daUrl := rfl
    simp only [agents]
    cases present : state.tracker.lookupDA op.daUrl with
    | none =>
      exact cancelled_deleteOperation member later rfl rfl rfl rfl
    | some agent =>
      exact kept_resend sound member agent rfl rfl

theorem timeout_verdict :
    match verdict times state.tracker op with
    | none => Kept state (state.timeout times op.number)
    | some _ => Cancelled state (state.timeout times op.number) (ofPair op) := by
  have running : op.number ∈ state.timers := (sound.timers op.number).mpr ⟨op, member, rfl⟩
  have found : findOperation { state with timers := state.timers.erase op.number } op.number =
      some op := sound.findOperation member
  rw [timeout, if_pos running]
  simp only [found]
  cases kind : op.isRegistration with
  | true => exact registrationTimeout_verdict sound member awaited kind
  | false => exact deRegistrationTimeout_verdict sound member awaited kind

end

theorem timeout_of_missing (sound : Sound state) {number : Nat}
    (missing : ∀ op ∈ state.pendingOps, op.number ≠ number) :
    state.timeout times number = state := by
  rw [timeout, if_neg]
  intro running
  obtain ⟨op, member, named⟩ := (sound.timers number).mp running
  exact missing op member named

end Timing

end OpenLighting.Slp.ServiceAgent
