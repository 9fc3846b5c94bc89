import OpenLighting.AdvancedTCPConnectorWatching

namespace OpenLighting.TcpConnector

open TransitionSystem World List

/-- What is registered for an endpoint is what its state tells: a connection or a retry timer if
it is disconnected, and nothing otherwise. -/
def Linked (info : Option ConnectionInfo) (pendingIds retryIds : List Nat) : Prop :=
  match info with
  | none => pendingIds = [] ∧ retryIds = []
  | some info => pendingIds = info.connectionId.toList ∧ retryIds = info.retryTimeout.toList ∧
      pendingIds.length + retryIds.length = if info.state = .disconnected then 1 else 0

section Endpoints
variable {κ : Type} [DecidableEq κ]

/-- The invariant for all endpoints but one. -/
structure Loose (key : κ) (limbo : List Nat) (world : World κ) : Prop where
  kept : Kept limbo world
  others : ∀ other, other ≠ key →
    Linked (world.connections.lookup other) (world.pendingIds limbo other) (world.retryIds other)

/-- The invariant. -/
structure Consistent (limbo : List Nat) (world : World κ) : Prop where
  kept : Kept limbo world
  linked : ∀ key,
    Linked (world.connections.lookup key) (world.pendingIds limbo key) (world.retryIds key)

/-- No endpoint comes, and connection ids only go. -/
def Follows (world after : World κ) : Prop :=
  ∀ key info, after.connections.lookup key = some info →
    ∃ before, world.connections.lookup key = some before ∧ info.serial = before.serial ∧
      (before.connectionId = none → info.connectionId = none)

variable {limbo : List Nat} {world after : World κ} {key other : κ} {info : ConnectionInfo}

theorem follows_refl (world : World κ) : Follows world world :=
  fun _ info found => ⟨info, found, rfl, id⟩

theorem Follows.trans {last : World κ} (first : Follows world after) (second : Follows after last) :
    Follows world last := by
  intro key info found
  have ⟨middle, held, serial, dropped⟩ := second key info found
  have ⟨before, holds, serials, drops⟩ := first key middle held
  exact ⟨before, holds, serial.trans serials, fun absent => dropped (drops absent)⟩

theorem Follows.absent (follows : Follows world after)
    (absent : world.connections.lookup key = none) : after.connections.lookup key = none := by
  cases found : after.connections.lookup key with
  | none => rfl
  | some info =>
    have ⟨before, held, _⟩ := follows key info found
    rw [absent] at held
    cases held

theorem follows_insert {before : ConnectionInfo}
    (equal : after.connections = world.connections.insert key info)
    (found : world.connections.lookup key = some before) (serial : info.serial = before.serial)
    (dropped : info.connectionId = none) : Follows world after := by
  intro other got
  rw [equal, FiniteMap.lookup_insert_eq]
  split
  · rename_i same
    intro held
    cases held
    exact ⟨before, same ▸ found, serial, fun _ => dropped⟩
  · exact fun held => ⟨got, held, rfl, id⟩

theorem Consistent.loose (consistent : Consistent limbo world) (key : κ) : Loose key limbo world :=
  ⟨consistent.kept, fun other _ => consistent.linked other⟩

theorem Loose.consistent (loose : Loose key limbo world)
    (linked : Linked (world.connections.lookup key) (world.pendingIds limbo key)
      (world.retryIds key)) : Consistent limbo world := by
  refine ⟨loose.kept, ?_⟩
  intro other
  by_cases same : other = key
  · rw [same]
    exact linked
  · exact loose.others other same

theorem lookup_put (world : World κ) (key : κ) (info : ConnectionInfo) :
    (world.put key info).connections.lookup key = some info := AList.lookup_insert _

theorem Loose.put (loose : Loose key limbo world) (info : ConnectionInfo) :
    Loose key limbo (world.put key info) := by
  refine ⟨loose.kept.put key info, ?_⟩
  intro other distinct
  show Linked ((world.connections.insert key info).lookup other) _ _
  rw [AList.lookup_insert_ne distinct]
  exact loose.others other distinct

/-- An endpoint that waits for nothing gets a retry timer. -/
theorem Loose.scheduleRetry (loose : Loose key limbo world)
    (noPending : world.pendingIds limbo key = []) (noRetry : world.retryIds key = [])
    (id : info.connectionId = none) (state : info.state = .disconnected) (attempts : UInt32) :
    Consistent limbo (world.scheduleRetry key info attempts) := by
  have retries := retryIds_scheduleRetry world key
  refine ⟨loose.kept.scheduleRetry key info attempts, ?_⟩
  intro other
  rw [retries other]
  show Linked ((world.connections.insert key _).lookup other) (world.pendingIds limbo other) _
  by_cases same : other = key
  · subst same
    rw [AList.lookup_insert, noPending, noRetry, if_pos rfl]
    exact ⟨by rw [id]; rfl, rfl, by rw [if_pos state]; rfl⟩
  · rw [AList.lookup_insert_ne same, if_neg same, append_nil]
    exact loose.others other same

/-- What an attempt leaves that has failed. -/
theorem connectionResult_failed (newTCPSocket : World κ → Option (World κ))
    (loose : Loose key limbo world) (found : world.connections.lookup key = some info)
    (noPending : world.pendingIds limbo key = []) (noRetry : world.retryIds key = [])
    (state : info.state = .disconnected) :
    ∃ after result, world.connectionResult newTCPSocket key false = some after ∧
      Consistent limbo after ∧ after.connections = world.connections.insert key result ∧
      result.serial = info.serial ∧ result.connectionId = none := by
  unfold connectionResult
  rw [found]
  refine ⟨_, _, rfl, ?_, rfl, rfl, rfl⟩
  apply loose.scheduleRetry noPending noRetry
  · rfl
  · exact state

variable {connection : PendingConnection κ} {id : Nat}

/-- What is known of the endpoint of a pending connection. -/
theorem Consistent.waiting (consistent : Consistent limbo world)
    (inside : connection ∈ world.live limbo) :
    ∃ info, world.connections.lookup connection.key = some info ∧ info.state = .disconnected ∧
      info.retryTimeout = none ∧ world.pendingIds limbo connection.key = [connection.id] ∧
      world.retryIds connection.key = [] := by
  have member : connection.id ∈ world.pendingIds limbo connection.key :=
    mem_pendingIds.mpr ⟨connection, inside, rfl, rfl⟩
  have linked := consistent.linked connection.key
  cases found : world.connections.lookup connection.key with
  | none =>
    rw [found] at linked
    rw [linked.1] at member
    cases member
  | some info =>
    rw [found] at linked
    have ⟨ids, retries, count⟩ := linked
    rw [ids] at member
    have id : info.connectionId = some connection.id := Option.mem_toList.mp member
    rw [ids, id, Option.toList_some, length_singleton] at count
    have state : info.state = .disconnected := by
      by_contra other
      rw [if_neg other] at count
      omega
    rw [if_pos state] at count
    have none : world.retryIds connection.key = [] := eq_nil_of_length_eq_zero (by omega)
    rw [none] at retries
    exact ⟨info, rfl, state, Option.toList_eq_nil_iff.mp retries.symm, by rw [ids, id]; rfl, none⟩

/-- The endpoint of a pending connection waits for nothing any more when that is taken off. -/
theorem Consistent.unwatch (consistent : Consistent limbo world)
    (inside : connection ∈ world.live limbo) :
    Loose connection.key (connection.id :: limbo) (world.unwatch connection) ∧
      (world.unwatch connection).pendingIds (connection.id :: limbo) connection.key = [] ∧
      (world.unwatch connection).retryIds connection.key = [] := by
  have ⟨_, _, _, _, ids, retries⟩ := consistent.waiting inside
  have kept := consistent.kept
  refine ⟨⟨kept.unwatch inside, ?_⟩, ?_, ?_⟩
  · intro other distinct
    rw [pendingIds_unwatch_other kept inside distinct, retryIds_unwatch kept inside]
    exact consistent.linked other
  · rw [pendingIds_unwatch, ids]
    simp
  · rw [retryIds_unwatch kept inside, retries]

theorem Consistent.forget (consistent : Consistent (id :: limbo) world) :
    Consistent limbo (world.forget id) := by
  refine ⟨consistent.kept.forget, ?_⟩
  intro key
  rw [pendingIds_forget]
  exact consistent.linked key

/-- A pending connection that is cancelled or times out. -/
theorem timeout_consistent (consistent : Consistent limbo world)
    (inside : connection ∈ world.live limbo) :
    ∃ after info result, world.connections.lookup connection.key = some info ∧
      world.timeout connection = some after ∧ Consistent (connection.id :: limbo) after ∧
      after.connections = world.connections.insert connection.key result ∧
      result.serial = info.serial ∧ result.connectionId = none := by
  have ⟨info, found, state, _⟩ := consistent.waiting inside
  have ⟨loose, ids, retries⟩ := consistent.unwatch inside
  have ⟨after, result, ran, done, rest⟩ :=
    @connectionResult_failed κ _ _ _ _ info some loose found ids retries state
  exact ⟨after, info, result, found, ran, done, rest⟩

theorem cancel_consistent (consistent : Consistent limbo world)
    (found : world.connections.lookup key = some info) (pending : info.connectionId = some id) :
    ∃ after result, world.cancel id = some after ∧ Consistent limbo after ∧
      after.connections = world.connections.insert key result ∧ result.serial = info.serial ∧
      result.connectionId = none := by
  have linked := consistent.linked key
  rw [found] at linked
  have member : id ∈ world.pendingIds limbo key := by
    rw [linked.1, pending]
    exact mem_singleton_self _
  have ⟨connection, inside, keyed, named⟩ := mem_pendingIds.mp member
  subst keyed named
  have ⟨middle, before, result, held, ran, done, equal, serial, dropped⟩ :=
    timeout_consistent consistent inside
  rw [found] at held
  cases held
  unfold cancel
  rw [find?_of_nodup consistent.kept.pending (mem_live.mp inside).1]
  dsimp only [bind, Option.bind]
  rw [ran]
  exact ⟨_, result, rfl, done.forget, equal, serial, dropped⟩

theorem deref_self (found : world.connections.lookup key = some info) :
    world.deref key info.serial = some info := by
  unfold deref
  rw [found]
  exact Option.filter_some_pos (decide_eq_true rfl)

/-- The retry timer of an endpoint without a connection is removed, if there is one. -/
theorem Consistent.dropRetry (consistent : Consistent limbo world)
    (found : world.connections.lookup key = some info) (id : info.connectionId = none) :
    let after := if info.retryTimeout = none then world else world.removeTimeout info.retryTimeout
    Loose key limbo after ∧ after.pendingIds limbo key = [] ∧ after.retryIds key = [] ∧
      after.connections = world.connections := by
  have linked := consistent.linked key
  rw [found] at linked
  have ⟨ids, retries, _⟩ := linked
  rw [id] at ids
  cases timeout : info.retryTimeout with
  | none =>
    rw [timeout] at retries
    exact ⟨consistent.loose key, ids, retries, rfl⟩
  | some timer =>
    rw [timeout] at retries
    have member : timer ∈ world.retryIds key := by rw [retries]; exact mem_singleton_self _
    refine ⟨⟨consistent.kept.removeTimeout member, ?_⟩, ids, ?_, rfl⟩
    · intro other distinct
      rw [if_neg (Option.some_ne_none timer),
        retryIds_removeTimeout_other consistent.kept member distinct]
      exact consistent.linked other
    · rw [if_neg (Option.some_ne_none timer), retryIds_removeTimeout, retries]
      simp

theorem abortConnection_loose (consistent : Consistent limbo world)
    (found : world.connections.lookup key = some info) :
    ∃ after, world.abortConnection key info.serial = some after ∧ Loose key limbo after ∧
      after.pendingIds limbo key = [] ∧ after.retryIds key = [] ∧
      ∀ other, other ≠ key →
        after.connections.lookup other = world.connections.lookup other := by
  unfold abortConnection
  rw [deref_self found]
  dsimp only [bind, Option.bind]
  cases pending : info.connectionId with
  | none =>
    rw [deref_self found]
    have ⟨loose, ids, retries, same⟩ := consistent.dropRetry found pending
    exact ⟨_, rfl, loose, ids, retries, fun other _ => by rw [same]⟩
  | some id =>
    have ⟨middle, result, ran, between, equal, serial, dropped⟩ :=
      cancel_consistent consistent found pending
    have held : middle.connections.lookup key = some result := by
      rw [equal, AList.lookup_insert]
    dsimp only
    rw [ran, ← serial]
    dsimp only
    rw [deref_self held]
    have ⟨loose, ids, retries, same⟩ := between.dropRetry held dropped
    refine ⟨_, rfl, loose, ids, retries, ?_⟩
    intro other distinct
    rw [same, equal, AList.lookup_insert_ne distinct]

theorem removeEndpoint_consistent (consistent : Consistent limbo world) (key : κ) :
    ∃ after, world.removeEndpoint key = some after ∧ Consistent limbo after ∧
      after.connections.lookup key = none ∧
      ∀ other, other ≠ key →
        after.connections.lookup other = world.connections.lookup other := by
  unfold removeEndpoint
  cases found : world.connections.lookup key with
  | none => exact ⟨world, rfl, consistent, found, fun _ _ => rfl⟩
  | some info =>
    have ⟨middle, ran, loose, ids, retries, same⟩ := abortConnection_loose consistent found
    dsimp only [bind, Option.bind]
    rw [ran]
    refine ⟨_, rfl, ⟨loose.kept.erase key, ?_⟩, AList.lookup_erase _ _, ?_⟩
    · intro other
      by_cases equal : other = key
      · subst equal
        rw [AList.lookup_erase]
        exact ⟨ids, retries⟩
      · rw [AList.lookup_erase_ne equal]
        exact loose.others other equal
    · intro other distinct
      rw [AList.lookup_erase_ne distinct, same other distinct]

/-- An endpoint that waits for nothing is connected or paused. -/
theorem Loose.settle (loose : Loose key limbo world)
    (noPending : world.pendingIds limbo key = []) (noRetry : world.retryIds key = [])
    (id : info.connectionId = none) (timeout : info.retryTimeout = none)
    (state : info.state ≠ .disconnected) : Consistent limbo (world.put key info) := by
  apply (loose.put info).consistent
  rw [lookup_put]
  refine ⟨?_, ?_, ?_⟩
  · rw [id]
    exact noPending
  · rw [timeout]
    exact noRetry
  · show (world.pendingIds limbo key).length + (world.retryIds key).length = _
    rw [noPending, noRetry, if_neg state]
    rfl

theorem present_insert (equal : after.connections = world.connections.insert key info) (other : κ)
    (present : (world.connections.lookup other).isSome) :
    (after.connections.lookup other).isSome := by
  rw [equal, FiniteMap.lookup_insert_eq]
  split
  · rfl
  · exact present

/-- `Disconnect` keeps the object and, if it does anything, finds nothing registered. -/
theorem disconnect_consistent (consistent : Consistent limbo world) (key : κ) (pause : Bool) :
    Consistent limbo (world.disconnect key pause) ∧ Follows world (world.disconnect key pause) ∧
      ∀ other, (world.connections.lookup other).isSome →
        ((world.disconnect key pause).connections.lookup other).isSome := by
  unfold disconnect
  cases found : world.connections.lookup key with
  | none => exact ⟨consistent, follows_refl world, fun _ present => present⟩
  | some info =>
    dsimp only
    by_cases state : info.state = .connected
    · have linked := consistent.linked key
      rw [found] at linked
      have ⟨ids, retries, count⟩ := linked
      rw [if_neg (by rw [state]; decide)] at count
      have noPending := eq_nil_of_length_eq_zero (Nat.eq_zero_of_add_eq_zero count).1
      have noRetry := eq_nil_of_length_eq_zero (Nat.eq_zero_of_add_eq_zero count).2
      have id := Option.toList_eq_nil_iff.mp (ids.symm.trans noPending)
      have timeout := Option.toList_eq_nil_iff.mp (retries.symm.trans noRetry)
      have loose := consistent.loose key
      rw [if_neg (not_not_intro state)]
      cases pause with
      | true =>
        refine ⟨?_, follows_insert rfl found rfl id, present_insert rfl⟩
        apply loose.settle noPending noRetry
        · exact id
        · exact timeout
        · exact ConnectionState.noConfusion
      | false =>
        refine ⟨?_, follows_insert rfl found rfl id, present_insert rfl⟩
        apply loose.scheduleRetry noPending noRetry
        · exact id
        · rfl
    · rw [if_pos state]
      exact ⟨consistent, follows_refl world, fun _ present => present⟩

theorem call_consistent (consistent : Consistent limbo world) (call : Call κ) :
    ∃ after, world.call call = some after ∧ Consistent limbo after ∧ Follows world after ∧
      (∀ other, call ≠ .removeEndpoint other → (world.connections.lookup other).isSome →
        (after.connections.lookup other).isSome) ∧
      ∀ other, call = .removeEndpoint other → after.connections.lookup other = none := by
  cases call with
  | disconnect key pause =>
    have ⟨done, follows, present⟩ := disconnect_consistent consistent key pause
    exact ⟨_, rfl, done, follows, fun other _ => present other, fun _ same => by cases same⟩
  | removeEndpoint key =>
    have ⟨after, ran, done, gone, same⟩ := removeEndpoint_consistent consistent key
    refine ⟨after, ran, done, ?_, ?_, fun other equal => by cases equal; exact gone⟩
    · intro other info found
      by_cases equal : other = key
      · rw [equal, gone] at found
        cases found
      · rw [same other equal] at found
        exact ⟨info, found, rfl, id⟩
    · intro other distinct present
      rwa [same other (fun equal => distinct (by rw [equal]))]

theorem newTCPSocket_consistent (consistent : Consistent limbo world) (calls : List (Call κ)) :
    ∃ after, World.newTCPSocket calls world = some after ∧ Consistent limbo after ∧
      Follows world after ∧
      (∀ other, .removeEndpoint other ∉ calls → (world.connections.lookup other).isSome →
        (after.connections.lookup other).isSome) ∧
      ∀ other, .removeEndpoint other ∈ calls → after.connections.lookup other = none := by
  induction calls generalizing world with
  | nil =>
    exact ⟨world, rfl, consistent, follows_refl world, fun _ _ present => present,
      fun _ member => absurd member not_mem_nil⟩
  | cons call calls ih =>
    have ⟨middle, ran, between, first, kept, gone⟩ := call_consistent consistent call
    have ⟨after, rest, done, second, keeps, goes⟩ := ih between
    refine ⟨after, ?_, done, first.trans second, ?_, ?_⟩
    · unfold newTCPSocket at rest ⊢
      rw [foldlM_cons]
      rw [ran]
      exact rest
    · intro other absent present
      have ⟨distinct, later⟩ := not_or.mp (mt mem_cons.mpr absent)
      exact keeps other later (kept other (Ne.symm distinct) present)
    · intro other member
      rcases mem_cons.mp member with same | later
      · exact second.absent (gone other same.symm)
      · exact goes other later

/-- What a connection leaves that has been made. -/
theorem connectionResult_connected (calls : List (Call κ)) (loose : Loose key limbo world)
    (found : world.connections.lookup key = some info)
    (noPending : world.pendingIds limbo key = []) (noRetry : world.retryIds key = [])
    (timeout : info.retryTimeout = none) :
    ∃ after, world.connectionResult (World.newTCPSocket calls) key true = some after ∧
      Consistent limbo after ∧
      (∀ result, after.connections.lookup key = some result →
        result.serial = info.serial ∧ result.connectionId = none) ∧
      (.removeEndpoint key ∉ calls → (after.connections.lookup key).isSome) ∧
      (.removeEndpoint key ∈ calls → after.connections.lookup key = none) := by
  have connected : Consistent limbo (world.put key
      { info with connectionId := none, state := .connected }) := by
    apply loose.settle noPending noRetry
    · rfl
    · exact timeout
    · exact ConnectionState.noConfusion
  have held := lookup_put world key { info with connectionId := none, state := .connected }
  have ⟨after, ran, done, follows, present, gone⟩ := newTCPSocket_consistent connected calls
  refine ⟨after, ?_, done, ?_, ?_, gone key⟩
  · unfold connectionResult
    rw [found]
    exact ran
  · intro result got
    have ⟨before, holds, serial, dropped⟩ := follows key result got
    rw [held] at holds
    cases holds
    exact ⟨serial, dropped rfl⟩
  · intro absent
    apply present key absent
    rw [held]
    rfl

/-- The state is written as it is. -/
theorem Consistent.put_self (consistent : Consistent limbo world)
    (found : world.connections.lookup key = some info) : Consistent limbo (world.put key info) := by
  apply ((consistent.loose key).put info).consistent
  have linked := consistent.linked key
  rw [found] at linked
  rw [lookup_put]
  exact linked

/-- The id that `Connect` leaves behind is none if it has called back already. -/
theorem Consistent.returned (consistent : Consistent limbo world)
    (held : world.connections.lookup key = some info) (dropped : info.connectionId = none) :
    ∃ after, ((world.deref key info.serial).bind fun info =>
      some (world.put key { info with connectionId := none })) = some after ∧
      Consistent limbo after := by
  have unchanged : { info with connectionId := none } = info := by rw [← dropped]
  rw [deref_self held, Option.bind_some, unchanged]
  exact ⟨_, rfl, consistent.put_self held⟩

/-- An attempt for an endpoint that waits for nothing. -/
theorem attemptConnection_consistent {outcome : Outcome κ} (loose : Loose key limbo world)
    (found : world.connections.lookup key = some info) (state : info.state = .disconnected)
    (noPending : world.pendingIds limbo key = []) (noRetry : world.retryIds key = [])
    (timeout : info.retryTimeout = none)
    (stays : ∀ calls, outcome = .connected calls → .removeEndpoint key ∉ calls) :
    ∃ after, world.attemptConnection key info.serial outcome = some after ∧
      Consistent limbo after := by
  unfold attemptConnection
  dsimp only [bind, Option.bind]
  cases outcome with
  | inProgress =>
    have held : (world.watch key).connections.lookup key = some info := found
    have kept := loose.kept.watch key
    have started : world.connect key .inProgress =
        some (world.watch key, some world.next) := rfl
    rw [started]
    dsimp only
    rw [deref_self held]
    refine ⟨_, rfl, kept.put key _, ?_⟩
    intro other
    show Linked (((world.watch key).connections.insert key _).lookup other)
      ((world.watch key).pendingIds limbo other) ((world.watch key).retryIds other)
    rw [pendingIds_watch loose.kept, retryIds_watch]
    by_cases same : other = key
    · rw [same, AList.lookup_insert, noPending, noRetry, if_pos rfl]
      refine ⟨rfl, ?_, ?_⟩
      · rw [timeout]
        rfl
      · rw [if_pos state]
        rfl
    · rw [AList.lookup_insert_ne same, if_neg same, append_nil]
      exact loose.others other same
  | failed =>
    have ⟨middle, result, ran, done, equal, serial, dropped⟩ :=
      connectionResult_failed some loose found noPending noRetry state
    have held : middle.connections.lookup key = some result := by
      rw [equal, AList.lookup_insert]
    unfold connect
    dsimp only [bind, Option.bind]
    rw [ran, ← serial]
    exact done.returned held dropped
  | connected calls =>
    have ⟨middle, ran, done, result, present, _⟩ :=
      connectionResult_connected calls loose found noPending noRetry timeout
    have ⟨last, held⟩ := Option.isSome_iff_exists.mp (present (stays calls rfl))
    have ⟨serial, dropped⟩ := result last held
    unfold connect
    dsimp only [bind, Option.bind]
    rw [ran, ← serial]
    exact done.returned held dropped

/-- The state is gone when `Connect` returns. -/
theorem attemptConnection_removed {calls : List (Call κ)} (loose : Loose key limbo world)
    (found : world.connections.lookup key = some info)
    (noPending : world.pendingIds limbo key = []) (noRetry : world.retryIds key = [])
    (timeout : info.retryTimeout = none) (removes : .removeEndpoint key ∈ calls) :
    world.attemptConnection key info.serial (.connected calls) = none := by
  have ⟨middle, ran, _, _, _, gone⟩ :=
    connectionResult_connected calls loose found noPending noRetry timeout
  unfold attemptConnection connect
  dsimp only [bind, Option.bind]
  rw [ran]
  dsimp only
  rw [deref, gone removes]
  rfl

/-- What an attempt starts from. -/
structure Ready (world : World κ) (key : κ) (info : ConnectionInfo) : Prop where
  loose : Loose key [] world
  found : world.connections.lookup key = some info
  state : info.state = .disconnected
  noPending : world.pendingIds [] key = []
  noRetry : world.retryIds key = []
  timeout : info.retryTimeout = none

theorem Loose.reserve (loose : Loose key limbo world) :
    Loose key limbo { world with next := world.next + 1 } := ⟨loose.kept.reserve, loose.others⟩

section
variable (consistent : Consistent [] world)
include consistent

theorem addEndpoint_ready (fresh : world.connections.lookup key = none) (policy : UInt32 → Nat)
    (outcome : Outcome κ) :
    ∃ before info, Ready before key info ∧ world.addEndpoint key policy false outcome =
      before.attemptConnection key info.serial outcome := by
  have linked := consistent.linked key
  rw [fresh] at linked
  unfold addEndpoint
  rw [fresh]
  exact ⟨_, _, ⟨(consistent.loose key).reserve.put _, lookup_put _ _ _, rfl, linked.1, linked.2,
    rfl⟩, rfl⟩

theorem resume_ready (found : world.connections.lookup key = some info)
    (paused : info.state = .paused) (outcome : Outcome κ) :
    ∃ before after, Ready before key after ∧ world.resume key outcome =
      before.attemptConnection key after.serial outcome := by
  have linked := consistent.linked key
  rw [found] at linked
  have ⟨_, retries, count⟩ := linked
  rw [if_neg (by rw [paused]; decide)] at count
  have noPending := eq_nil_of_length_eq_zero (Nat.eq_zero_of_add_eq_zero count).1
  have noRetry := eq_nil_of_length_eq_zero (Nat.eq_zero_of_add_eq_zero count).2
  have timeout := Option.toList_eq_nil_iff.mp (retries.symm.trans noRetry)
  unfold resume
  rw [found]
  dsimp only
  rw [if_pos paused]
  exact ⟨_, { info with state := .disconnected }, ⟨(consistent.loose key).put _,
    lookup_put _ _ _, rfl, noPending, noRetry, timeout⟩, rfl⟩

theorem retry_ready {timer : Timer κ} (inside : timer ∈ world.timers)
    (retries : timer.callback = .retry key) (outcome : Outcome κ) :
    ∃ before info, Ready before key info ∧
      (world.removeTimeout (some timer.id)).retryTimeout key outcome =
        before.attemptConnection key info.serial outcome := by
  have member : timer.id ∈ world.retryIds key := mem_retryIds.mpr ⟨timer, inside, retries, rfl⟩
  have linked := consistent.linked key
  cases found : world.connections.lookup key with
  | none =>
    rw [found] at linked
    rw [linked.2] at member
    cases member
  | some info =>
    rw [found] at linked
    have ⟨_, ids, count⟩ := linked
    rw [ids] at member
    have id : info.retryTimeout = some timer.id := Option.mem_toList.mp member
    rw [id, Option.toList_some] at ids
    rw [ids, length_singleton] at count
    have state : info.state = .disconnected := by
      by_contra other
      rw [if_neg other] at count
      omega
    rw [if_pos state] at count
    have noPending : world.pendingIds [] key = [] := eq_nil_of_length_eq_zero (by omega)
    have owner : timer.id ∈ world.retryIds key := by rw [ids]; exact mem_singleton_self _
    have held : (world.removeTimeout (some timer.id)).connections.lookup key = some info := found
    have loose : Loose key [] (world.removeTimeout (some timer.id)) := by
      refine ⟨consistent.kept.removeTimeout owner, ?_⟩
      intro other distinct
      rw [retryIds_removeTimeout_other consistent.kept owner distinct]
      exact consistent.linked other
    have none : (world.removeTimeout (some timer.id)).retryIds key = [] := by
      rw [retryIds_removeTimeout, ids]
      simp
    unfold retryTimeout
    rw [held]
    exact ⟨_, { info with retryTimeout := Option.none }, ⟨loose.put _, lookup_put _ _ _, state,
      noPending, none, rfl⟩, rfl⟩

/-- The connection that is cancelled when its timer fires. -/
theorem timeoutEvent_consistent {timer : Timer κ} (inside : timer ∈ world.timers)
    (connects : timer.callback = .connect id) :
    ∃ after, (world.removeTimeout (some timer.id)).timeoutEvent id = some after ∧
      Consistent [] after := by
  have chosen : timer ∈ world.timers.filter Timer.connects :=
    mem_filter.mpr ⟨inside, by rw [Timer.connects, connects]⟩
  rw [consistent.kept.watched] at chosen
  obtain ⟨connection, live, equal⟩ := mem_map.mp chosen
  subst equal
  have named : connection.id = id := TimerCallback.connect.inj connects
  subst named
  have twice : (world.removeTimeout (some connection.timeoutId)).unwatch connection =
      world.unwatch connection := by
    simp [unwatch, removeTimeout, filter_filter]
  obtain ⟨after, _, _, _, ran, done, _⟩ := timeout_consistent consistent live
  have found : (world.removeTimeout (some connection.timeoutId)).pending.find?
      (fun other => other.id = connection.id) = some connection :=
    find?_of_nodup consistent.kept.pending (mem_live.mp live).1
  unfold timeout at ran
  unfold timeoutEvent timeout
  dsimp only [PendingConnection.timer, bind, Option.bind]
  rw [found]
  dsimp only
  rw [twice, ran]
  exact ⟨_, rfl, done.forget⟩

theorem writable_consistent (id : Nat) (result : Option (List (Call κ))) :
    ∃ after, world.writable id result = some after ∧ Consistent [] after := by
  unfold writable
  by_cases member : id ∈ world.writers
  · rw [if_pos member]
    rw [consistent.kept.writers] at member
    have ⟨connection, live, named⟩ := mem_map.mp member
    subst named
    have ⟨info, held, state, timeout, _⟩ := consistent.waiting live
    have ⟨loose, noPending, noRetry⟩ := consistent.unwatch live
    have found : (world.unwatch connection).connections.lookup connection.key = some info := held
    rw [find?_of_nodup consistent.kept.pending (mem_live.mp live).1]
    unfold socketWritable
    dsimp only [bind, Option.bind]
    cases result with
    | none =>
      have ⟨after, _, ran, done, _⟩ :=
        connectionResult_failed some loose found noPending noRetry state
      rw [ran]
      exact ⟨_, rfl, done.forget⟩
    | some calls =>
      have ⟨after, ran, done, _⟩ :=
        connectionResult_connected calls loose found noPending noRetry timeout
      dsimp only
      rw [ran]
      exact ⟨_, rfl, done.forget⟩
  · rw [if_neg member]
    exact ⟨world, rfl, consistent⟩

/-- An event that calls `Connect`. -/
theorem attempts_ready {event : Event κ} {outcome : Outcome κ}
    (attempt : world.attempts event = some (key, outcome)) :
    ∃ before info, Ready before key info ∧ step (some world) event =
      before.attemptConnection key info.serial outcome := by
  cases event with
  | addEndpoint added policy paused result =>
    simp only [attempts] at attempt
    split at attempt
    · rename_i fresh
      cases attempt
      rw [Bool.eq_false_iff.mpr fresh.2]
      exact addEndpoint_ready consistent (Option.isNone_iff_eq_none.mp fresh.1) policy outcome
    · cases attempt
  | resume resumed result =>
    simp only [attempts] at attempt
    split at attempt
    · rename_i paused
      cases attempt
      have ⟨info, found, state⟩ := Option.map_eq_some_iff.mp paused
      exact resume_ready consistent found state outcome
    · cases attempt
  | expire id result =>
    simp only [attempts] at attempt
    split at attempt
    · rename_i retried found
      cases attempt
      have ⟨timer, chosen, retries⟩ := Option.map_eq_some_iff.mp found
      have named : timer.id = id := by
        have matched := List.find?_some chosen
        exact of_decide_eq_true matched
      have ⟨before, info, ready, same⟩ :=
        retry_ready consistent (mem_of_find?_eq_some chosen) retries outcome
      refine ⟨before, info, ready, ?_⟩
      rw [← same, named]
      show world.expire id outcome = _
      unfold expire
      rw [chosen]
      dsimp only
      rw [retries]
    · cases attempt
  | removeEndpoint removed | disconnect left pause | writable id result => cases attempt

/-- An event that does not. -/
theorem idle_consistent {event : Event κ} (idle : world.attempts event = none) :
    ∃ after, step (some world) event = some after ∧ Consistent [] after := by
  cases event with
  | addEndpoint key policy paused outcome =>
    show ∃ after, world.addEndpoint key policy paused outcome = some after ∧ _
    unfold addEndpoint
    cases found : world.connections.lookup key with
    | some info => exact ⟨world, rfl, consistent⟩
    | none =>
      cases paused with
      | true =>
        have linked := consistent.linked key
        rw [found] at linked
        refine ⟨_, rfl, ?_⟩
        apply (consistent.loose key).reserve.settle linked.1 linked.2
        · rfl
        · rfl
        · exact ConnectionState.noConfusion
      | false =>
        simp [attempts, found] at idle
  | removeEndpoint key =>
    have ⟨after, ran, done, _⟩ := removeEndpoint_consistent consistent key
    exact ⟨after, ran, done⟩
  | disconnect key pause => exact ⟨_, rfl, (disconnect_consistent consistent key pause).1⟩
  | resume key outcome =>
    show ∃ after, world.resume key outcome = some after ∧ _
    unfold resume
    cases found : world.connections.lookup key with
    | none => exact ⟨world, rfl, consistent⟩
    | some info =>
      have awake : info.state ≠ .paused := by
        intro paused
        simp [attempts, found, paused] at idle
      dsimp only
      rw [if_neg awake]
      exact ⟨world, rfl, consistent⟩
  | expire id outcome =>
    show ∃ after, world.expire id outcome = some after ∧ _
    unfold expire
    cases chosen : world.timers.find? (fun timer => timer.id = id) with
    | none => exact ⟨world, rfl, consistent⟩
    | some timer =>
      have named : timer.id = id := by
        have matched := List.find?_some chosen
        exact of_decide_eq_true matched
      cases callback : timer.callback with
      | retry key => simp [attempts, chosen, callback] at idle
      | connect connection =>
        dsimp only
        rw [callback, ← named]
        exact timeoutEvent_consistent consistent (mem_of_find?_eq_some chosen) callback
  | writable id result => exact writable_consistent consistent id result

end

theorem consistent_step (state : Option (World κ)) (event : Event κ)
    (before : ∃ world, state = some world ∧ Consistent [] world) (survives : Survives state event) :
    ∃ world, step state event = some world ∧ Consistent [] world := by
  have ⟨world, held, consistent⟩ := before
  subst held
  cases attempt : world.attempts event with
  | none => exact idle_consistent consistent attempt
  | some chosen =>
    have ⟨middle, info, ready, same⟩ := attempts_ready consistent attempt
    rw [same]
    apply attemptConnection_consistent ready.loose ready.found ready.state ready.noPending
      ready.noRetry ready.timeout
    intro calls connected
    apply survives world rfl
    rw [attempt, ← connected]

/-- The state of an endpoint that its socket factory has removed is written. -/
theorem removed_step (state : Option (World κ)) (event : Event κ)
    (before : ∃ world, state = some world ∧ Consistent [] world)
    (removes : ¬ Survives state event) : step state event = none := by
  have ⟨world, held, consistent⟩ := before
  subst held
  unfold Survives at removes
  push Not at removes
  have ⟨_, same, key, calls, attempt, member⟩ := removes
  cases same
  have ⟨middle, info, ready, equal⟩ := attempts_ready consistent attempt
  rw [equal]
  exact attemptConnection_removed ready.loose ready.found ready.noPending ready.noRetry
    ready.timeout member

theorem consistent_new (connectionTimeout : Nat) :
    Consistent [] (World.new connectionTimeout : World κ) := by
  refine ⟨⟨nodup_nil, ?_, nodup_nil, ?_, ?_, rfl, rfl⟩, fun _ => ⟨rfl, rfl⟩⟩
  · intro timer member
    cases member
  · intro connection member
    cases member
  · intro id member
    cases member

theorem Consistent.balanced (consistent : Consistent [] world) : Balanced world := by
  have all : world.live [] = world.pending := filter_eq_self.mpr fun _ _ => by simp
  have writers := consistent.kept.writers
  have watched := consistent.kept.watched
  rw [all] at writers watched
  constructor
  case waits =>
    intro key
    have linked := consistent.linked key
    have pending : (world.pendingIds [] key).length =
        world.pending.countP (fun connection => connection.key = key) := by
      rw [pendingIds, all, length_map, countP_eq_length_filter]
    have retries : (world.retryIds key).length =
        world.timers.countP (fun timer => timer.callback = .retry key) := by
      rw [retryIds, length_map, countP_eq_length_filter]
    rw [← pending, ← retries]
    cases found : world.connections.lookup key with
    | none =>
      rw [found] at linked
      rw [linked.1, linked.2]
      rfl
    | some info =>
      rw [found] at linked
      rw [linked.2.2, Option.map_some]
      simp
  case connects =>
    intro id
    rw [writers]
    exact mem_map
  case watched =>
    intro id
    constructor
    · intro timer
      obtain ⟨timer, inside, connects⟩ := timer
      have chosen : timer ∈ world.timers.filter Timer.connects :=
        mem_filter.mpr ⟨inside, by rw [Timer.connects, connects]⟩
      rw [watched] at chosen
      obtain ⟨connection, member, equal⟩ := mem_map.mp chosen
      subst equal
      rw [writers, ← TimerCallback.connect.inj connects]
      exact mem_map_of_mem member
    · intro member
      rw [writers] at member
      obtain ⟨connection, inside, named⟩ := mem_map.mp member
      refine ⟨connection.timer world.connectionTimeout, ?_, by rw [← named]; rfl⟩
      apply mem_of_mem_filter (p := Timer.connects)
      rw [watched]
      exact mem_map_of_mem inside

/-- The endpoints are as they should be after every event, and no state is used that is gone, if
and only if no socket factory removes the endpoint for which `Connect` has got a socket at
once. -/
theorem endpoints_balanced_iff (connectionTimeout : Nat) (events : List (Event κ)) :
    (∀ count, ∃ world,
      run step (some (World.new connectionTimeout)) (events.take count) = some world ∧
        Balanced world) ↔
      Permitted step Survives (some (World.new connectionTimeout)) events := by
  apply @always_iff_permitted _ _ step Survives
    (fun state => ∃ world, state = some world ∧ Consistent [] world)
    (fun state => ∃ world, state = some world ∧ Balanced world)
  · intro state before
    have ⟨world, held, consistent⟩ := before
    exact ⟨world, held, consistent.balanced⟩
  · exact consistent_step
  · intro state event before removes after
    have ⟨world, held, _⟩ := after
    rw [removed_step state event before removes] at held
    cases held
  · exact ⟨_, rfl, consistent_new connectionTimeout⟩

end Endpoints

/-- A connection to a local address is made at once, and the socket factory does not want it. -/
theorem removed_state_used :
    (run step (some (World.new 5)) [.addEndpoint (0 : Nat) (fun _ => 1) false
      (.connected [.removeEndpoint 0])]).isNone = true := rfl

end OpenLighting.TcpConnector
