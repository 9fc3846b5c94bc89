import OpenLighting.AdvancedTCPConnector

/- What is registered for the endpoints, and what each primitive step of the connectors does to
it. -/
namespace OpenLighting.TcpConnector

open List

section Lists
variable {α : Type} {id : α → Nat}

variable {values : List α}

theorem eq_of_nodup {first second : α} (nodup : (values.map id).Nodup) (one : first ∈ values)
    (two : second ∈ values) (same : id first = id second) :
    first = second := inj_on_of_nodup_map nodup one two same

theorem find?_of_nodup {value : α} (nodup : (values.map id).Nodup) (member : value ∈ values) :
    values.find? (fun other => id other = id value) = some value := by
  have found : (values.find? (fun other => id other = id value)).isSome := by
    rw [List.find?_isSome]
    exact ⟨value, member, decide_eq_true rfl⟩
  have ⟨other, equal⟩ := Option.isSome_iff_exists.mp found
  have same : id other = id value := by
    have matched := List.find?_some equal
    exact of_decide_eq_true matched
  rw [equal, eq_of_nodup nodup (mem_of_find?_eq_some equal) member same]

theorem nodup_filter (check : α → Bool) (nodup : (values.map id).Nodup) :
    ((values.filter check).map id).Nodup := nodup.sublist (filter_sublist.map id)

theorem nodup_concat {value : α} (nodup : (values.map id).Nodup)
    (fresh : ∀ other ∈ values, id other < id value) : ((values ++ [value]).map id).Nodup := by
  rw [map_append, map_singleton]
  apply List.Nodup.append nodup (nodup_singleton _)
  intro number front back
  have ⟨other, member, equal⟩ := mem_map.mp front
  have below := fresh other member
  rw [equal, mem_singleton.mp back] at below
  omega

end Lists

section Watching
variable {κ : Type}

def Timer.connects (timer : Timer κ) : Bool :=
  match timer.callback with
  | .connect _ => true
  | .retry _ => false

def PendingConnection.timer (delay : Nat) (connection : PendingConnection κ) : Timer κ :=
  ⟨connection.timeoutId, delay, .connect connection.id⟩

namespace World

/-- The pending connections but for those whose callbacks are being run. -/
def live (limbo : List Nat) (world : World κ) : List (PendingConnection κ) :=
  world.pending.filter (fun connection => connection.id ∉ limbo)

def pendingIds [DecidableEq κ] (limbo : List Nat) (world : World κ) (key : κ) : List Nat :=
  ((world.live limbo).filter (fun connection => connection.key = key)).map PendingConnection.id

def retryIds [DecidableEq κ] (world : World κ) (key : κ) : List Nat :=
  (world.timers.filter (fun timer => timer.callback = .retry key)).map Timer.id

end World

/-- Ids are not used twice, and a pending connection has a timer and a write descriptor until
its callback is run. -/
structure Kept (limbo : List Nat) (world : World κ) : Prop where
  timers : (world.timers.map Timer.id).Nodup
  timersBelow : ∀ timer ∈ world.timers, timer.id < world.next
  pending : (world.pending.map PendingConnection.id).Nodup
  pendingBelow : ∀ connection ∈ world.pending, connection.id < world.next
  limboBelow : ∀ id ∈ limbo, id < world.next
  watched : world.timers.filter Timer.connects =
    (world.live limbo).map (PendingConnection.timer world.connectionTimeout)
  writers : world.writers = (world.live limbo).map PendingConnection.id

variable {limbo : List Nat} {world : World κ} {key other : κ} {connection : PendingConnection κ}

theorem mem_live : connection ∈ world.live limbo ↔
    connection ∈ world.pending ∧ connection.id ∉ limbo := by
  simp [World.live]

theorem Kept.nodup_live (kept : Kept limbo world) :
    ((world.live limbo).map PendingConnection.id).Nodup := nodup_filter _ kept.pending

theorem Kept.timer (kept : Kept limbo world) (inside : connection ∈ world.live limbo) :
    connection.timer world.connectionTimeout ∈ world.timers := by
  have member := mem_map_of_mem (f := PendingConnection.timer world.connectionTimeout) inside
  rw [← kept.watched] at member
  exact mem_of_mem_filter member

theorem live_cons (id : Nat) : world.live (id :: limbo) =
    (world.live limbo).filter (fun connection => connection.id ≠ id) := by
  rw [World.live, World.live, filter_filter]
  apply filter_congr
  simp

/-- A connection that is in progress, with its timer and its write descriptor. -/
def World.watch (world : World κ) (key : κ) : World κ :=
  { world with
    pending := world.pending ++ [⟨world.next, key, world.next + 1⟩]
    timers := world.timers ++ [⟨world.next + 1, world.connectionTimeout, .connect world.next⟩]
    writers := world.writers ++ [world.next]
    next := world.next + 2 }

theorem live_watch (kept : Kept limbo world) (key : κ) :
    (world.watch key).live limbo = world.live limbo ++ [⟨world.next, key, world.next + 1⟩] := by
  have fresh : world.next ∉ limbo :=
    fun member => Nat.lt_irrefl _ (kept.limboBelow _ member)
  show (world.pending ++ [_]).filter _ = _
  simp [fresh, World.live]

/-- A pending connection whose callback is about to be run. -/
theorem Kept.unwatch (kept : Kept limbo world) (inside : connection ∈ world.live limbo) :
    Kept (connection.id :: limbo) (world.unwatch connection) where
  timers := nodup_filter _ kept.timers
  timersBelow timer held := kept.timersBelow timer (mem_of_mem_filter held)
  pending := kept.pending
  pendingBelow := kept.pendingBelow
  limboBelow id member := by
    rcases mem_cons.mp member with same | rest
    · rw [same]
      exact kept.pendingBelow connection (mem_live.mp inside).1
    · exact kept.limboBelow id rest
  watched := by
    show (world.timers.filter _).filter Timer.connects = (world.live (_ :: limbo)).map _
    rw [filter_comm, kept.watched, live_cons, filter_map]
    congr 1
    apply filter_congr
    intro neighbour held
    have timers := kept.timer inside
    have beside := kept.timer held
    by_cases same : neighbour.id = connection.id
    · rw [eq_of_nodup kept.nodup_live held inside same]
      simp [PendingConnection.timer]
    · have apart : neighbour.timeoutId ≠ connection.timeoutId := by
        intro equal
        have timer := eq_of_nodup kept.timers beside timers equal
        exact same (TimerCallback.connect.inj (congrArg Timer.callback timer))
      simp [PendingConnection.timer, same, apart]
  writers := by
    show world.writers.filter _ = (world.live (_ :: limbo)).map _
    rw [kept.writers, live_cons, filter_map]
    rfl

theorem live_forget (id : Nat) : (world.forget id).live limbo = world.live (id :: limbo) := by
  show (world.pending.filter _).filter _ = _
  rw [filter_comm, live_cons]
  rfl

variable {id : Nat}

theorem Kept.forget (kept : Kept (id :: limbo) world) : Kept limbo (world.forget id) where
  timers := kept.timers
  timersBelow := kept.timersBelow
  pending := nodup_filter _ kept.pending
  pendingBelow connection inside :=
    kept.pendingBelow connection (mem_of_mem_filter inside)
  limboBelow other member := kept.limboBelow other (mem_cons_of_mem _ member)
  watched := by
    rw [live_forget]
    exact kept.watched
  writers := by
    rw [live_forget]
    exact kept.writers

theorem Kept.watch (kept : Kept limbo world) (key : κ) : Kept limbo (world.watch key) where
  timers := nodup_concat kept.timers
    (fun timer member => Nat.lt_succ_of_lt (kept.timersBelow timer member))
  timersBelow timer member := by
    show timer.id < world.next + 2
    rcases mem_append.mp member with old | new
    · have below := kept.timersBelow timer old
      omega
    · rw [mem_singleton.mp new]
      exact Nat.lt_succ_self _
  pending := nodup_concat kept.pending kept.pendingBelow
  pendingBelow connection member := by
    show connection.id < world.next + 2
    rcases mem_append.mp member with old | new
    · have below := kept.pendingBelow connection old
      omega
    · rw [mem_singleton.mp new]
      show world.next < world.next + 2
      omega
  limboBelow id member := by
    show id < world.next + 2
    have below := kept.limboBelow id member
    omega
  watched := by
    rw [live_watch kept, map_append]
    show (world.timers ++ [_]).filter Timer.connects = _
    rw [filter_append, kept.watched]
    rfl
  writers := by
    rw [live_watch kept, map_append, ← kept.writers]
    rfl

/-- An id that is not used for a timer or a connection. -/
theorem Kept.reserve (kept : Kept limbo world) :
    Kept limbo { world with next := world.next + 1 } :=
  ⟨kept.timers, fun timer member => Nat.lt_succ_of_lt (kept.timersBelow timer member),
    kept.pending, fun connection member => Nat.lt_succ_of_lt (kept.pendingBelow connection member),
    fun id member => Nat.lt_succ_of_lt (kept.limboBelow id member), kept.watched, kept.writers⟩

variable [DecidableEq κ]

theorem mem_pendingIds : id ∈ world.pendingIds limbo key ↔
    ∃ connection ∈ world.live limbo, connection.key = key ∧ connection.id = id := by
  simp [World.pendingIds, and_assoc]

theorem mem_retryIds : id ∈ world.retryIds key ↔
    ∃ timer ∈ world.timers, timer.callback = .retry key ∧ timer.id = id := by
  simp [World.retryIds, and_assoc]

/-- The state of an endpoint is neither a timer nor a connection. -/
theorem Kept.put (kept : Kept limbo world) (key : κ) (info : ConnectionInfo) :
    Kept limbo (world.put key info) :=
  { kept with }

theorem Kept.erase (kept : Kept limbo world) (key : κ) :
    Kept limbo { world with connections := world.connections.erase key } :=
  { kept with }

theorem Kept.scheduleRetry (kept : Kept limbo world) (key : κ) (info : ConnectionInfo)
    (attempts : UInt32) : Kept limbo (world.scheduleRetry key info attempts) where
  timers := nodup_concat kept.timers kept.timersBelow
  timersBelow timer member := by
    rcases mem_append.mp member with old | new
    · exact Nat.lt_succ_of_lt (kept.timersBelow timer old)
    · rw [mem_singleton.mp new]
      exact Nat.lt_succ_self _
  pending := kept.pending
  pendingBelow connection member := Nat.lt_succ_of_lt (kept.pendingBelow connection member)
  limboBelow id member := Nat.lt_succ_of_lt (kept.limboBelow id member)
  watched := by
    show (world.timers ++ [_]).filter Timer.connects = _
    rw [filter_append, kept.watched]
    exact append_nil _
  writers := kept.writers

theorem retryIds_scheduleRetry (world : World κ) (key other : κ) (info : ConnectionInfo)
    (attempts : UInt32) : (world.scheduleRetry key info attempts).retryIds other =
      world.retryIds other ++ if other = key then [world.next] else [] := by
  show ((world.timers ++ [_]).filter _).map Timer.id = _
  by_cases same : other = key
  · subst same
    simp [World.retryIds]
  · simp [World.retryIds, same, Ne.symm same]

theorem Kept.removeTimeout (kept : Kept limbo world) (member : id ∈ world.retryIds key) :
    Kept limbo (world.removeTimeout (some id)) where
  timers := nodup_filter _ kept.timers
  timersBelow timer inside := kept.timersBelow timer (mem_of_mem_filter inside)
  pending := kept.pending
  pendingBelow := kept.pendingBelow
  limboBelow := kept.limboBelow
  watched := by
    have ⟨timer, inside, retries, named⟩ := mem_retryIds.mp member
    show (world.timers.filter _).filter Timer.connects = _
    rw [filter_comm, filter_eq_self.mpr, kept.watched]
    · rfl
    · intro other chosen
      have ⟨held, connects⟩ := mem_filter.mp chosen
      apply decide_eq_true
      intro same
      have equal := eq_of_nodup kept.timers held inside (by rw [named, Option.some.inj same])
      rw [equal, Timer.connects, retries] at connects
      cases connects
  writers := kept.writers

theorem retryIds_removeTimeout (world : World κ) (key : κ) (id : Nat) :
    (world.removeTimeout (some id)).retryIds key = (world.retryIds key).filter (· ≠ id) := by
  show ((world.timers.filter _).filter _).map Timer.id = _
  rw [filter_comm, World.retryIds, filter_map]
  congr 1
  apply filter_congr
  simp

/-- Nothing changes for the endpoints that the timer is not for. -/
theorem retryIds_removeTimeout_other (kept : Kept limbo world) (member : id ∈ world.retryIds key)
    (distinct : other ≠ key) :
    (world.removeTimeout (some id)).retryIds other = world.retryIds other := by
  rw [retryIds_removeTimeout, filter_eq_self]
  intro number inside
  have ⟨timer, held, retries, named⟩ := mem_retryIds.mp member
  have ⟨neighbour, beside, retriesOther, namedOther⟩ := mem_retryIds.mp inside
  apply decide_eq_true
  intro same
  have equal := eq_of_nodup kept.timers held beside (by rw [named, namedOther, same])
  rw [equal, retriesOther] at retries
  exact distinct (TimerCallback.retry.inj retries)

theorem retryIds_unwatch (kept : Kept limbo world) (inside : connection ∈ world.live limbo)
    (key : κ) : (world.unwatch connection).retryIds key = world.retryIds key := by
  show (world.removeTimeout (some connection.timeoutId)).retryIds key = _
  rw [retryIds_removeTimeout, filter_eq_self]
  intro number held
  have ⟨timer, member, retries, named⟩ := mem_retryIds.mp held
  apply decide_eq_true
  intro same
  have equal := eq_of_nodup kept.timers member (kept.timer inside) (named.trans same)
  rw [equal] at retries
  cases retries

theorem pendingIds_unwatch (world : World κ) (connection : PendingConnection κ) (key : κ) :
    (world.unwatch connection).pendingIds (connection.id :: limbo) key =
      (world.pendingIds limbo key).filter (· ≠ connection.id) := by
  show ((world.live (connection.id :: limbo)).filter _).map _ = _
  rw [live_cons, filter_comm, World.pendingIds, filter_map]
  rfl

theorem pendingIds_unwatch_other (kept : Kept limbo world) (inside : connection ∈ world.live limbo)
    (distinct : key ≠ connection.key) :
    (world.unwatch connection).pendingIds (connection.id :: limbo) key =
      world.pendingIds limbo key := by
  rw [pendingIds_unwatch, filter_eq_self]
  intro number held
  have ⟨neighbour, member, keyed, named⟩ := mem_pendingIds.mp held
  apply decide_eq_true
  intro same
  rw [eq_of_nodup kept.nodup_live member inside (named.trans same)] at keyed
  exact distinct keyed.symm

theorem pendingIds_forget (world : World κ) (id : Nat) (key : κ) :
    (world.forget id).pendingIds limbo key = world.pendingIds (id :: limbo) key := by
  rw [World.pendingIds, live_forget, World.pendingIds]

theorem pendingIds_watch (kept : Kept limbo world) (key other : κ) :
    (world.watch key).pendingIds limbo other =
      world.pendingIds limbo other ++ if other = key then [world.next] else [] := by
  rw [World.pendingIds, live_watch kept, filter_append, map_append]
  by_cases same : other = key
  · subst same
    simp [World.pendingIds]
  · simp [World.pendingIds, same, Ne.symm same]

theorem retryIds_watch (world : World κ) (key other : κ) :
    (world.watch key).retryIds other = world.retryIds other := by
  show ((world.timers ++ [_]).filter _).map Timer.id = _
  simp [World.retryIds]

end Watching

end OpenLighting.TcpConnector
