import OpenLighting.ArtNetMerging

/- Runs of an output port: what it shows after each ArtDmx packet, and what it reports. -/
namespace OpenLighting.ArtNet

open OpenLighting.Network SlotMaximum TransitionSystem List

/-- The addresses that a packet can come from. -/
abbrev SourceAddress : Type := { address : IPV4Address // address ≠ wildcard }

/-- A port, the time and the latest accepted packet from each address. -/
structure Watched where
  port : OutputPort
  now : Int
  last : IPV4Address → Option DMXSource

/-- A packet for the port after some microseconds, a change of its merge mode, and an ArtPollReply
after some microseconds. -/
inductive PortEvent where
  | packet (elapsed : Nat) (address : SourceAddress) (length : UInt16) (data : List UInt8)
  | setMergeMode (mode : MergeMode)
  | pollReply (elapsed : Nat)

namespace Watched

def packetFor (port : OutputPort) (length : UInt16) (data : List UInt8) : DmxPacket :=
  ⟨artnetVersion, 0, port.universeAddress, length, data⟩

/-- The port after a packet, and whether `on_data` was run. -/
def received (watched : Watched) (elapsed : Nat) (address : SourceAddress) (length : UInt16)
    (data : List UInt8) : OutputPort × Bool :=
  ArtNetNode.receive (watched.now + elapsed) address.val (packetFor watched.port length data)
    watched.port

/-- What the port is to track of a packet. -/
def sourceOf (watched : Watched) (elapsed : Nat) (address : SourceAddress) (length : UInt16)
    (data : List UInt8) : DMXSource :=
  ⟨(packetFor watched.port length data).buffer, watched.now + elapsed, address.val⟩

def step (watched : Watched) : PortEvent → Watched
  | .packet elapsed address length data =>
    let (port, ran) := watched.received elapsed address length data
    { port := port
      now := watched.now + elapsed
      last :=
        if ran then
          Function.update watched.last address.val
            (some (watched.sourceOf elapsed address length data))
        else watched.last }
  | .setMergeMode mode => { watched with port := { watched.port with mergeMode := mode } }
  | .pollReply elapsed => { watched with now := watched.now + elapsed }

/-- An enabled port with a handler that has not had a packet yet. -/
def initial (universeAddress : UInt8) (mode : MergeMode) (buffer : DmxBuffer) (now : Int) :
    Watched :=
  { port := { OutputPort.initial with
      universeAddress := universeAddress
      enabled := true
      mergeMode := mode
      buffer := some buffer
      onData := true }
    now := now
    last := fun _ => none }

/-- The tracked sources that are heard from within the timeout. -/
def live (watched : Watched) : List DMXSource :=
  (tracked watched.port.sources).filter
    (fun slot => watched.now - mergeTimeout ≤ slot.timestamp)

/-- The rows that the port is to show the maximum of: the data of the packet, and the latest data
of every other source that it tracks and that was heard from within the timeout. -/
def rows (watched : Watched) (source : DMXSource) (next : Watched) : Set (List UInt8) :=
  {row | row = source.buffer.slots ∨ ∃ other ∈ tracked next.port.sources,
    other.address ≠ source.address ∧ ∃ latest, watched.last other.address = some latest ∧
      next.now - mergeTimeout ≤ latest.timestamp ∧ row = latest.buffer.slots}

/-- What the port shows after an accepted packet. -/
def Shows (watched : Watched) (source : DMXSource) (next : Watched) : Prop :=
  match watched.port.mergeMode with
  | .ltp => next.port.buffer = some source.buffer
  | .htp => ∃ buffer, next.port.buffer = some buffer ∧
      IsMaximum (watched.rows source next) buffer.slots

/-- What an event is to lead to. -/
structure Merges (watched : Watched) (event : PortEvent) : Prop where
  shows : ∀ elapsed address length data, event = .packet elapsed address length data →
    (watched.received elapsed address length data).2 = true →
      watched.Shows (watched.sourceOf elapsed address length data) (watched.step event)
  rejects : ∀ elapsed address length data, event = .packet elapsed address length data →
    (watched.received elapsed address length data).2 = false →
      maxMergeSources ≤ (others watched.port (watched.now + elapsed) address.val).length
  tracks : Distinct (watched.step event).port.sources ∧
    (tracked (watched.step event).port.sources).length ≤ maxMergeSources
  reports : (watched.step event).port.isMerging = true ↔ 2 ≤ (watched.step event).live.length

/-- A packet from a tracked source comes only if no other source is tracked, and the port only
reports that it merges as long as both sources are heard from. -/
def Alone (watched : Watched) : PortEvent → Prop
  | .packet _ address _ _ =>
    Tracks watched.port address.val →
      ∀ slot ∈ tracked watched.port.sources, slot.address = address.val
  | .setMergeMode _ => True
  | .pollReply elapsed =>
    2 ≤ (tracked watched.port.sources).length →
      ∀ slot ∈ tracked watched.port.sources,
        watched.now + elapsed - mergeTimeout ≤ slot.timestamp

/-- What is known between events: the slots have the latest packets, and the flag tells how many
they are, all of which are heard from if there are two. -/
structure Steady (watched : Watched) : Prop where
  listens : watched.port.enabled = true ∧ watched.port.onData = true ∧
    ∃ buffer, watched.port.buffer = some buffer
  distinct : Distinct watched.port.sources
  latest : ∀ slot ∈ tracked watched.port.sources, watched.last slot.address = some slot
  merging : watched.port.isMerging = true ↔ 2 ≤ (tracked watched.port.sources).length
  heard : 2 ≤ (tracked watched.port.sources).length →
    ∀ slot ∈ tracked watched.port.sources, watched.now - mergeTimeout ≤ slot.timestamp

section Steps

variable {watched : Watched}

theorem steady_initial (universeAddress : UInt8) (mode : MergeMode) (buffer : DmxBuffer)
    (now : Int) : (initial universeAddress mode buffer now).Steady := by
  refine ⟨⟨rfl, rfl, buffer, rfl⟩, nodup_nil, ?_, ?_, ?_⟩
  · exact fun slot member => absurd member not_mem_nil
  · exact ⟨fun merging => Bool.noConfusion merging, fun two => absurd two (show ¬ 2 ≤ 0 by decide)⟩
  · exact fun _ slot member => absurd member not_mem_nil

theorem live_of_heard
    (heard : ∀ slot ∈ tracked watched.port.sources, watched.now - mergeTimeout ≤ slot.timestamp) :
    watched.live = tracked watched.port.sources :=
  filter_eq_self.mpr (fun slot member => by simpa using heard slot member)

theorem length_tracked_le (port : OutputPort) :
    (tracked port.sources).length ≤ maxMergeSources := by
  have most : (tracked port.sources).length ≤ port.sources.length := length_filter_le _ _
  rwa [port.full] at most

/-- The flag is right as long as nothing has timed out. -/
theorem Steady.reports (steady : watched.Steady) :
    watched.port.isMerging = true ↔ 2 ≤ watched.live.length := by
  rw [steady.merging]
  constructor
  · intro two
    rw [live_of_heard (steady.heard two)]
    exact two
  · exact fun two => Nat.le_trans two (length_filter_le _ _)

/-- A packet for the port is handed on. -/
theorem Steady.received_eq (steady : watched.Steady) (elapsed : Nat) (address : SourceAddress)
    (length : UInt16) (data : List UInt8) :
    ∃ buffer, watched.port.buffer = some buffer ∧
      watched.received elapsed address length data =
        watched.port.updatePortFromSource (watched.now + elapsed) buffer
          (watched.sourceOf elapsed address length data) := by
  obtain ⟨enabled, runs, buffer, shown⟩ := steady.listens
  refine ⟨buffer, shown, ?_⟩
  unfold received ArtNetNode.receive
  rw [shown]
  dsimp only
  rw [if_pos ⟨enabled, rfl, runs⟩]
  rfl

section Packets

variable {elapsed : Nat} {address : SourceAddress} {length : UInt16} {data : List UInt8}

/-- A packet is accepted, or two others are heard from. -/
theorem Steady.packet_cases (steady : watched.Steady) (elapsed : Nat) (address : SourceAddress)
    (length : UInt16) (data : List UInt8) :
    (∃ buffer, (watched.received elapsed address length data).2 = true ∧
        Accepted watched.port (watched.received elapsed address length data).1
          (watched.now + elapsed) buffer (watched.sourceOf elapsed address length data)) ∨
      (watched.received elapsed address length data = (watched.port, false) ∧
        ¬ Tracks watched.port address.val ∧
        (others watched.port (watched.now + elapsed) address.val).length = maxMergeSources) := by
  obtain ⟨buffer, -, eq⟩ := steady.received_eq elapsed address length data
  rw [eq]
  rcases @updatePortFromSource_cases watched.port (watched.sourceOf elapsed address length data)
    steady.distinct address.property (watched.now + elapsed) buffer with accepted | rejected
  · exact Or.inl ⟨buffer, accepted⟩
  · exact Or.inr rejected

theorem step_accepted (ran : (watched.received elapsed address length data).2 = true) :
    watched.step (.packet elapsed address length data) =
      ⟨(watched.received elapsed address length data).1, watched.now + elapsed,
        Function.update watched.last address.val
          (some (watched.sourceOf elapsed address length data))⟩ := by
  show (⟨_, _, if (watched.received elapsed address length data).2 = true then _ else _⟩ :
    Watched) = _
  rw [if_pos ran]
  rfl

theorem step_rejected
    (same : watched.received elapsed address length data = (watched.port, false)) :
    watched.step (.packet elapsed address length data) =
      { watched with now := watched.now + elapsed } := by
  show (⟨(watched.received elapsed address length data).1, _,
    if (watched.received elapsed address length data).2 = true then _ else _⟩ : Watched) = _
  rw [same]
  rfl

variable {buffer : DmxBuffer}

theorem live_accepted (accepted : Accepted watched.port
      (watched.received elapsed address length data).1 (watched.now + elapsed) buffer
        (watched.sourceOf elapsed address length data)) :
    (∀ slot ∈ tracked (watched.step (.packet elapsed address length data)).port.sources,
        (watched.step (.packet elapsed address length data)).now - mergeTimeout ≤
          slot.timestamp) ∧
      (tracked (watched.step (.packet elapsed address length data)).port.sources).length =
        (others watched.port (watched.now + elapsed) address.val).length + 1 := by
  refine ⟨fun slot member => ?_, accepted.sources.length_eq⟩
  have inside := accepted.sources.mem_iff.mp member
  rcases mem_cons.mp inside with own | other
  · rw [own]
    show watched.now + elapsed - mergeTimeout ≤ watched.now + elapsed
    unfold mergeTimeout
    omega
  · exact (mem_others.mp other).2.2

section
variable (steady : watched.Steady) (ran : (watched.received elapsed address length data).2 = true)
  (accepted : Accepted watched.port (watched.received elapsed address length data).1
    (watched.now + elapsed) buffer (watched.sourceOf elapsed address length data))
include steady ran accepted

theorem Steady.shows :
    watched.Shows (watched.sourceOf elapsed address length data)
      (watched.step (.packet elapsed address length data)) := by
  have mode := accepted.same.2.2.1
  have shown := accepted.shown
  unfold Shows
  unfold OutputPort.merge at shown
  rw [mode] at shown
  rw [step_accepted ran]
  cases which : watched.port.mergeMode with
  | ltp =>
    rw [which] at shown
    exact shown
  | htp =>
    rw [which] at shown
    refine ⟨_, shown, ?_⟩
    have own : watched.sourceOf elapsed address length data ∈
        tracked (watched.received elapsed address length data).1.sources :=
      accepted.sources.mem_iff.mpr mem_cons_self
    have maximum := htpMerge_maximum buffer (ne_nil_of_mem own)
    convert maximum using 1
    ext row
    constructor
    · rintro (mine | ⟨other, member, differs, latest, last, -, theirs⟩)
      · exact ⟨_, own, mine⟩
      · rcases mem_cons.mp (accepted.sources.mem_iff.mp member) with same | beside
        · exact absurd (congrArg DMXSource.address same) differs
        · have known := steady.latest other (mem_others.mp beside).1
          rw [known] at last
          cases last
          exact ⟨other, member, theirs⟩
    · rintro ⟨other, member, theirs⟩
      rcases mem_cons.mp (accepted.sources.mem_iff.mp member) with same | beside
      · exact Or.inl (theirs.trans (congrArg (fun source => source.buffer.slots) same))
      · have inside := mem_others.mp beside
        exact Or.inr ⟨other, member, inside.2.1, other, steady.latest other inside.1,
          inside.2.2, theirs⟩

theorem Steady.latest_accepted :
    ∀ slot ∈ tracked (watched.step (.packet elapsed address length data)).port.sources,
      (watched.step (.packet elapsed address length data)).last slot.address = some slot := by
  rw [step_accepted ran]
  intro slot member
  rcases mem_cons.mp (accepted.sources.mem_iff.mp member) with own | other
  · rw [own]
    exact Function.update_self address.val _ watched.last
  · have inside := mem_others.mp other
    have differs : slot.address ≠ address.val := inside.2.1
    show Function.update watched.last address.val _ slot.address = some slot
    rw [Function.update_of_ne differs]
    exact steady.latest slot inside.1

end

/-- If its source is the only one that is tracked, there are no others. -/
theorem others_of_alone
    (alone : ∀ slot ∈ tracked watched.port.sources, slot.address = address.val) (now : Int) :
    others watched.port now address.val = [] := by
  apply eq_nil_iff_forall_not_mem.mpr
  intro slot member
  have inside := mem_others.mp member
  exact inside.2.1 (alone slot inside.1)

/-- A tracked source is the only one exactly if there are not two. -/
theorem alone_iff (distinct : Distinct watched.port.sources)
    (known : Tracks watched.port address.val) :
    (∀ slot ∈ tracked watched.port.sources, slot.address = address.val) ↔
      ¬ 2 ≤ (tracked watched.port.sources).length := by
  constructor
  · intro alone two
    unfold Distinct at distinct
    match shape : tracked watched.port.sources, two with
    | first :: second :: rest, _ =>
      rw [shape] at distinct alone
      have one := alone first mem_cons_self
      have other := alone second (mem_cons_of_mem _ mem_cons_self)
      rw [map_cons, map_cons, nodup_cons] at distinct
      exact distinct.1 (by rw [one, other]; exact mem_cons_self)
    | [_], two => exact absurd two (show ¬ 2 ≤ 1 by decide)
    | [], two => exact absurd two (show ¬ 2 ≤ 0 by decide)
  · intro few slot member
    obtain ⟨own, inside, same⟩ := known
    have real : own ∈ tracked watched.port.sources :=
      mem_tracked.mpr ⟨inside, by rw [same]; exact address.property⟩
    match shape : tracked watched.port.sources, few with
    | [only], _ =>
      rw [shape] at member real
      rw [mem_singleton.mp member, ← mem_singleton.mp real, same]
    | [], _ =>
      rw [shape] at real
      exact absurd real not_mem_nil
    | _ :: _ :: _, few => exact absurd (Nat.le_add_left 2 _) few

/-- The flag after an accepted packet is right exactly if the source was new or the only one. -/
theorem Steady.merging_accepted (steady : watched.Steady)
    (accepted : Accepted watched.port (watched.received elapsed address length data).1
      (watched.now + elapsed) buffer (watched.sourceOf elapsed address length data)) :
    ((watched.received elapsed address length data).1.isMerging = true ↔
        2 ≤ (others watched.port (watched.now + elapsed) address.val).length + 1) ↔
      watched.Alone (.packet elapsed address length data) := by
  have room : (others watched.port (watched.now + elapsed) address.val).length < 2 := accepted.room
  by_cases known : Tracks watched.port address.val
  · have merging : (watched.received elapsed address length data).1.isMerging =
        if (others watched.port (watched.now + elapsed) address.val).length = 1 then false
        else watched.port.isMerging := accepted.merging.1 known
    have alone : watched.Alone (.packet elapsed address length data) ↔
        ¬ 2 ≤ (tracked watched.port.sources).length :=
      ⟨fun alone => (alone_iff steady.distinct known).mp (alone known),
        fun few _ => (alone_iff steady.distinct known).mpr few⟩
    by_cases one : (others watched.port (watched.now + elapsed) address.val).length = 1
    · -- the flag is cleared while the other source is heard from
      rw [merging, if_pos one, one]
      constructor
      · intro right
        exact Bool.noConfusion (right.mpr (Nat.le_refl 2))
      · intro only
        rw [others_of_alone (only known)] at one
        exact absurd one (by decide)
    · -- the flag is left as it is, although the other source has timed out
      rw [merging, if_neg one, steady.merging, alone]
      omega
  · have merging := accepted.merging.2 known
    rw [merging, decide_eq_true_iff]
    constructor
    · exact fun _ tracks => absurd tracks known
    · intro _
      show (others watched.port (watched.now + elapsed) address.val).length ≠ 0 ↔ _
      omega

theorem heard_of_rejected
    (full : (others watched.port (watched.now + elapsed) address.val).length = maxMergeSources) :
    ∀ slot ∈ tracked watched.port.sources,
      watched.now + elapsed - mergeTimeout ≤ slot.timestamp := by
  have part : (others watched.port (watched.now + elapsed) address.val).Sublist
      (tracked watched.port.sources) := filter_sublist
  have all := part.eq_of_length_le (by rw [full]; exact length_tracked_le watched.port)
  intro slot member
  rw [← all] at member
  exact (mem_others.mp member).2.2

/-- A packet leads to what it should exactly if it meets the condition. -/
theorem Steady.packet (steady : watched.Steady) (elapsed : Nat) (address : SourceAddress)
    (length : UInt16) (data : List UInt8) :
    (watched.Merges (.packet elapsed address length data) ↔
        watched.Alone (.packet elapsed address length data)) ∧
      (watched.Alone (.packet elapsed address length data) →
        (watched.step (.packet elapsed address length data)).Steady) := by
  rcases steady.packet_cases elapsed address length data with
    ⟨buffer, ran, accepted⟩ | ⟨same, unknown, full⟩
  · have live := live_accepted accepted
    have flag := steady.merging_accepted accepted
    have count := live_of_heard live.1
    have port : (watched.step (.packet elapsed address length data)).port =
        (watched.received elapsed address length data).1 := by rw [step_accepted ran]
    have distinct : Distinct (watched.step (.packet elapsed address length data)).port.sources := by
      exact accepted.distinct steady.distinct
    constructor
    · constructor
      · intro merges
        have reports := merges.reports
        rw [count, live.2, port] at reports
        exact flag.mp reports
      · intro alone
        refine ⟨?_, ?_, ⟨distinct, length_tracked_le _⟩, ?_⟩
        · intro _ _ _ _ event _
          cases event
          exact steady.shows ran accepted
        · intro _ _ _ _ event rejected
          cases event
          exact absurd (ran.symm.trans rejected) Bool.noConfusion
        · rw [count, live.2, port]
          exact flag.mpr alone
    · intro alone
      refine ⟨?_, distinct, steady.latest_accepted ran accepted, ?_, fun _ => live.1⟩
      · rw [port]
        exact ⟨accepted.same.2.1.trans steady.listens.1,
          accepted.same.2.2.2.trans steady.listens.2.1, _, accepted.shown⟩
      · rw [live.2, port]
        exact flag.mpr alone
  · have heard := heard_of_rejected full
    have next : (watched.step (.packet elapsed address length data)).Steady := by
      rw [step_rejected same]
      exact { steady with heard := fun _ => heard }
    have alone : watched.Alone (.packet elapsed address length data) :=
      fun tracks => absurd tracks unknown
    refine ⟨⟨fun _ => alone, fun _ => ?_⟩, fun _ => next⟩
    refine ⟨?_, ?_, ⟨next.distinct, length_tracked_le _⟩, next.reports⟩
    · intro _ _ _ _ event ran
      cases event
      rw [same] at ran
      cases ran
    · intro _ _ _ _ event _
      cases event
      omega

end Packets

/-- An event without a packet only has its report to get right. -/
theorem merges_of_steady {event : PortEvent} (next : (watched.step event).Steady)
    (other : ∀ elapsed address length data, event ≠ .packet elapsed address length data) :
    watched.Merges event :=
  ⟨fun elapsed address length data same => absurd same (other elapsed address length data),
    fun elapsed address length data same => absurd same (other elapsed address length data),
    ⟨next.distinct, length_tracked_le _⟩, next.reports⟩

theorem Steady.pollReply (steady : watched.Steady) (elapsed : Nat) :
    (watched.Merges (.pollReply elapsed) ↔ watched.Alone (.pollReply elapsed)) ∧
      (watched.Alone (.pollReply elapsed) → (watched.step (.pollReply elapsed)).Steady) := by
  have next : watched.Alone (.pollReply elapsed) →
      (watched.step (.pollReply elapsed)).Steady := fun heard =>
    { steady with heard := heard }
  refine ⟨⟨fun merges two => ?_, fun heard => ?_⟩, next⟩
  · have reported := merges.reports.mp (steady.merging.mpr two)
    have part : (watched.step (.pollReply elapsed)).live.Sublist
        (tracked watched.port.sources) := filter_sublist
    have all := part.eq_of_length_le (Nat.le_trans (length_tracked_le watched.port) reported)
    intro slot member
    rw [← all] at member
    exact of_decide_eq_true (mem_filter.mp member).2
  · exact merges_of_steady (next heard) (fun _ _ _ _ same => PortEvent.noConfusion same)

theorem Steady.step (steady : watched.Steady) (event : PortEvent) :
    (watched.Merges event ↔ watched.Alone event) ∧
      (watched.Alone event → (watched.step event).Steady) := by
  cases event with
  | packet elapsed address length data => exact steady.packet elapsed address length data
  | setMergeMode mode =>
    have next : (watched.step (.setMergeMode mode)).Steady :=
      { steady with }
    have merges := merges_of_steady next (fun _ _ _ _ same => PortEvent.noConfusion same)
    exact ⟨⟨fun _ => trivial, fun _ => merges⟩, fun _ => next⟩
  | pollReply elapsed => exact steady.pollReply elapsed

end Steps

/-- In a run every packet and every report is right exactly if each event meets the condition:
known sources are alone, and the port does not merge with one that is not heard from. -/
theorem merges_iff_alone (universeAddress : UInt8) (mode : MergeMode) (buffer : DmxBuffer)
    (now : Int) (events : List PortEvent) :
    (∀ past event future, events = past ++ event :: future →
        (run step (initial universeAddress mode buffer now) past).Merges event) ↔
      Permitted step Alone (initial universeAddress mode buffer now) events :=
  steps_iff_permitted (fun _ event steady alone => (steady.step event).2 alone)
    (fun _ event steady => (steady.step event).1)
    (steady_initial universeAddress mode buffer now)

/-- The second packet of one of two sources ends the merge mode. -/
theorem merging_lost :
    ∃ past event, ¬ (run step (initial 0 .htp .new 0) past).Merges event ∧
      (run step (initial 0 .htp .new 0) past).live.length = 2 := by
  let first : SourceAddress := ⟨⟨10, 0, 0, 1⟩, by decide⟩
  let second : SourceAddress := ⟨⟨10, 0, 0, 2⟩, by decide⟩
  refine ⟨[.packet 0 first 2 [1, 2], .packet 1000 second 2 [3, 4]],
    .packet 1000 first 2 [5, 6], fun merges => ?_, by decide +kernel⟩
  have reports := merges.reports
  exact absurd reports (by decide +kernel)

end Watched

end OpenLighting.ArtNet
