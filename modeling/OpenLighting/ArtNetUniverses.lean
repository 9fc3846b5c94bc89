import OpenLighting.ArtNetMerging

/- Output ports that change their addresses: which packets their data depends on. -/
namespace OpenLighting.ArtNet

open OpenLighting.Network SlotMaximum TransitionSystem

/-- What changes the addresses of a node, and an ArtDmx packet after some microseconds. -/
inductive NodeEvent where
  | setOutputPortUniverse (portId : Fin artnetMaxPorts) (universeId : UInt8)
  | setSubnetAddress (subnetAddress : UInt8)
  | setNetAddress (netAddress : UInt8)
  | disableOutputPort (portId : Fin artnetMaxPorts)
  | packet (elapsed : Nat) (address : IPV4Address) (packet : DmxPacket)

/-- A node, the time and the packets that each port got since it last took its address. -/
structure Traced where
  node : ArtNetNode
  now : Int
  since : Fin artnetMaxPorts → List DMXSource

/-- A port that has the address that it had, and was not disabled before. -/
def KeepsAddress (node next : ArtNetNode) (portId : Fin artnetMaxPorts) : Prop :=
  next.netAddress = node.netAddress ∧
    (next.outputPorts portId).universeAddress = (node.outputPorts portId).universeAddress ∧
    ((next.outputPorts portId).enabled = true → (node.outputPorts portId).enabled = true)

instance (node next : ArtNetNode) (portId : Fin artnetMaxPorts) :
    Decidable (KeepsAddress node next portId) := inferInstanceAs (Decidable (_ ∧ _ ∧ (_ → _)))

variable (node : ArtNetNode)

/-- A packet is for a port, and the port has a handler. -/
def Hears (packet : DmxPacket) (portId : Fin artnetMaxPorts) : Prop :=
  node.accepts packet = true ∧ (node.outputPorts portId).enabled = true ∧
    (node.outputPorts portId).universeAddress = packet.universeId ∧
    (node.outputPorts portId).onData = true ∧ (node.outputPorts portId).buffer.isSome = true

instance (node : ArtNetNode) (packet : DmxPacket) (portId : Fin artnetMaxPorts) :
    Decidable (Hears node packet portId) := inferInstanceAs (Decidable (_ ∧ _))

variable (packets : List DMXSource)

namespace Traced

/-- A node with disabled ports that have these merge modes and, if any, these buffers. -/
def initial (inputPorts : List UInt8) (modes : Fin artnetMaxPorts → MergeMode)
    (buffers : Fin artnetMaxPorts → Option DmxBuffer) (now : Int) : Traced where
  node :=
    { netAddress := 0
      inputPorts := inputPorts
      outputPorts := fun portId => { OutputPort.initial with
        mergeMode := modes portId
        buffer := buffers portId
        onData := (buffers portId).isSome } }
  now := now
  since := fun _ => []

/-- The addresses are changed. -/
def configured (traced : Traced) (next : ArtNetNode) : Traced where
  node := next
  now := traced.now
  since := fun portId => if KeepsAddress traced.node next portId then traced.since portId else []

/-- The ports whose `on_data` an event runs. -/
def ran (traced : Traced) : NodeEvent → Fin artnetMaxPorts → Bool
  | .packet elapsed address packet =>
    (traced.node.handleDataPacket (traced.now + elapsed) address packet).2
  | _ => fun _ => false

def step (traced : Traced) : NodeEvent → Traced
  | .setOutputPortUniverse portId universeId =>
    traced.configured (traced.node.setOutputPortUniverse portId universeId)
  | .setSubnetAddress subnetAddress =>
    traced.configured (traced.node.setSubnetAddress subnetAddress)
  | .setNetAddress netAddress => traced.configured (traced.node.setNetAddress netAddress)
  | .disableOutputPort portId => traced.configured (traced.node.disableOutputPort portId)
  | .packet elapsed address packet =>
    { node := (traced.node.handleDataPacket (traced.now + elapsed) address packet).1
      now := traced.now + elapsed
      since := fun portId =>
        if Hears traced.node packet portId then
          traced.since portId ++ [⟨packet.buffer, traced.now + elapsed, address⟩]
        else traced.since portId }

/-- A new port that gets these packets and no others. -/
def replay : OutputPort :=
  packets.foldl (fun port source =>
    (port.updatePortFromSource source.timestamp (port.buffer.getD .new) source).1) .initial

/-- What a port is to show that got these packets since it took its address. -/
def expected (mode : MergeMode) (packets : List DMXSource) : Option DmxBuffer :=
  match mode with
  | .ltp => packets.getLast?.map DMXSource.buffer
  | .htp => (replay packets).buffer

/-- A packet for an HTP port has a source address, and all other sources that the port would
merge have sent a packet since the port took its address. -/
def Unmixed (traced : Traced) : NodeEvent → Prop
  | .packet elapsed address packet =>
    ∀ portId, Hears traced.node packet portId →
      (traced.node.outputPorts portId).mergeMode = .htp →
        address ≠ wildcard ∧
          ∀ slot ∈ others (traced.node.outputPorts portId) (traced.now + elapsed) address,
            slot.address ∈ (traced.since portId).map DMXSource.address
  | _ => True

section Mirroring

/-- The sources of a port that have sent a packet since it took its address are those of the new
port that gets these packets. -/
structure Mirrors (port : OutputPort) (packets : List DMXSource) : Prop where
  distinct : Distinct port.sources
  replayed : Distinct (replay packets).sources
  same : ((tracked port.sources).filter
      (fun slot => slot.address ∈ packets.map DMXSource.address)).Perm
    (tracked (replay packets).sources)

/-- Nothing that came before a port took its address counts any more. -/
theorem mirrors_nil {port : OutputPort} (distinct : Distinct port.sources) : Mirrors port [] := by
  refine ⟨distinct, List.nodup_nil, ?_⟩
  rw [show (tracked port.sources).filter
    (fun slot => slot.address ∈ ([] : List DMXSource).map DMXSource.address) = [] from by simp]
  exact List.Perm.refl _

theorem replay_concat (source : DMXSource) : replay (packets ++ [source]) =
      ((replay packets).updatePortFromSource source.timestamp
        ((replay packets).buffer.getD .new) source).1 :=
  List.foldl_concat ..

variable {port : OutputPort} {packets : List DMXSource} {source : DMXSource}

/-- The others of the port and of the new one are the same. -/
theorem Mirrors.others (mirrors : Mirrors port packets) {now : Int} {address : IPV4Address}
    (unmixed : ∀ slot ∈ ArtNet.others port now address,
      slot.address ∈ packets.map DMXSource.address) :
    (ArtNet.others port now address).Perm (ArtNet.others (replay packets) now address) := by
  have fresh : ArtNet.others port now address =
      ((tracked port.sources).filter
        (fun slot => slot.address ∈ packets.map DMXSource.address)).filter
          (fun slot => slot.address ≠ address ∧ now - mergeTimeout ≤ slot.timestamp) := by
    rw [List.filter_comm]
    exact (List.filter_eq_self.mpr (fun slot member => by simpa using unmixed slot member)).symm
  rw [fresh]
  exact mirrors.same.filter _

theorem settings_update (port : OutputPort) (now : Int) (buffer : DmxBuffer) (source : DMXSource) :
    (port.updatePortFromSource now buffer source).1.mergeMode = port.mergeMode ∧
      (port.updatePortFromSource now buffer source).1.universeAddress = port.universeAddress ∧
      (port.updatePortFromSource now buffer source).1.enabled = port.enabled := by
  unfold OutputPort.updatePortFromSource
  dsimp only
  split
  · split
    · exact ⟨rfl, rfl, rfl⟩
    · exact ⟨rfl, rfl, rfl⟩
  · exact ⟨rfl, rfl, rfl⟩

theorem mergeMode_replay : (replay packets).mergeMode = .htp := by
  induction packets using List.reverseRecOn with
  | nil => rfl
  | append_singleton packets source ih =>
    rw [replay_concat]
    exact (settings_update _ _ _ _).1.trans ih

/-- A packet that both ports accept is merged with the same data. -/
theorem Mirrors.accepted {next : OutputPort} {buffer : DmxBuffer}
    (mirrors : Mirrors port packets)
    (unmixed : ∀ slot ∈ ArtNet.others port source.timestamp source.address,
      slot.address ∈ packets.map DMXSource.address)
    (accepted : Accepted port next source.timestamp buffer source)
    (replayed : Accepted (replay packets) (replay (packets ++ [source])) source.timestamp
      ((replay packets).buffer.getD .new) source) :
    Mirrors next (packets ++ [source]) ∧
      (port.mergeMode = .htp → next.buffer.map DmxBuffer.slots =
        (replay (packets ++ [source])).buffer.map DmxBuffer.slots) := by
  have others := mirrors.others unmixed
  have all : (tracked next.sources).Perm (tracked (replay (packets ++ [source])).sources) :=
    accepted.sources.trans ((others.cons source).trans replayed.sources.symm)
  have fresh : (tracked next.sources).filter
      (fun slot => slot.address ∈ (packets ++ [source]).map DMXSource.address) =
        tracked next.sources := by
    apply List.filter_eq_self.mpr
    intro slot member
    rw [decide_eq_true_iff, List.map_append]
    rcases List.mem_cons.mp (accepted.sources.mem_iff.mp member) with own | other
    · rw [own]
      exact List.mem_append_right _ List.mem_cons_self
    · exact List.mem_append_left _ (unmixed slot other)
  refine ⟨⟨accepted.distinct mirrors.distinct, replayed.distinct mirrors.replayed, ?_⟩, ?_⟩
  · rw [fresh]
    exact all
  · intro mode
    have own : tracked next.sources ≠ [] :=
      List.ne_nil_of_mem (accepted.sources.mem_iff.mpr List.mem_cons_self)
    have own_replayed : tracked (replay (packets ++ [source])).sources ≠ [] :=
      List.ne_nil_of_mem (replayed.sources.mem_iff.mpr List.mem_cons_self)
    have shown := accepted.shown
    have shown_replayed := replayed.shown
    unfold OutputPort.merge at shown shown_replayed
    rw [accepted.same.2.2.1, mode] at shown
    rw [mergeMode_replay] at shown_replayed
    rw [shown, shown_replayed, Option.map_some, Option.map_some, Option.some_inj]
    have maximum := htpMerge_maximum buffer own
    have maximum_replayed := htpMerge_maximum ((replay packets).buffer.getD .new) own_replayed
    simp only [all.mem_iff] at maximum
    exact maximum.unique maximum_replayed

/-- A packet that the port rejects changes nothing that it shares with the new one. -/
theorem Mirrors.rejected (mirrors : Mirrors port packets)
    (unknown : ¬ Tracks port source.address)
    (same : replay (packets ++ [source]) = replay packets) :
    Mirrors port (packets ++ [source]) := by
  refine ⟨mirrors.distinct, by rw [same]; exact mirrors.replayed, ?_⟩
  have fresh : (tracked port.sources).filter
      (fun slot => slot.address ∈ (packets ++ [source]).map DMXSource.address) =
        (tracked port.sources).filter
          (fun slot => slot.address ∈ packets.map DMXSource.address) := by
    apply List.filter_congr
    intro slot member
    have other : slot.address ≠ source.address :=
      fun own => unknown ⟨slot, (mem_tracked.mp member).1, own⟩
    simp [other]
  rw [same, fresh]
  exact mirrors.same

/-- A packet is accepted by both ports or by none. -/
theorem Mirrors.update (mirrors : Mirrors port packets) (real : source.address ≠ wildcard)
    (unmixed : ∀ slot ∈ ArtNet.others port source.timestamp source.address,
      slot.address ∈ packets.map DMXSource.address) (buffer : DmxBuffer) :
    Mirrors (port.updatePortFromSource source.timestamp buffer source).1 (packets ++ [source]) ∧
      ((port.updatePortFromSource source.timestamp buffer source).2 = true →
        port.mergeMode = .htp →
        (port.updatePortFromSource source.timestamp buffer source).1.buffer.map DmxBuffer.slots =
          (replay (packets ++ [source])).buffer.map DmxBuffer.slots) := by
  have count := (mirrors.others unmixed).length_eq
  have replay_eq := replay_concat packets source
  rcases updatePortFromSource_cases mirrors.distinct real source.timestamp buffer with
    ⟨-, accepted⟩ | ⟨same, unknown, full⟩
  · rcases updatePortFromSource_cases mirrors.replayed real source.timestamp
      ((replay packets).buffer.getD .new) with ⟨-, replayed⟩ | ⟨-, -, full⟩
    · rw [← replay_eq] at replayed
      have both := mirrors.accepted unmixed accepted replayed
      exact ⟨both.1, fun _ => both.2⟩
    · have room := accepted.room
      omega
  · rcases updatePortFromSource_cases mirrors.replayed real source.timestamp
      ((replay packets).buffer.getD .new) with ⟨-, replayed⟩ | ⟨kept, -, -⟩
    · have room := replayed.room
      omega
    · rw [kept] at replay_eq
      rw [same]
      exact ⟨mirrors.rejected unknown replay_eq, fun ran => Bool.noConfusion ran⟩

theorem shown_ltp {now : Int} {buffer : DmxBuffer} (mode : port.mergeMode = .ltp)
    (ran : (port.updatePortFromSource now buffer source).2 = true) :
    (port.updatePortFromSource now buffer source).1.buffer = some source.buffer := by
  unfold OutputPort.updatePortFromSource OutputPort.merge at *
  dsimp only at *
  split
  · rename_i unknown
    rw [if_pos unknown] at ran
    split
    · rename_i full
      rw [if_pos full] at ran
      cases ran
    · rw [mode]
  · rw [mode]

end Mirroring

section Steps

variable {traced : Traced}

theorem handleDataPacket_port (now : Int) (address : IPV4Address)
    (packet : DmxPacket) (portId : Fin artnetMaxPorts) :
    (Hears node packet portId → ∃ buffer,
      ((node.handleDataPacket now address packet).1.outputPorts portId,
          (node.handleDataPacket now address packet).2 portId) =
        (node.outputPorts portId).updatePortFromSource now buffer
          ⟨packet.buffer, now, address⟩) ∧
      (¬ Hears node packet portId →
        ((node.handleDataPacket now address packet).1.outputPorts portId,
          (node.handleDataPacket now address packet).2 portId) =
        (node.outputPorts portId, false)) := by
  unfold ArtNetNode.handleDataPacket ArtNetNode.receive Hears
  by_cases accepts : node.accepts packet = true
  · rw [if_pos accepts]
    dsimp only
    cases shown : (node.outputPorts portId).buffer with
    | none => exact ⟨fun hears => Bool.noConfusion hears.2.2.2.2, fun _ => rfl⟩
    | some buffer =>
      dsimp only
      constructor
      · intro hears
        rw [if_pos ⟨hears.2.1, hears.2.2.1, hears.2.2.2.1⟩]
        exact ⟨buffer, rfl⟩
      · intro deaf
        rw [if_neg (fun hears => deaf ⟨accepts, hears.1, hears.2.1, hears.2.2, rfl⟩)]
  · rw [if_neg accepts]
    exact ⟨fun hears => absurd hears.1 accepts, fun _ => rfl⟩

/-- The addresses are changed without a look at the sources. -/
structure KeepsSources (node next : ArtNetNode) (portId : Fin artnetMaxPorts) : Prop where
  sources : (next.outputPorts portId).sources = (node.outputPorts portId).sources
  mode : (next.outputPorts portId).mergeMode = (node.outputPorts portId).mergeMode

theorem keepsSources_update (portId other : Fin artnetMaxPorts)
    (port : OutputPort) (sources : port.sources = (node.outputPorts portId).sources)
    (mode : port.mergeMode = (node.outputPorts portId).mergeMode) :
    KeepsSources node
      { node with outputPorts := Function.update node.outputPorts portId port } other := by
  by_cases same : other = portId
  · subst same
    constructor
    · show (Function.update node.outputPorts other port other).sources = _
      rw [Function.update_self, sources]
    · show (Function.update node.outputPorts other port other).mergeMode = _
      rw [Function.update_self, mode]
  · constructor
    · show (Function.update node.outputPorts portId port other).sources = _
      rw [Function.update_of_ne same]
    · show (Function.update node.outputPorts portId port other).mergeMode = _
      rw [Function.update_of_ne same]

theorem keepsSources_setOutputPortUniverse (portId : Fin artnetMaxPorts)
    (universeId : UInt8) (other : Fin artnetMaxPorts) :
    KeepsSources node (node.setOutputPortUniverse portId universeId) other := by
  unfold ArtNetNode.setOutputPortUniverse
  dsimp only
  split
  · exact ⟨rfl, rfl⟩
  · exact keepsSources_update node portId other _ rfl rfl

theorem keepsSources_setSubnetAddress (subnetAddress : UInt8) (portId : Fin artnetMaxPorts) :
    KeepsSources node (node.setSubnetAddress subnetAddress) portId := by
  unfold ArtNetNode.setSubnetAddress
  dsimp only
  split
  · exact ⟨rfl, rfl⟩
  · exact ⟨rfl, rfl⟩

theorem keepsSources_setNetAddress (netAddress : UInt8)
    (portId : Fin artnetMaxPorts) : KeepsSources node (node.setNetAddress netAddress) portId := by
  unfold ArtNetNode.setNetAddress
  dsimp only
  split
  · split
    · exact ⟨rfl, rfl⟩
    · exact ⟨rfl, rfl⟩
  · split
    · exact ⟨rfl, rfl⟩
    · exact ⟨rfl, rfl⟩

/-- Every HTP port mirrors a new one that gets its packets. -/
def AllMirror (traced : Traced) : Prop :=
  ∀ portId, (traced.node.outputPorts portId).mergeMode = .htp →
    Mirrors (traced.node.outputPorts portId) (traced.since portId)

theorem allMirror_initial (inputPorts : List UInt8) (modes : Fin artnetMaxPorts → MergeMode)
    (buffers : Fin artnetMaxPorts → Option DmxBuffer) (now : Int) :
    (initial inputPorts modes buffers now).AllMirror :=
  fun _ _ => mirrors_nil List.nodup_nil

theorem AllMirror.configured (mirrors : traced.AllMirror) {next : ArtNetNode}
    (keeps : ∀ portId, KeepsSources traced.node next portId) :
    (traced.configured next).AllMirror := by
  intro portId mode
  have before := mirrors portId ((keeps portId).mode.symm.trans mode)
  show Mirrors (next.outputPorts portId)
    (if KeepsAddress traced.node next portId then traced.since portId else [])
  split
  · refine ⟨?_, before.replayed, ?_⟩
    · rw [(keeps portId).sources]
      exact before.distinct
    · rw [(keeps portId).sources]
      exact before.same
  · apply mirrors_nil
    rw [(keeps portId).sources]
    exact before.distinct

/-- A port whose `on_data` is run shows what its own packets lead to. -/
def ShowsOwn (traced : Traced) (event : NodeEvent) : Prop :=
  ∀ portId, traced.ran event portId = true →
    ((traced.step event).node.outputPorts portId).buffer.map DmxBuffer.slots =
      (expected (traced.node.outputPorts portId).mergeMode
        ((traced.step event).since portId)).map DmxBuffer.slots

/-- What a packet does to a port that hears it. -/
theorem AllMirror.hears (mirrors : traced.AllMirror) {elapsed : Nat} {address : IPV4Address}
    {packet : DmxPacket} (unmixed : traced.Unmixed (.packet elapsed address packet))
    {portId : Fin artnetMaxPorts} (hears : Hears traced.node packet portId) (buffer : DmxBuffer) :
    let result := (traced.node.outputPorts portId).updatePortFromSource (traced.now + elapsed)
      buffer ⟨packet.buffer, traced.now + elapsed, address⟩
    let packets := traced.since portId ++ [⟨packet.buffer, traced.now + elapsed, address⟩]
    (result.1.mergeMode = .htp → Mirrors result.1 packets) ∧
      (result.2 = true → result.1.buffer.map DmxBuffer.slots =
        (expected (traced.node.outputPorts portId).mergeMode packets).map DmxBuffer.slots) := by
  intro result packets
  have mode : result.1.mergeMode = (traced.node.outputPorts portId).mergeMode :=
    (settings_update _ _ _ _).1
  cases which : (traced.node.outputPorts portId).mergeMode with
  | ltp =>
    rw [which] at mode
    refine ⟨fun htp => MergeMode.noConfusion (mode.symm.trans htp), fun ran => ?_⟩
    have shown : result.1.buffer = some packet.buffer := shown_ltp which ran
    rw [shown]
    show _ = (packets.getLast?.map DMXSource.buffer).map DmxBuffer.slots
    rw [List.getLast?_concat]
    rfl
  | htp =>
    have own := unmixed portId hears which
    have both := @Mirrors.update (traced.node.outputPorts portId) (traced.since portId)
      ⟨packet.buffer, traced.now + elapsed, address⟩ (mirrors portId which) own.1 own.2 buffer
    exact ⟨fun _ => both.1, fun ran => both.2 ran which⟩

theorem AllMirror.packet (mirrors : traced.AllMirror) {elapsed : Nat} {address : IPV4Address}
    {packet : DmxPacket} (unmixed : traced.Unmixed (.packet elapsed address packet)) :
    (traced.step (.packet elapsed address packet)).AllMirror ∧
      traced.ShowsOwn (.packet elapsed address packet) := by
  have each : ∀ portId,
      (((traced.step (.packet elapsed address packet)).node.outputPorts portId).mergeMode = .htp →
        Mirrors ((traced.step (.packet elapsed address packet)).node.outputPorts portId)
          ((traced.step (.packet elapsed address packet)).since portId)) ∧
      (traced.ran (.packet elapsed address packet) portId = true →
        ((traced.step (.packet elapsed address packet)).node.outputPorts portId).buffer.map
            DmxBuffer.slots =
          (expected (traced.node.outputPorts portId).mergeMode
            ((traced.step (.packet elapsed address packet)).since portId)).map
              DmxBuffer.slots) := by
    intro portId
    have port := handleDataPacket_port traced.node (traced.now + elapsed) address packet portId
    by_cases hears : Hears traced.node packet portId
    · obtain ⟨buffer, result⟩ := port.1 hears
      have since : (traced.step (.packet elapsed address packet)).since portId =
          traced.since portId ++ [⟨packet.buffer, traced.now + elapsed, address⟩] := if_pos hears
      have next : (traced.step (.packet elapsed address packet)).node.outputPorts portId = _ :=
        congrArg Prod.fst result
      have ran : traced.ran (.packet elapsed address packet) portId = _ :=
        congrArg Prod.snd result
      rw [since, next, ran]
      exact mirrors.hears unmixed hears buffer
    · have result := port.2 hears
      have since : (traced.step (.packet elapsed address packet)).since portId =
          traced.since portId := if_neg hears
      have next : (traced.step (.packet elapsed address packet)).node.outputPorts portId =
          traced.node.outputPorts portId := congrArg Prod.fst result
      have ran : traced.ran (.packet elapsed address packet) portId = false :=
        congrArg Prod.snd result
      rw [since, next, ran]
      exact ⟨mirrors portId, fun run => Bool.noConfusion run⟩
  exact ⟨fun portId => (each portId).1, fun portId => (each portId).2⟩

theorem AllMirror.step (mirrors : traced.AllMirror) {event : NodeEvent}
    (unmixed : traced.Unmixed event) :
    (traced.step event).AllMirror ∧ traced.ShowsOwn event := by
  cases event with
  | setOutputPortUniverse portId universeId =>
    exact ⟨mirrors.configured (keepsSources_setOutputPortUniverse traced.node portId universeId),
      fun _ ran => Bool.noConfusion ran⟩
  | setSubnetAddress subnetAddress =>
    exact ⟨mirrors.configured (keepsSources_setSubnetAddress traced.node subnetAddress),
      fun _ ran => Bool.noConfusion ran⟩
  | setNetAddress netAddress =>
    exact ⟨mirrors.configured (keepsSources_setNetAddress traced.node netAddress),
      fun _ ran => Bool.noConfusion ran⟩
  | disableOutputPort portId =>
    exact ⟨mirrors.configured (fun other => keepsSources_update traced.node portId other _ rfl rfl),
      fun _ ran => Bool.noConfusion ran⟩
  | packet elapsed address packet => exact mirrors.packet unmixed

end Steps

instance (traced : Traced) : (event : NodeEvent) → Decidable (traced.Unmixed event)
  | .packet .. => inferInstanceAs (Decidable (∀ _, _ → _ → _ ∧ _))
  | .setOutputPortUniverse .. => .isTrue trivial
  | .setSubnetAddress _ => .isTrue trivial
  | .setNetAddress _ => .isTrue trivial
  | .disableOutputPort _ => .isTrue trivial

/-- Whenever `on_data` of a port is run, what it shows depends only on the packets for its address
that it got since it took it: it is what a new port shows that gets these packets. -/
theorem shows_own (inputPorts : List UInt8) (modes : Fin artnetMaxPorts → MergeMode)
    (buffers : Fin artnetMaxPorts → Option DmxBuffer) (now : Int) (events : List NodeEvent)
    (unmixed : Permitted step Unmixed (initial inputPorts modes buffers now) events) :
    ∀ past event future, events = past ++ event :: future →
      (run step (initial inputPorts modes buffers now) past).ShowsOwn event := by
  intro past event future split
  rw [split] at unmixed
  have parts := permitted_append_iff.mp unmixed
  have mirrors := @run_invariant Traced NodeEvent step Unmixed AllMirror
    (fun _ _ mirrors ok => (mirrors.step ok).1) _ _
    (allMirror_initial inputPorts modes buffers now) parts.1
  exact (AllMirror.step mirrors parts.2.1).2

def slotPacket (universeId slot : UInt8) : DmxPacket := ⟨artnetVersion, 0, universeId, 1, [slot, 0]⟩

/-- One port, on universe 1 and then on universe 2, with two packets from one source. -/
def twoUniverses (slot : UInt8) (second : IPV4Address) : List NodeEvent :=
  [.setOutputPortUniverse ArtNetNode.firstPort 1,
    .packet 0 ⟨10, 0, 0, 1⟩ (slotPacket 1 slot),
    .setOutputPortUniverse ArtNetNode.firstPort 2,
    .packet 0 second (slotPacket 2 1)]

theorem shows_own_twoUniverses :
    (run step (initial [] (fun _ => .htp) (fun _ => some .new) 0)
      ((twoUniverses 9 ⟨10, 0, 0, 1⟩).take 3)).ShowsOwn
        (.packet 0 ⟨10, 0, 0, 1⟩ (slotPacket 2 1)) :=
  shows_own [] (fun _ => .htp) (fun _ => some .new) 0 (twoUniverses 9 ⟨10, 0, 0, 1⟩)
    (by decide +kernel) _ _ [] rfl

/-- Two runs with the same packets since the port took its address, but different data from the
universe before it, run `on_data` with different data. -/
theorem universes_mixed :
    ∃ first second : List NodeEvent, ∃ event : NodeEvent, ∃ portId : Fin artnetMaxPorts,
      let start := initial [] (fun _ => .htp) (fun _ => some .new) 0
      (run step start first).ran event portId = true ∧
        (run step start second).ran event portId = true ∧
        ((run step start (first ++ [event])).since portId).map
            (fun source => (source.buffer.slots, source.timestamp, source.address)) =
          ((run step start (second ++ [event])).since portId).map
            (fun source => (source.buffer.slots, source.timestamp, source.address)) ∧
        ((run step start (first ++ [event])).node.outputPorts portId).buffer.map DmxBuffer.slots ≠
          ((run step start (second ++ [event])).node.outputPorts portId).buffer.map
            DmxBuffer.slots :=
  ⟨(twoUniverses 9 ⟨10, 0, 0, 2⟩).take 3, (twoUniverses 5 ⟨10, 0, 0, 2⟩).take 3,
    .packet 0 ⟨10, 0, 0, 2⟩ (slotPacket 2 1), ArtNetNode.firstPort, by decide +kernel⟩

end Traced

end OpenLighting.ArtNet
