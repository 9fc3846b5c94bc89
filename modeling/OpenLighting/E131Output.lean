import OpenLighting.E131Tracking

namespace OpenLighting.E131

open TransitionSystem SlotMaximum

variable {Cid : Type}

/-- The HTP merge of the data of some sources. -/
def mergedSlots (sources : List (DmxSource Cid)) : List UInt8 :=
  (sources.map (fun source => source.buffer.slots)).foldl SlotMaximum.merge []

namespace UniverseHandler

/-- The buffer of a handler is the HTP merge of its sources; it is empty if there are none. -/
def Current (handler : UniverseHandler Cid) : Prop :=
  IsMaximum {row | ∃ source ∈ handler.sources, row = source.buffer.slots} handler.buffer.slots

/-- A handler that has not heard of any source. -/
def fresh (buffer : DmxBuffer) (priority : Option UInt8) : UniverseHandler Cid :=
  ⟨buffer, priority, 0, [], 0⟩

theorem mergedSlots_maximum (sources : List (DmxSource Cid)) :
    IsMaximum {row | ∃ source ∈ sources, row = source.buffer.slots} (mergedSlots sources) := by
  have merged := DmxBuffer.foldl_htpMerge_maximum DmxSource.buffer .new sources
  rwa [DmxBuffer.foldl_htpMerge_slots, DmxBuffer.reset_slots] at merged

theorem current_iff {handler : UniverseHandler Cid} :
    handler.Current ↔ handler.buffer.slots = mergedSlots handler.sources := by
  have merged := mergedSlots_maximum handler.sources
  constructor
  · exact fun current => current.unique merged
  · intro same
    unfold Current
    rw [same]
    exact merged

/-- The sources have data. If there are any, it is merged in the buffer. -/
structure Settled (handler : UniverseHandler Cid) : Prop where
  orderly : handler.Orderly
  filled : ∀ source ∈ handler.sources, source.buffer.allocated = true
  current : handler.sources ≠ [] → handler.Current

section Packets
variable {ignorePreview : Bool} {handler : UniverseHandler Cid} {now : Int}

theorem settled_of_current (orderly : handler.Orderly)
    (filled : ∀ source ∈ handler.sources, source.buffer.allocated = true)
    (current : handler.Current) : Settled handler :=
  ⟨orderly, filled, fun _ => current⟩

theorem settled_merge (orderly : handler.Orderly)
    (filled : ∀ source ∈ handler.sources, source.buffer.allocated = true) :
    Settled handler.merge ∧ handler.merge.Current := by
  have current : handler.merge.Current := by
    unfold Current
    rw [merge_sources]
    exact merge_maximum filled
  have still : ∀ source ∈ handler.merge.sources, source.buffer.allocated = true := by
    rw [merge_sources]
    exact filled
  exact ⟨settled_of_current (merge_orderly orderly) still current, current⟩

variable [DecidableEq Cid] {message : DMPMessage Cid}

/-- `HandlePDUData` for a packet and the time when it arrives. -/
def step (ignorePreview : Bool) (handler : UniverseHandler Cid) (packet : Int × DMPMessage Cid) :
    UniverseHandler Cid :=
  handler.handle ignorePreview packet.1 packet.2

/-- A packet that comes as far as `TrackSourceIfRequired`. -/
def Considered (ignorePreview : Bool) (packet : Int × DMPMessage Cid) : Prop :=
  (packet.2.slots ignorePreview).isSome = true

/-- When a packet is rejected, the sources that have expired are not missed in the merge, and
there is nothing in the buffer if nothing was merged in it. -/
def NoneMissed (ignorePreview : Bool) (handler : UniverseHandler Cid)
    (packet : Int × DMPMessage Cid) : Prop :=
  Considered ignorePreview packet →
    Rejected (handler.expire packet.1 packet.2.cid) packet.2.cid packet.2.header →
    mergedSlots (unexpired packet.1 packet.2.cid handler.sources) = mergedSlots handler.sources ∧
      (handler.sources = [] → handler.buffer.slots = [])

/-- A packet is merged unless it is rejected, and then the other sources have still expired. -/
theorem handle_settles (settled : Settled handler) (now : Int) (message : DMPMessage Cid) :
    ¬ Considered ignorePreview (now, message) ∧
        handler.handle ignorePreview now message = handler ∨
      Considered ignorePreview (now, message) ∧
        Rejected (handler.expire now message.cid) message.cid message.header ∧
        handler.handle ignorePreview now message = handler.expire now message.cid ∨
      Considered ignorePreview (now, message) ∧
        ¬ Rejected (handler.expire now message.cid) message.cid message.header ∧
        Settled (handler.handle ignorePreview now message) ∧
        (handler.handle ignorePreview now message).Current := by
  have handled := @handle_handled Cid _ ignorePreview handler settled.orderly now message
  have kept : ∀ source ∈ (handler.expire now message.cid).sources,
      source.buffer.allocated = true := by
    intro source member
    exact settled.filled source (List.mem_of_mem_filter member)
  unfold Considered
  generalize handler.handle ignorePreview now message = after at handled ⊢
  generalize accepts ignorePreview handler now message = taken at handled
  cases handled with
  | skipped none => exact .inl ⟨by simp [none], rfl⟩
  | ignored found rejected => exact .inr (.inl ⟨by simp [found], rejected, rfl⟩)
  | dropped found accepted here shape =>
    refine .inr (.inr ⟨by simp [found], accepted, settled_merge ?_ ?_⟩)
    · exact (settled.orderly.expire now message.cid).dropped shape
    · exact fun other member => kept other ((sublist_of_split shape).subset member)
  | @filled _ front back source found accepted here holds distinct few others =>
    refine .inr (.inr ⟨by simp [found], accepted, settled_merge ?_ ?_⟩)
    · exact ⟨distinct, few, fun none => by simp at none⟩
    · intro other member
      by_cases same : other = source
      · rw [same, holds]
        rfl
      · have beside : other ∈ front ++ back := mem_beside member same
        rcases others with none | ⟨_, known⟩
        · rw [none] at beside
          cases beside
        · exact kept other (known other beside)

/-- When only other sources have expired, the buffer is right if they are not missed. -/
theorem expire_current_iff (settled : Settled handler) (now : Int) (cid : Cid) :
    (handler.expire now cid).Current ↔
      mergedSlots (unexpired now cid handler.sources) = mergedSlots handler.sources ∧
        (handler.sources = [] → handler.buffer.slots = []) := by
  rw [current_iff]
  change handler.buffer.slots = mergedSlots (unexpired now cid handler.sources) ↔ _
  by_cases none : handler.sources = []
  · rw [none]
    simp [unexpired, mergedSlots]
  · rw [current_iff.mp (settled.current none)]
    constructor
    · exact fun same => ⟨same.symm, fun empty => absurd empty none⟩
    · exact fun same => same.1.symm

theorem step_current_iff (settled : Settled handler) (packet : Int × DMPMessage Cid) :
    (Considered ignorePreview packet → (step ignorePreview handler packet).Current) ↔
      NoneMissed ignorePreview handler packet := by
  apply imp_congr_right
  intro considered
  rcases @handle_settles Cid ignorePreview handler _ settled packet.1 packet.2 with
    ⟨skipped, _⟩ | ⟨_, rejected, same⟩ | ⟨_, accepted, _, current⟩
  · exact absurd considered skipped
  · rw [step, same, expire_current_iff settled]
    simp [rejected]
  · simp only [accepted, false_implies, iff_true]
    exact current

theorem Settled.step (settled : Settled handler) (packet : Int × DMPMessage Cid)
    (noneMissed : NoneMissed ignorePreview handler packet) :
    Settled (handler.step ignorePreview packet) := by
  rcases @handle_settles Cid ignorePreview handler _ settled packet.1 packet.2 with
    ⟨_, same⟩ | ⟨considered, _, same⟩ | ⟨_, _, after, _⟩
  · rw [UniverseHandler.step, same]
    exact settled
  · have current := (step_current_iff settled packet).mpr noneMissed considered
    rw [UniverseHandler.step, same] at current ⊢
    apply settled_of_current (settled.orderly.expire packet.1 packet.2.cid) _ current
    intro source member
    exact settled.filled source (List.mem_of_mem_filter member)
  · exact after

end Packets

end UniverseHandler

open UniverseHandler

/-- The buffer of a handler is the HTP merge of the sources after every packet that was
considered, exactly if no packet was rejected that let a source expire which is missed in the
merge, or that came while there was something else in the buffer. -/
theorem output_current_iff [DecidableEq Cid] (ignorePreview : Bool) (buffer : DmxBuffer)
    (priority : Option UInt8) (packets : List (Int × DMPMessage Cid)) :
    (∀ past packet future, packets = past ++ packet :: future →
        Considered ignorePreview packet →
        (run (step ignorePreview) (fresh buffer priority) (past ++ [packet])).Current) ↔
      Permitted (step ignorePreview) (NoneMissed ignorePreview) (fresh buffer priority)
        packets := by
  have settled : Settled (fresh buffer priority : UniverseHandler Cid) := by
    constructor
    · exact ⟨List.nodup_nil, Nat.zero_le _, fun _ => rfl⟩
    · intro source member
      cases member
    · exact fun some => absurd rfl some
  rw [← @steps_iff_permitted _ _ (step ignorePreview) (NoneMissed ignorePreview)
    (fun handler packet => Considered ignorePreview packet →
      (step ignorePreview handler packet).Current) Settled
    (fun handler packet settled => settled.step packet)
    (fun handler packet settled => step_current_iff settled packet) _ packets settled]
  simp only [run_append, run_cons, run_nil]

/-- The second of two sources has been silent for three seconds when the first one sends a packet
again. -/
def silentSource : List (Int × DMPMessage Nat) :=
  [(0, oneSlot 7 0 10), (0, oneSlot 8 0 20), (3000000, oneSlot 7 0 10)]

theorem silent_source_stays_in_output :
    ∃ handler : UniverseHandler Nat,
      run (step true) (fresh .new (some 0)) silentSource = handler ∧
      (∀ packet ∈ silentSource, Considered true packet) ∧
      (handler.sources.map fun source => (source.cid, source.buffer.slots)) = [(7, [10])] ∧
      handler.buffer.slots = [20] ∧ ¬ handler.Current := by
  refine ⟨_, rfl, by unfold Considered; decide +kernel, by decide +kernel, by decide +kernel, ?_⟩
  rw [current_iff]
  decide +kernel

end OpenLighting.E131
