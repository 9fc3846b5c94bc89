import OpenLighting.E131Sources

namespace OpenLighting.E131

open TransitionSystem FiniteMap SlotMaximum List UniverseHandler

variable {Cid : Type}

/-- The sources of a handler have different CIDs and are not too many, and without any there is
no priority. -/
structure UniverseHandler.Orderly (handler : UniverseHandler Cid) : Prop where
  distinct : (handler.sources.map DmxSource.cid).Nodup
  few : handler.sources.length ≤ maxMergeSources
  idle : handler.sources = [] → handler.activePriority = 0

/-- An old sequence number; or, from a source that is not tracked, the end of its stream, a lower
priority, or one source too many. -/
def Rejected (handler : UniverseHandler Cid) (cid : Cid) (header : E131Header) : Prop :=
  (∃ source ∈ handler.sources, source.cid = cid ∧
    oldSequence header.sequence source.sequence = true) ∨
  (∀ source ∈ handler.sources, source.cid ≠ cid) ∧
    (header.streamTerminated = true ∨ header.priority < handler.activePriority ∨
      header.priority = handler.activePriority ∧ handler.sources.length = maxMergeSources)

/-- What can become of a packet, once the other sources have expired. -/
inductive Outcome (handler : UniverseHandler Cid) (now : Int) (cid : Cid) (header : E131Header) :
    UniverseHandler Cid × Verdict → Prop where
  | ignored (rejected : Rejected handler cid header) :
      Outcome handler now cid header (handler, .ignore)
  | dropped {front back : List (DmxSource Cid)} {source : DmxSource Cid}
      (accepted : ¬ Rejected handler cid header) (here : source.cid = cid)
      (shape : handler.sources = front ++ source :: back) :
      Outcome handler now cid header
        ({ handler with
          sources := front ++ back
          activePriority := if (front ++ back).isEmpty then 0 else handler.activePriority }, .merge)
  | filled {front back : List (DmxSource Cid)} {source : DmxSource Cid}
      (accepted : ¬ Rejected handler cid header) (here : source.cid = cid)
      (goes : header.streamTerminated = false)
      (distinct : ((front ++ source :: back).map DmxSource.cid).Nodup)
      (few : (front ++ source :: back).length ≤ maxMergeSources)
      (others : front ++ back = [] ∨ header.priority = handler.activePriority ∧
        ∀ other ∈ front ++ back, other ∈ handler.sources) :
      Outcome handler now cid header
        ({ handler with
          sources := front ++ source :: back
          activePriority := header.priority }, .fill front.length)

section Splits
variable {handler : UniverseHandler Cid} {front back : List (DmxSource Cid)}
  {source other : DmxSource Cid}

/-- What is left of a list without one of its members. -/
theorem sublist_of_split (shape : handler.sources = front ++ source :: back) :
    (front ++ back).Sublist handler.sources := by
  rw [shape]
  exact (List.Sublist.refl front).append (sublist_cons_self source back)

theorem mem_beside (member : other ∈ front ++ source :: back) (different : other ≠ source) :
    other ∈ front ++ back := by
  rcases mem_append.mp member with early | late
  · exact mem_append_left back early
  · exact mem_append_right front (mem_of_ne_of_mem different late)

section

variable (shape : handler.sources = front ++ source :: back)
include shape

theorem eraseIdx_split : handler.sources.eraseIdx front.length = front ++ back := by
  rw [shape, eraseIdx_append_of_length_le (Nat.le_refl _)]
  simp

theorem set_split (fresh : DmxSource Cid) :
    handler.sources.set front.length fresh = front ++ fresh :: back := by
  rw [shape, set_append_right _ _ (Nat.le_refl _)]
  simp

/-- A source that is the only one has no others beside it. -/
theorem alone_of_length (one : handler.sources.length = 1) : front ++ back = [] := by
  rw [shape] at one
  simp only [length_append, length_cons] at one
  rw [← length_eq_zero_iff, length_append]
  omega

end

theorem UniverseHandler.Orderly.replaced {fresh : DmxSource Cid} (orderly : handler.Orderly)
    (shape : handler.sources = front ++ source :: back) (same : fresh.cid = source.cid) :
    ((front ++ fresh :: back).map DmxSource.cid).Nodup ∧
      (front ++ fresh :: back).length ≤ maxMergeSources := by
  have distinct := orderly.distinct
  have few := orderly.few
  rw [shape] at distinct few
  constructor
  · rw [map_append, map_cons] at distinct ⊢
    rwa [same]
  · simpa using few

theorem UniverseHandler.Orderly.dropped (orderly : handler.Orderly)
    (shape : handler.sources = front ++ source :: back) :
    UniverseHandler.Orderly
      { handler with
        sources := front ++ back
        activePriority := if (front ++ back).isEmpty then 0 else handler.activePriority } := by
  have part := sublist_of_split shape
  constructor
  · exact orderly.distinct.sublist (part.map DmxSource.cid)
  · exact le_trans part.length_le orderly.few
  · intro none
    change front ++ back = [] at none
    simp [none]

end Splits

section Tracking
variable {handler : UniverseHandler Cid} {now : Int} {cid : Cid} {header : E131Header}

theorem not_rejected_new (unknown : ∀ source ∈ handler.sources, source.cid ≠ cid)
    (goes : header.streamTerminated = false) (above : ¬ header.priority < handler.activePriority)
    (room : header.priority = handler.activePriority →
      handler.sources.length ≠ maxMergeSources) : ¬ Rejected handler cid header := by
  intro rejected
  rcases rejected with ⟨source, member, same, _⟩ | ⟨_, ends | lower | full⟩
  · exact unknown source member same
  · rw [goes] at ends
    cases ends
  · exact above lower
  · exact room full.1 full.2

theorem not_rejected_known {source : DmxSource Cid} (orderly : handler.Orderly)
    (member : source ∈ handler.sources) (here : source.cid = cid)
    (new : oldSequence header.sequence source.sequence = false) :
    ¬ Rejected handler cid header := by
  intro rejected
  rcases rejected with ⟨other, inside, same, old⟩ | ⟨unknown, _⟩
  · have equal := inj_on_of_nodup_map orderly.distinct inside member (same.trans here.symm)
    rw [equal, new] at old
    cases old
  · exact unknown source member here

theorem trackNew_outcome (orderly : handler.Orderly)
    (unknown : ∀ source ∈ handler.sources, source.cid ≠ cid) :
    Outcome handler now cid header (trackNew handler now cid header) := by
  unfold trackNew
  split
  · rename_i either
    apply Outcome.ignored
    refine .inr ⟨unknown, ?_⟩
    rcases either with ends | lower
    · exact .inl ends
    · exact .inr (.inl lower)
  · rename_i neither
    have goes : header.streamTerminated = false := by simpa using fun ends => neither (.inl ends)
    have above : ¬ header.priority < handler.activePriority := fun lower => neither (.inr lower)
    dsimp only
    by_cases raised : handler.activePriority < header.priority
    · rw [if_pos raised]
      apply @Outcome.filled Cid handler now cid header [] []
      · apply not_rejected_new unknown goes above
        intro same
        rw [same] at raised
        exact absurd raised (UInt8.lt_irrefl _)
      · rfl
      · exact goes
      · exact nodup_singleton _
      · show 1 ≤ maxMergeSources
        decide
      · exact .inl rfl
    · have same : header.priority = handler.activePriority :=
        UInt8.le_antisymm (UInt8.not_lt.mp raised) (UInt8.not_lt.mp above)
      rw [if_neg raised]
      split
      · rename_i full
        exact .ignored (.inr ⟨unknown, .inr (.inr ⟨same, full⟩)⟩)
      · rename_i room
        rw [show handler.activePriority = header.priority from same.symm]
        apply @Outcome.filled Cid handler now cid header handler.sources []
        · exact not_rejected_new unknown goes above (fun _ => room)
        · rfl
        · exact goes
        · rw [map_append]
          refine List.Nodup.append orderly.distinct (nodup_singleton _) ?_
          rw [map_singleton, disjoint_singleton]
          intro member
          obtain ⟨source, inside, equal⟩ := mem_map.mp member
          exact unknown source inside equal
        · have few := orderly.few
          simp only [length_append, length_cons, length_nil]
          omega
        · rw [append_nil]
          exact .inr ⟨same, fun other member => member⟩

theorem trackKnown_outcome {front back : List (DmxSource Cid)} {source : DmxSource Cid}
    (orderly : handler.Orderly) (here : source.cid = cid)
    (shape : handler.sources = front ++ source :: back) :
    Outcome handler now cid header (trackKnown handler now header front.length source) := by
  have member : source ∈ handler.sources := by
    rw [shape]
    exact mem_append_right front mem_cons_self
  have erased := eraseIdx_split shape
  have set := set_split shape
  unfold trackKnown
  split
  · rename_i old
    exact .ignored (.inl ⟨source, member, here, old⟩)
  · rename_i new
    have accepted : ¬ Rejected handler cid header :=
      not_rejected_known orderly member here (by simpa using new)
    have kept := @UniverseHandler.Orderly.replaced Cid handler front back source
      ⟨source.cid, header.sequence, now, source.buffer⟩ orderly shape rfl
    have alone := alone_of_length shape
    split
    · rw [erased]
      exact .dropped accepted here shape
    · rename_i goes
      have goes : header.streamTerminated = false := by simpa using goes
      dsimp only
      split
      · split
        · rename_i one
          rw [set]
          exact .filled accepted here goes kept.1 kept.2 (.inl (alone one))
        · rename_i several
          rw [erased]
          have dropped := @Outcome.dropped Cid handler now cid header front back source accepted
            here shape
          rw [if_neg] at dropped
          · exact dropped
          · intro none
            apply several
            rw [shape, length_append, length_cons, ← Nat.add_assoc,
              ← length_append, isEmpty_iff.mp none]
            rfl
      · rename_i above
        split
        · split
          · rename_i one
            rw [set]
            exact .filled accepted here goes kept.1 kept.2 (.inl (alone one))
          · exact @Outcome.filled Cid handler now cid header [] [] _ accepted here goes
              (nodup_singleton _) (show 1 ≤ maxMergeSources by decide) (.inl rfl)
        · rename_i below
          have same : header.priority = handler.activePriority :=
            UInt8.le_antisymm (UInt8.not_lt.mp below) (UInt8.not_lt.mp above)
          rw [set, show handler.activePriority = header.priority from same.symm]
          refine .filled accepted here goes kept.1 kept.2 (.inr ⟨same, ?_⟩)
          exact fun other inside => (sublist_of_split shape).subset inside

variable [DecidableEq Cid]

theorem UniverseHandler.Orderly.expire (orderly : handler.Orderly) (now : Int) (cid : Cid) :
    (handler.expire now cid).Orderly := by
  have part : (unexpired now cid handler.sources).Sublist handler.sources := filter_sublist
  constructor
  · exact orderly.distinct.sublist (part.map DmxSource.cid)
  · exact le_trans part.length_le orderly.few
  · intro none
    have empty : unexpired now cid handler.sources = [] := none
    unfold UniverseHandler.expire
    simp [empty]

/-- One of the three outcomes comes of every packet. -/
theorem track_outcome (orderly : handler.Orderly) (now : Int) (cid : Cid) (header : E131Header) :
    Outcome (handler.expire now cid) now cid header
      (trackSourceIfRequired handler now cid header) := by
  have ready := orderly.expire now cid
  unfold trackSourceIfRequired
  dsimp only
  cases found : (handler.expire now cid).sources.findIdx?
      (fun source => decide (source.cid = cid)) with
  | none =>
    apply trackNew_outcome ready
    intro source member same
    have missing := List.findIdx?_eq_none_iff.mp found source member
    rw [same] at missing
    simp at missing
  | some index =>
    obtain ⟨less, here, _⟩ := List.findIdx?_eq_some_iff_getElem.mp found
    have split := take_append_drop index (handler.expire now cid).sources
    rw [drop_eq_getElem_cons less] at split
    have front : ((handler.expire now cid).sources.take index).length = index := by
      rw [length_take]
      omega
    have outcome := @trackKnown_outcome Cid (handler.expire now cid) now cid header _ _ _ ready
      (of_decide_eq_true here) split.symm
    rw [front] at outcome
    simp only [List.getElem?_eq_getElem less]
    exact outcome

end Tracking

section Merging
variable {handler : UniverseHandler Cid}

@[simp] theorem merge_sources (handler : UniverseHandler Cid) :
    handler.merge.sources = handler.sources := by
  unfold UniverseHandler.merge
  dsimp only
  split
  · rfl
  · rfl
  · rfl

@[simp] theorem merge_activePriority (handler : UniverseHandler Cid) :
    handler.merge.activePriority = handler.activePriority := by
  unfold UniverseHandler.merge
  dsimp only
  split
  · rfl
  · rfl
  · rfl

@[simp] theorem merge_priority (handler : UniverseHandler Cid) :
    handler.merge.priority = handler.priority.map (fun _ => handler.activePriority) := by
  unfold UniverseHandler.merge
  dsimp only
  split
  · rfl
  · rfl
  · rfl

/-- The buffer is the HTP merge of the sources, if each of them has data. -/
theorem merge_maximum (filled : ∀ source ∈ handler.sources, source.buffer.allocated = true) :
    IsMaximum {row | ∃ source ∈ handler.sources, row = source.buffer.slots}
      handler.merge.buffer.slots := by
  unfold UniverseHandler.merge
  dsimp only
  split
  · rename_i none
    rw [none]
    exact DmxBuffer.foldl_htpMerge_maximum DmxSource.buffer handler.buffer []
  · rename_i source one
    have memory := filled source (by rw [one]; exact mem_singleton_self source)
    rw [one]
    rw [DmxBuffer.setBuffer_of_allocated _ memory]
    constructor
    · intro row member index value found
      obtain ⟨other, inside, rfl⟩ := member
      rw [mem_singleton.mp inside] at found
      exact ⟨value, found, UInt8.le_refl value⟩
    · intro index top found
      exact ⟨_, ⟨source, mem_singleton_self source, rfl⟩, found⟩
  · exact DmxBuffer.foldl_htpMerge_maximum DmxSource.buffer handler.buffer handler.sources

/-- The source that a packet is for gets its data. -/
theorem fill_sources {front back : List (DmxSource Cid)} {source : DmxSource Cid}
    (shape : handler.sources = front ++ source :: back) (slots : List UInt8) :
    handler.fill front.length slots =
      { handler with
        sources := front ++ { source with buffer := .holding slots } :: back } := by
  have there : front.length < (front ++ source :: back).length := by simp
  have changed (change : DmxSource Cid → DmxSource Cid) :
      (front ++ source :: back).modify front.length change = front ++ change source :: back := by
    rw [modify_eq_take_cons_drop there]
    simp
  unfold fill
  rw [shape, changed]
  rfl

end Merging

section Handling
variable [DecidableEq Cid] {ignorePreview : Bool} {handler : UniverseHandler Cid} {now : Int}
  {message : DMPMessage Cid}

/-- The slots of a packet that `TrackSourceIfRequired` is asked about. -/
def DMPMessage.slots (ignorePreview : Bool) (message : DMPMessage Cid) : Option (List UInt8) :=
  match message.payload ignorePreview with
  | none => none
  | some (address, rest) =>
    if startCode message.header address rest ≠ 0 ∧ message.header.streamTerminated = false then
      none
    else some (slotsOf message.header address rest)

def Verdict.takesData : Verdict → Bool
  | .fill _ => true
  | _ => false

/-- The data of the packet becomes that of its source. -/
def accepts (ignorePreview : Bool) (handler : UniverseHandler Cid) (now : Int)
    (message : DMPMessage Cid) : Bool :=
  (message.slots ignorePreview).isSome &&
    (trackSourceIfRequired handler now message.cid message.header).2.takesData

/-- What can become of a handler, and whether the packet is accepted. -/
inductive Handled (ignorePreview : Bool) (handler : UniverseHandler Cid) (now : Int)
    (message : DMPMessage Cid) : UniverseHandler Cid → Bool → Prop where
  | skipped (none : message.slots ignorePreview = none) :
      Handled ignorePreview handler now message handler false
  | ignored {slots : List UInt8} (found : message.slots ignorePreview = some slots)
      (rejected : Rejected (handler.expire now message.cid) message.cid message.header) :
      Handled ignorePreview handler now message (handler.expire now message.cid) false
  | dropped {slots : List UInt8} {front back : List (DmxSource Cid)} {source : DmxSource Cid}
      (found : message.slots ignorePreview = some slots)
      (accepted : ¬ Rejected (handler.expire now message.cid) message.cid message.header)
      (here : source.cid = message.cid)
      (shape : (handler.expire now message.cid).sources = front ++ source :: back) :
      Handled ignorePreview handler now message
        ({ handler with
          sources := front ++ back
          activePriority := if (front ++ back).isEmpty then 0
            else (handler.expire now message.cid).activePriority } : UniverseHandler Cid).merge false
  | filled {slots : List UInt8} {front back : List (DmxSource Cid)} {source : DmxSource Cid}
      (found : message.slots ignorePreview = some slots)
      (accepted : ¬ Rejected (handler.expire now message.cid) message.cid message.header)
      (here : source.cid = message.cid) (holds : source.buffer = .holding slots)
      (distinct : ((front ++ source :: back).map DmxSource.cid).Nodup)
      (few : (front ++ source :: back).length ≤ maxMergeSources)
      (others : front ++ back = [] ∨
        message.header.priority = (handler.expire now message.cid).activePriority ∧
          ∀ other ∈ front ++ back, other ∈ (handler.expire now message.cid).sources) :
      Handled ignorePreview handler now message
        ({ handler with
          sources := front ++ source :: back
          activePriority := message.header.priority } : UniverseHandler Cid).merge true

/-- One of four things comes of every packet. -/
theorem handle_handled (orderly : handler.Orderly) (now : Int) (message : DMPMessage Cid) :
    Handled ignorePreview handler now message (handler.handle ignorePreview now message)
      (accepts ignorePreview handler now message) := by
  have outcome := track_outcome orderly now message.cid message.header
  unfold handle accepts
  cases known : message.payload ignorePreview with
  | none =>
    have none : message.slots ignorePreview = none := by rw [DMPMessage.slots, known]
    rw [none]
    exact .skipped none
  | some pair =>
    obtain ⟨address, rest⟩ := pair
    dsimp only
    unfold receive
    by_cases skipped : startCode message.header address rest ≠ 0 ∧
        message.header.streamTerminated = false
    · have none : message.slots ignorePreview = none := by
        rw [DMPMessage.slots, known]
        exact if_pos skipped
      rw [none, if_pos skipped]
      exact .skipped none
    · have found : message.slots ignorePreview =
          some (slotsOf message.header address rest) := by
        rw [DMPMessage.slots, known]
        exact if_neg skipped
      rw [found, if_neg skipped]
      generalize tracked : trackSourceIfRequired handler now message.cid message.header = result
        at outcome ⊢
      cases outcome with
      | ignored rejected => exact .ignored found rejected
      | dropped accepted here shape => exact .dropped found accepted here shape
      | @filled front back source accepted here goes distinct few others =>
        have code : startCode message.header address rest = 0 := by
          by_contra other
          exact skipped ⟨other, goes⟩
        dsimp only
        rw [if_pos code, fill_sources rfl]
        exact @Handled.filled Cid _ ignorePreview handler now message _ front back
          { source with buffer := .holding (slotsOf message.header address rest) } found
          accepted here rfl (by simpa using distinct) (by simpa using few) others

end Handling

section Sources
variable {ignorePreview : Bool} {handler : UniverseHandler Cid} {message : DMPMessage Cid}
  {last : Cid → Option (DMPMessage Cid)}

def LastData (ignorePreview : Bool) (last : Cid → Option (DMPMessage Cid)) (cid : Cid)
    (priority : UInt8) (slots : List UInt8) : Prop :=
  ∃ message, last cid = some message ∧ message.header.priority = priority ∧
    message.slots ignorePreview = some slots

theorem LastData.unique {cid : Cid} {priority other : UInt8} {slots others : List UInt8}
    (data : LastData ignorePreview last cid priority slots)
    (known : LastData ignorePreview last cid other others) : slots = others := by
  obtain ⟨first, here, _, found⟩ := data
  obtain ⟨second, there, _, again⟩ := known
  have same : first = second := Option.some.inj (here.symm.trans there)
  rw [← same, found] at again
  exact Option.some.inj again

/-- The sources of a handler hold what was last accepted from them, at the active priority. -/
structure Tracked (ignorePreview : Bool) (handler : UniverseHandler Cid)
    (last : Cid → Option (DMPMessage Cid)) : Prop where
  orderly : handler.Orderly
  holds : ∀ source ∈ handler.sources, ∃ slots,
    LastData ignorePreview last source.cid handler.activePriority slots ∧
      source.buffer = .holding slots

/-- The buffer of a handler is the HTP merge of what was last accepted from its sources, and its
priority is the active one. -/
structure Merged (ignorePreview : Bool) (handler : UniverseHandler Cid)
    (last : Cid → Option (DMPMessage Cid)) : Prop where
  buffer : IsMaximum {row | ∃ source ∈ handler.sources, ∃ slots,
    LastData ignorePreview last source.cid handler.activePriority slots ∧
      row = slots.take dmxUniverseSize} handler.buffer.slots
  priority : ∀ priority ∈ handler.priority, priority = handler.activePriority

theorem merge_orderly (orderly : handler.Orderly) : handler.merge.Orderly := by
  constructor
  · rw [merge_sources]
    exact orderly.distinct
  · rw [merge_sources]
    exact orderly.few
  · rw [merge_sources, merge_activePriority]
    exact orderly.idle

theorem Tracked.merge (tracked : Tracked ignorePreview handler last) :
    Tracked ignorePreview handler.merge last ∧ Merged ignorePreview handler.merge last := by
  have held : Tracked ignorePreview handler.merge last := by
    refine ⟨merge_orderly tracked.orderly, ?_⟩
    rw [merge_sources, merge_activePriority]
    exact tracked.holds
  refine ⟨held, ?_, ?_⟩
  · have filled : ∀ source ∈ handler.sources, source.buffer.allocated = true := by
      intro source member
      obtain ⟨slots, _, holds⟩ := tracked.holds source member
      rw [holds]
      rfl
    have merged := merge_maximum filled
    have same : {row | ∃ source ∈ handler.merge.sources, ∃ slots,
        LastData ignorePreview last source.cid handler.merge.activePriority slots ∧
          row = slots.take dmxUniverseSize} =
        {row | ∃ source ∈ handler.sources, row = source.buffer.slots} := by
      rw [merge_sources, merge_activePriority]
      ext row
      constructor
      · intro found
        obtain ⟨source, member, slots, data, rfl⟩ := found
        obtain ⟨others, known, holds⟩ := tracked.holds source member
        refine ⟨source, member, ?_⟩
        rw [holds, data.unique known]
        rfl
      · intro found
        obtain ⟨source, member, rfl⟩ := found
        obtain ⟨slots, data, holds⟩ := tracked.holds source member
        rw [holds]
        exact ⟨source, member, slots, data, rfl⟩
    rw [same]
    exact merged
  · intro priority member
    rw [merge_priority] at member
    obtain ⟨_, _, same⟩ := Option.map_eq_some_iff.mp member
    rw [merge_activePriority]
    exact same.symm

/-- A packet that is not accepted changes nothing that was accepted before. -/
theorem Tracked.dropped {front back : List (DmxSource Cid)} {source : DmxSource Cid}
    (tracked : Tracked ignorePreview handler last)
    (shape : handler.sources = front ++ source :: back) :
    Tracked ignorePreview
      { handler with
        sources := front ++ back
        activePriority := if (front ++ back).isEmpty then 0 else handler.activePriority } last := by
  constructor
  · exact tracked.orderly.dropped shape
  · intro other member
    have some : (front ++ back).isEmpty = false := by
      rw [isEmpty_eq_false_iff]
      exact ne_nil_of_mem member
    rw [some]
    exact tracked.holds other ((sublist_of_split shape).subset member)

variable [DecidableEq Cid]

/-- The packets that were accepted last. -/
def record (last : Cid → Option (DMPMessage Cid)) (message : DMPMessage Cid) (accepted : Bool) :
    Cid → Option (DMPMessage Cid) :=
  if accepted then Function.update last message.cid (some message) else last

theorem Tracked.expire (tracked : Tracked ignorePreview handler last) (now : Int) (cid : Cid) :
    Tracked ignorePreview (handler.expire now cid) last := by
  refine ⟨tracked.orderly.expire now cid, ?_⟩
  intro source member
  have inside : source ∈ handler.sources := mem_of_mem_filter member
  have some : (unexpired now cid handler.sources).isEmpty = false := by
    rw [isEmpty_eq_false_iff]
    exact ne_nil_of_mem member
  unfold UniverseHandler.expire
  dsimp only
  rw [some]
  exact tracked.holds source inside

/-- A packet that is accepted is what its source has sent last. -/
theorem Tracked.filled {front back : List (DmxSource Cid)} {source : DmxSource Cid}
    {slots : List UInt8} (tracked : Tracked ignorePreview handler last)
    (found : message.slots ignorePreview = some slots) (here : source.cid = message.cid)
    (holds : source.buffer = .holding slots)
    (distinct : ((front ++ source :: back).map DmxSource.cid).Nodup)
    (few : (front ++ source :: back).length ≤ maxMergeSources)
    (others : front ++ back = [] ∨ message.header.priority = handler.activePriority ∧
      ∀ other ∈ front ++ back, other ∈ handler.sources) :
    Tracked ignorePreview
      { handler with
        sources := front ++ source :: back
        activePriority := message.header.priority } (record last message true) := by
  constructor
  · refine ⟨distinct, few, ?_⟩
    intro none
    simp at none
  · intro other member
    by_cases same : other = source
    · refine ⟨slots, ⟨message, ?_, rfl, found⟩, by rw [same, holds]⟩
      rw [same, here]
      exact Function.update_self _ _ _
    · have beside : other ∈ front ++ back := mem_beside member same
      rcases others with none | ⟨level, known⟩
      · rw [none] at beside
        cases beside
      · have different : other.cid ≠ message.cid := by
          intro equal
          exact same (inj_on_of_nodup_map distinct member
            (mem_append_right front mem_cons_self) (equal.trans here.symm))
        obtain ⟨data, ⟨earlier, last, priority, sent⟩, holding⟩ :=
          tracked.holds other (known other beside)
        refine ⟨data, ⟨earlier, ?_, priority.trans level.symm, sent⟩, holding⟩
        rw [record, if_pos rfl, Function.update_of_ne different]
        exact last

/-- A packet keeps the sources tracked, and where the closure is run they have been merged. -/
theorem Tracked.handle (tracked : Tracked ignorePreview handler last) (now : Int)
    (message : DMPMessage Cid) :
    Tracked ignorePreview (handler.handle ignorePreview now message)
        (record last message (accepts ignorePreview handler now message)) ∧
      ((handler.handle ignorePreview now message).runs ≠ handler.runs →
        Merged ignorePreview (handler.handle ignorePreview now message)
          (record last message (accepts ignorePreview handler now message))) := by
  have ready := tracked.expire now message.cid
  have handled := @handle_handled Cid _ ignorePreview handler tracked.orderly now message
  generalize handler.handle ignorePreview now message = after at handled ⊢
  generalize accepts ignorePreview handler now message = accepted at handled ⊢
  cases handled with
  | skipped none => exact ⟨tracked, fun run => absurd rfl run⟩
  | ignored found rejected => exact ⟨ready, fun run => absurd rfl run⟩
  | dropped found accepted here shape =>
    have merged := (ready.dropped shape).merge
    exact ⟨merged.1, fun _ => merged.2⟩
  | filled found accepted here holds distinct few others =>
    have merged := (ready.filled found here holds distinct few others).merge
    exact ⟨merged.1, fun _ => merged.2⟩

end Sources

/-- What can happen to an inflator. -/
inductive Event (Cid : Type) where
  | packet (now : Int) (message : DMPMessage Cid)
  | setHandler (universeId : Nat) (buffer : DmxBuffer) (priority : Option UInt8)
  | removeHandler (universeId : Nat)

/-- An inflator, with the packets that it accepted last for each universe. -/
structure Watched (Cid : Type) where
  inflator : DMPE131Inflator Cid
  last : Nat → Cid → Option (DMPMessage Cid)

namespace Watched
variable [DecidableEq Cid]

/-- An inflator without handlers. -/
def initial (ignorePreview : Bool) : Watched Cid := ⟨⟨ignorePreview, ∅⟩, fun _ _ => none⟩

def step (watched : Watched Cid) : Event Cid → Watched Cid
  | .packet now message =>
    let universeId := message.header.universeId.toNat
    match watched.inflator.handlers.lookup universeId with
    | none => { watched with inflator := watched.inflator.handlePDUData now message }
    | some handler =>
      ⟨watched.inflator.handlePDUData now message,
        Function.update watched.last universeId (record (watched.last universeId) message
          (accepts watched.inflator.ignorePreview handler now message))⟩
  | .setHandler universeId buffer priority =>
    { watched with inflator := watched.inflator.setHandler universeId buffer priority }
  | .removeHandler universeId =>
    { watched with inflator := watched.inflator.removeHandler universeId }

/-- Every handler tracks its sources. -/
def AllTracked (watched : Watched Cid) : Prop :=
  ∀ universeId handler, watched.inflator.handlers.lookup universeId = some handler →
    Tracked watched.inflator.ignorePreview handler (watched.last universeId)

variable {watched : Watched Cid}

theorem lookup_packet {now : Int} {message : DMPMessage Cid} {universeId : Nat}
    {handler : UniverseHandler Cid}
    (found : (watched.step (.packet now message)).inflator.handlers.lookup universeId =
      some handler) :
    ∃ before, watched.inflator.handlers.lookup universeId = some before ∧
      (handler = before ∧
          (watched.step (.packet now message)).last universeId = watched.last universeId ∨
        handler = before.handle watched.inflator.ignorePreview now message ∧
          (watched.step (.packet now message)).last universeId =
            record (watched.last universeId) message
              (accepts watched.inflator.ignorePreview before now message)) := by
  cases known : watched.inflator.handlers.lookup message.header.universeId.toNat with
  | none =>
    simp only [step, known, DMPE131Inflator.handlePDUData] at found ⊢
    exact ⟨handler, found, .inl ⟨rfl, trivial⟩⟩
  | some before =>
    simp only [step, known, DMPE131Inflator.handlePDUData] at found ⊢
    rw [lookup_insert_eq] at found
    split at found
    · rename_i same
      rw [same, Function.update_self]
      exact ⟨before, known, .inr ⟨(Option.some.inj found).symm, rfl⟩⟩
    · rename_i different
      rw [Function.update_of_ne different]
      exact ⟨handler, found, .inl ⟨rfl, rfl⟩⟩

theorem step_ignorePreview (watched : Watched Cid) (event : Event Cid) :
    (watched.step event).inflator.ignorePreview = watched.inflator.ignorePreview := by
  cases event with
  | packet now message =>
    cases known : watched.inflator.handlers.lookup message.header.universeId.toNat with
    | none | some handler => simp only [step, known, DMPE131Inflator.handlePDUData]
  | setHandler universeId buffer priority | removeHandler universeId => rfl

theorem AllTracked.step (tracked : watched.AllTracked) (event : Event Cid) :
    (watched.step event).AllTracked := by
  intro universeId handler found
  rw [step_ignorePreview]
  cases event with
  | packet now message =>
    obtain ⟨before, known, ⟨rfl, same⟩ | ⟨rfl, same⟩⟩ := lookup_packet found
    · rw [same]
      exact tracked universeId handler known
    · rw [same]
      exact ((tracked universeId before known).handle now message).1
  | setHandler other buffer priority =>
    change (watched.inflator.setHandler other buffer priority).handlers.lookup universeId =
      some handler at found
    unfold DMPE131Inflator.setHandler at found
    rw [lookup_insert_eq] at found
    split at found
    · rename_i same
      rw [same]
      cases known : watched.inflator.handlers.lookup other with
      | none =>
        rw [known] at found
        rw [← Option.some.inj found]
        exact ⟨⟨nodup_nil, Nat.zero_le _, fun _ => rfl⟩, fun _ none => by cases none⟩
      | some before =>
        rw [known] at found
        rw [← Option.some.inj found]
        have held := tracked other before known
        exact ⟨⟨held.orderly.distinct, held.orderly.few, held.orderly.idle⟩, held.holds⟩
    · exact tracked universeId handler found
  | removeHandler other =>
    change (watched.inflator.handlers.erase other).lookup universeId = some handler at found
    rw [lookup_erase_eq] at found
    split at found
    · cases found
    · exact tracked universeId handler found

theorem allTracked_run (ignorePreview : Bool) (events : List (Event Cid)) :
    (run Watched.step (initial ignorePreview) events).AllTracked := by
  apply @run_invariant _ _ Watched.step (fun _ _ => True) AllTracked
    (fun _ event tracked _ => tracked.step event) _ events
  · intro universeId handler found
    cases found
  · exact permitted_true _ _ _

end Watched

/-- After any packets the handlers track their sources: they are not too many and have different
CIDs, what was last accepted from each had the active priority, which is 0 without any; and
whenever the closure of a handler is run by a packet, its buffer is the HTP merge of what was last
accepted from them, and its priority the active one. -/
theorem sources_tracked [DecidableEq Cid] (ignorePreview : Bool) (events : List (Event Cid)) :
    (run Watched.step (Watched.initial ignorePreview) events).AllTracked ∧
      ∀ now message universeId before handler,
        (run Watched.step (Watched.initial ignorePreview) events).inflator.handlers.lookup
          universeId = some before →
        (run Watched.step (Watched.initial ignorePreview)
          (events ++ [.packet now message])).inflator.handlers.lookup universeId = some handler →
        handler.runs ≠ before.runs →
        Merged (run Watched.step (Watched.initial ignorePreview)
            (events ++ [.packet now message])).inflator.ignorePreview handler
          ((run Watched.step (Watched.initial ignorePreview)
            (events ++ [.packet now message])).last universeId) := by
  have tracked := @Watched.allTracked_run Cid _ ignorePreview events
  refine ⟨tracked, ?_⟩
  intro now message universeId before handler known found ran
  rw [run_append, run_cons, run_nil] at found ⊢
  obtain ⟨same, there, ⟨rfl, _⟩ | ⟨rfl, last⟩⟩ := Watched.lookup_packet found
  · rw [Option.some.inj (there.symm.trans known)] at ran
    exact absurd rfl ran
  · rw [last, Watched.step_ignorePreview]
    rw [Option.some.inj (there.symm.trans known)] at ran ⊢
    exact ((tracked universeId before known).handle now message).2 ran

/-- A packet for universe 1 with one slot, at priority 100. -/
def oneSlot (cid : Nat) (sequence value : UInt8) : DMPMessage Nat :=
  ⟨dmpSetPropertyVector, cid, ⟨[], 100, sequence, 1, false, false, false⟩, ⟨0xa1⟩,
    [0, 0, 0, 1, 0, 2, 0, value]⟩

def oneSource : List (Event Nat) := [.setHandler 1 .new (some 0), .packet 0 (oneSlot 7 0 10)]

theorem second_source_merged :
    ∃ handler, (run Watched.step (Watched.initial true)
        (oneSource ++ [.packet 5 (oneSlot 8 0 20)])).inflator.handlers.lookup 1 = some handler ∧
      handler.sources.length = 2 ∧
      Merged true handler ((run Watched.step (Watched.initial true)
        (oneSource ++ [.packet 5 (oneSlot 8 0 20)])).last 1) := by
  refine ⟨_, rfl, by decide +kernel, ?_⟩
  exact (sources_tracked true oneSource).2 5 (oneSlot 8 0 20) 1 _ _ rfl rfl (by decide +kernel)

end OpenLighting.E131
