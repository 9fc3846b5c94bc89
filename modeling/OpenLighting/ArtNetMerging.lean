import OpenLighting.ArtNetPort
import OpenLighting.TransitionSystem
import Mathlib.Data.List.Perm.Basic

/- What a port tracks, and what it shows, after an ArtDmx packet. -/
namespace OpenLighting.ArtNet

open OpenLighting.Network SlotMaximum TransitionSystem List OutputPort

/-- The sources in the slots. -/
def tracked (slots : List DMXSource) : List DMXSource :=
  slots.filter (fun slot => slot.address ≠ wildcard)

/-- The other sources that are heard from. -/
def othersSince (threshold : Int) (address : IPV4Address) (slots : List DMXSource) :
    List DMXSource :=
  (tracked slots).filter (fun slot => slot.address ≠ address ∧ threshold ≤ slot.timestamp)

/-- No source has two slots. -/
def Distinct (slots : List DMXSource) : Prop := ((tracked slots).map DMXSource.address).Nodup

section Scanning

variable {threshold : Int} {address : IPV4Address}

/-- What the loop leaves in a slot. -/
def kept (threshold : Int) (address : IPV4Address) (slot : DMXSource) : DMXSource :=
  if slot.address = address then slot else OutputPort.timeOut threshold slot

/-- What the loop knows of the slots that it has seen. -/
structure Scanned (threshold : Int) (address : IPV4Address) (seen : List DMXSource)
    (scan : OutputPort.Scan) : Prop where
  sources : scan.sources = seen.map (kept threshold address)
  active : scan.activeSources = (othersSince threshold address seen).length
  known : scan.sourceSlot = maxMergeSources ∧ (∀ slot ∈ seen, slot.address ≠ address) ∨
    ∃ slot, scan.sources[scan.sourceSlot]? = some slot ∧ slot.address = address
  empty : scan.firstEmptySlot = maxMergeSources ∧
      (∀ slot ∈ scan.sources, slot.address ≠ address → slot.address ≠ wildcard) ∨
    ∃ slot, scan.sources[scan.firstEmptySlot]? = some slot ∧ slot.address = wildcard

theorem othersSince_append (first second : List DMXSource) :
    othersSince threshold address (first ++ second) =
      othersSince threshold address first ++ othersSince threshold address second := by
  unfold othersSince tracked
  rw [filter_append, filter_append]

variable {slot : DMXSource} {seen : List DMXSource} {scan : OutputPort.Scan}

variable {slots : List DMXSource}

theorem getElem?_concat_of_some {slots : List DMXSource} {index : Nat} {last : DMXSource}
    (found : slots[index]? = some slot) : (slots ++ [last])[index]? = some slot := by
  obtain ⟨inside, -⟩ := List.getElem?_eq_some_iff.mp found
  rw [List.getElem?_append_left inside, found]

theorem kept_own (own : slot.address = address) :
    kept threshold address slot = slot := if_pos own

theorem kept_other (other : slot.address ≠ address) :
    kept threshold address slot = timeOut threshold slot := if_neg other

/-- A slot that is not the packet's is one of the others, or is empty afterwards. -/
theorem othersSince_other (other : slot.address ≠ address) :
    othersSince threshold address [slot] =
      if (OutputPort.timeOut threshold slot).address ≠ wildcard then [slot] else [] := by
  unfold othersSince tracked timeOut
  by_cases old : slot.timestamp < threshold
  · rw [if_pos old, if_neg (fun differs => differs rfl)]
    have late : ¬ threshold ≤ slot.timestamp := Int.not_le.mpr old
    by_cases empty : slot.address = wildcard
    · simp [empty]
    · simp [empty, late]
  · have recent : threshold ≤ slot.timestamp := Int.not_lt.mp old
    rw [if_neg old]
    by_cases empty : slot.address = wildcard
    · simp [empty]
    · simp [empty, other, recent]

theorem othersSince_own (own : slot.address = address) :
    othersSince threshold address [slot] = [] := by
  unfold othersSince tracked
  by_cases empty : slot.address = wildcard
  · simp [empty]
  · simp [own]

theorem Scanned.own (scanned : Scanned threshold address seen scan) (own : slot.address = address) :
    Scanned threshold address (seen ++ [slot]) (scan.consider threshold address slot) := by
  unfold OutputPort.Scan.consider
  rw [if_pos own]
  refine ⟨?_, ?_, Or.inr ⟨slot, List.getElem?_concat_length, own⟩, ?_⟩
  · rw [map_append, ← scanned.sources]
    show _ = scan.sources ++ [kept threshold address slot]
    rw [kept_own own]
  · rw [othersSince_append, othersSince_own own, append_nil]
    exact scanned.active
  · rcases scanned.empty with ⟨max, full⟩ | ⟨empty, found, wild⟩
    · refine Or.inl ⟨max, fun other member => ?_⟩
      rcases mem_append.mp member with before | last
      · exact full other before
      · rw [mem_singleton.mp last]
        exact fun differs => absurd own differs
    · exact Or.inr ⟨empty, getElem?_concat_of_some found, wild⟩

/-- What is known of the packet's own slot after another one. -/
theorem Scanned.known_other {seen : List DMXSource} {scan : OutputPort.Scan}
    {slot last : DMXSource} (scanned : Scanned threshold address seen scan)
    (other : slot.address ≠ address) :
    scan.sourceSlot = maxMergeSources ∧ (∀ another ∈ seen ++ [slot], another.address ≠ address) ∨
      ∃ own, (scan.sources ++ [last])[scan.sourceSlot]? = some own ∧ own.address = address := by
  rcases scanned.known with ⟨max, none⟩ | ⟨own, found, same⟩
  · refine Or.inl ⟨max, fun another member => ?_⟩
    rcases mem_append.mp member with before | last
    · exact none another before
    · rw [mem_singleton.mp last]
      exact other
  · exact Or.inr ⟨own, getElem?_concat_of_some found, same⟩

theorem Scanned.other (scanned : Scanned threshold address seen scan)
    (room : seen.length < maxMergeSources) (other : slot.address ≠ address) :
    Scanned threshold address (seen ++ [slot]) (scan.consider threshold address slot) := by
  have length : scan.sources.length = seen.length := by rw [scanned.sources, length_map]
  have sources : scan.sources ++ [timeOut threshold slot] =
      (seen ++ [slot]).map (kept threshold address) := by
    rw [map_append, ← scanned.sources]
    show _ = scan.sources ++ [kept threshold address slot]
    rw [kept_other other]
  have others := @othersSince_append threshold address seen [slot]
  rw [othersSince_other other] at others
  have known := @Scanned.known_other threshold address seen scan slot
    (timeOut threshold slot) scanned other
  unfold OutputPort.Scan.consider
  rw [if_neg other]
  by_cases heard : (timeOut threshold slot).address ≠ wildcard
  · rw [if_pos heard] at others ⊢
    refine ⟨sources, ?_, known, ?_⟩
    · rw [others, length_append, ← scanned.active]
      rfl
    · rcases scanned.empty with ⟨max, full⟩ | ⟨empty, found, wild⟩
      · refine Or.inl ⟨max, fun another member => ?_⟩
        rcases mem_append.mp member with before | last
        · exact full another before
        · rw [mem_singleton.mp last]
          exact fun _ => heard
      · exact Or.inr ⟨empty, getElem?_concat_of_some found, wild⟩
  · have wild : (timeOut threshold slot).address = wildcard := not_not.mp heard
    rw [if_neg heard] at others ⊢
    rw [append_nil] at others
    by_cases first : scan.sources.length < scan.firstEmptySlot
    · rw [if_pos first]
      refine ⟨sources, by rw [others]; exact scanned.active, known, Or.inr ⟨_, ?_, wild⟩⟩
      exact List.getElem?_concat_length
    · rw [if_neg first]
      refine ⟨sources, by rw [others]; exact scanned.active, known, ?_⟩
      rcases scanned.empty with ⟨max, full⟩ | ⟨empty, found, vacant⟩
      · omega
      · exact Or.inr ⟨empty, getElem?_concat_of_some found, vacant⟩

theorem scanned_foldl (scanned : Scanned threshold address seen scan)
    (room : seen.length + slots.length ≤ maxMergeSources) :
    Scanned threshold address (seen ++ slots)
      (slots.foldl (OutputPort.Scan.consider threshold address) scan) := by
  induction slots generalizing seen scan with
  | nil =>
    rw [append_nil]
    exact scanned
  | cons slot rest ih =>
    rw [length_cons] at room
    rw [foldl_cons, append_cons]
    apply ih
    · by_cases own : slot.address = address
      · exact scanned.own own
      · exact scanned.other (by omega) own
    · rw [length_append, length_singleton]
      omega

/-- What the loop finds. -/
theorem scanned_scan (full : slots.length = maxMergeSources) :
    Scanned threshold address slots (OutputPort.scan threshold address slots) := by
  have start : Scanned threshold address [] ⟨[], maxMergeSources, maxMergeSources, 0⟩ :=
    ⟨rfl, rfl, Or.inl ⟨rfl, fun slot member => absurd member not_mem_nil⟩,
      Or.inl ⟨rfl, fun slot member => absurd member not_mem_nil⟩⟩
  exact scanned_foldl start (by rw [length_nil, Nat.zero_add, full])

end Scanning

section Updating

variable {threshold : Int} {address : IPV4Address}

/-- The port knows a source by its address. -/
def Tracks (port : OutputPort) (address : IPV4Address) : Prop :=
  ∃ slot ∈ port.sources, slot.address = address

/-- The other sources of a port that are heard from within the timeout. -/
def others (port : OutputPort) (now : Int) (address : IPV4Address) : List DMXSource :=
  othersSince (now - mergeTimeout) address port.sources

variable {slots : List DMXSource} {slot source : DMXSource} {port : OutputPort} {now : Int}

theorem split_of_getElem? {index : Nat} (found : slots[index]? = some slot) :
    ∃ front back, slots = front ++ slot :: back ∧
      ∀ source, slots.set index source = front ++ source :: back := by
  obtain ⟨inside, here⟩ := List.getElem?_eq_some_iff.mp found
  refine ⟨slots.take index, slots.drop (index + 1), ?_, fun source => ?_⟩
  · rw [← here, getElem_cons_drop, take_append_drop]
  · exact set_eq_take_append_cons_drop.trans (if_pos inside)

theorem tracked_append (first second : List DMXSource) :
    tracked (first ++ second) = tracked first ++ tracked second := filter_append ..

theorem tracked_cons_real (real : slot.address ≠ wildcard) (rest : List DMXSource) :
    tracked (slot :: rest) = slot :: tracked rest :=
  filter_cons_of_pos (by simpa using real)

theorem tracked_cons_empty (empty : slot.address = wildcard) (rest : List DMXSource) :
    tracked (slot :: rest) = tracked rest :=
  filter_cons_of_neg (by simpa using empty)

/-- The others are what is left in the slots besides the packet's source. -/
theorem othersSince_eq (slots : List DMXSource) :
    othersSince threshold address slots =
      (tracked (slots.map (kept threshold address))).filter (fun slot => slot.address ≠ address) := by
  induction slots with
  | nil => rfl
  | cons slot rest ih =>
    rw [← singleton_append, othersSince_append, ih, map_append, tracked_append,
      filter_append]
    congr 1
    show _ = (tracked [kept threshold address slot]).filter _
    by_cases own : slot.address = address
    · rw [othersSince_own own, kept_own own]
      by_cases empty : slot.address = wildcard
      · rw [tracked_cons_empty empty]
        rfl
      · rw [tracked_cons_real empty, filter_cons_of_neg (by simpa using own)]
        rfl
    · rw [othersSince_other own, kept_other own]
      by_cases empty : (timeOut threshold slot).address = wildcard
      · rw [if_neg (not_not.mpr empty), tracked_cons_empty empty]
        rfl
      · have same : timeOut threshold slot = slot := by
          unfold timeOut at empty ⊢
          split at empty
          · exact absurd rfl empty
          · rename_i recent
            exact if_neg recent
        rw [same] at empty ⊢
        rw [if_pos empty, tracked_cons_real empty, filter_cons_of_pos (by simpa using own)]
        rfl

theorem kept_cases (threshold : Int) (address : IPV4Address) (slot : DMXSource) :
    kept threshold address slot = slot ∨ (kept threshold address slot).address = wildcard := by
  unfold kept timeOut
  split
  · exact Or.inl rfl
  · split
    · exact Or.inr rfl
    · exact Or.inl rfl

theorem tracked_kept (slots : List DMXSource) :
    (tracked (slots.map (kept threshold address))).Sublist (tracked slots) := by
  induction slots with
  | nil => exact List.Sublist.refl []
  | cons slot rest ih =>
    rw [map_cons]
    rcases kept_cases threshold address slot with same | empty
    · rw [same]
      by_cases real : slot.address = wildcard
      · rw [tracked_cons_empty real, tracked_cons_empty real]
        exact ih
      · rw [tracked_cons_real real, tracked_cons_real real]
        exact ih.cons_cons slot
    · rw [tracked_cons_empty empty]
      by_cases real : slot.address = wildcard
      · rw [tracked_cons_empty real]
        exact ih
      · rw [tracked_cons_real real]
        exact ih.cons slot

theorem Distinct.kept (distinct : Distinct slots) :
    Distinct (slots.map (kept threshold address)) :=
  distinct.sublist ((tracked_kept slots).map DMXSource.address)

/-- A slot that is empty or the source's own gets the source. -/
theorem tracked_set {index : Nat} (found : slots[index]? = some slot)
    (real : source.address ≠ wildcard)
    (gone : slot.address = source.address ∧ Distinct slots ∨
      slot.address = wildcard ∧ ∀ other ∈ slots, other.address ≠ source.address) :
    (tracked (slots.set index source)).Perm
      (source :: (tracked slots).filter (fun slot => slot.address ≠ source.address)) := by
  obtain ⟨front, back, shape, set⟩ := split_of_getElem? found
  have around : tracked (front ++ source :: back) =
      tracked front ++ source :: tracked back := by
    rw [tracked_append, tracked_cons_real real]
  have rest : (tracked slots).filter (fun slot => slot.address ≠ source.address) =
      tracked front ++ tracked back := by
    rcases gone with ⟨own, distinct⟩ | ⟨empty, none⟩
    · have own_real : slot.address ≠ wildcard := by rwa [own]
      unfold Distinct at distinct
      rw [shape, tracked_append, tracked_cons_real own_real] at distinct ⊢
      have apart := (perm_middle.map DMXSource.address).nodup distinct
      rw [map_cons, nodup_cons] at apart
      have beside : ∀ other ∈ tracked front ++ tracked back,
          other.address ≠ source.address := by
        intro other member same
        exact apart.1 (mem_map.mpr ⟨other, member, same.trans own.symm⟩)
      rw [filter_append, filter_cons_of_neg (by simpa using own), ← filter_append]
      exact filter_eq_self.mpr (fun other member => by simpa using beside other member)
    · rw [filter_eq_self.mpr (fun other member => by
        simpa using none other (mem_of_mem_filter member)), shape, tracked_append,
        tracked_cons_empty empty]
  rw [set source, around, rest]
  exact perm_middle

/-- What an accepted packet does to a port. -/
structure Accepted (port next : OutputPort) (now : Int) (buffer : DmxBuffer) (source : DMXSource) :
    Prop where
  sources : (tracked next.sources).Perm (source :: others port now source.address)
  shown : next.buffer = some (next.merge source buffer)
  merging : (Tracks port source.address → next.isMerging =
      if (others port now source.address).length = 1 then false else port.isMerging) ∧
    (¬ Tracks port source.address →
      next.isMerging = decide ((others port now source.address).length ≠ 0))
  same : next.universeAddress = port.universeAddress ∧ next.enabled = port.enabled ∧
    next.mergeMode = port.mergeMode ∧ next.onData = port.onData

theorem Accepted.room {next : OutputPort} {buffer : DmxBuffer}
    (accepted : Accepted port next now buffer source) :
    (others port now source.address).length < maxMergeSources := by
  have count := accepted.sources.length_eq
  have most : (tracked next.sources).length ≤ next.sources.length := length_filter_le _ _
  rw [next.full] at most
  rw [length_cons] at count
  omega

theorem kept_address (real : address ≠ wildcard) :
    (kept threshold address slot).address = address ↔ slot.address = address := by
  constructor
  · intro own
    rcases kept_cases threshold address slot with same | empty
    · rwa [same] at own
    · exact absurd (own.symm.trans empty) real
  · intro own
    rw [kept_own own]
    exact own

/-- If no slot is left for a source, all have others that are heard from. -/
theorem othersSince_full (full : slots.length = maxMergeSources)
    (heard : ∀ slot ∈ slots.map (kept threshold address), slot.address ≠ wildcard)
    (unknown : ∀ slot ∈ slots, slot.address ≠ address) :
    slots.map (kept threshold address) = slots ∧
      (othersSince threshold address slots).length = maxMergeSources := by
  have same : slots.map (kept threshold address) = slots := by
    have each : ∀ slot ∈ slots, kept threshold address slot = slot := fun slot member =>
      (kept_cases threshold address slot).resolve_right (heard _ (mem_map_of_mem member))
    calc
      slots.map (kept threshold address) = slots.map id := map_congr_left each
      _ = slots := map_id slots
  rw [same] at heard
  have all : tracked slots = slots :=
    filter_eq_self.mpr (fun slot member => by simpa using heard slot member)
  have rest : slots.filter (fun slot => slot.address ≠ address) = slots :=
    filter_eq_self.mpr (fun slot member => by simpa using unknown slot member)
  refine ⟨same, ?_⟩
  rw [othersSince_eq, same, all, rest, full]

/-- Slots that are as they were leave the port as it was. -/
theorem with_same_sources (port : OutputPort) (slots : List DMXSource)
    (full : slots.length = maxMergeSources) (same : slots = port.sources) :
    { port with
      sources := slots
      full := full } = port := by
  subst same
  rfl

/-- A packet is accepted, or all slots have other sources that are heard from. -/
theorem updatePortFromSource_cases {port : OutputPort} {source : DMXSource}
    (distinct : Distinct port.sources) (real : source.address ≠ wildcard) (now : Int)
    (buffer : DmxBuffer) :
    ((port.updatePortFromSource now buffer source).2 = true ∧
        Accepted port (port.updatePortFromSource now buffer source).1 now buffer source) ∨
      ((port.updatePortFromSource now buffer source) = (port, false) ∧
        ¬ Tracks port source.address ∧
        (others port now source.address).length = maxMergeSources) := by
  have scanned := @scanned_scan (now - mergeTimeout) source.address port.sources port.full
  have length : (scan (now - mergeTimeout) source.address port.sources).sources.length =
      maxMergeSources := by rw [scanned.sources, length_map, port.full]
  have rest := @othersSince_eq (now - mergeTimeout) source.address port.sources
  rw [← scanned.sources] at rest
  unfold updatePortFromSource
  by_cases unknown : (scan (now - mergeTimeout) source.address
      port.sources).sourceSlot = maxMergeSources
  · have none : ∀ slot ∈ port.sources, slot.address ≠ source.address := by
      rcases scanned.known with ⟨-, none⟩ | ⟨slot, found, -⟩
      · exact none
      · rw [unknown, List.getElem?_eq_none (Nat.le_of_eq length)] at found
        cases found
    have none_kept : ∀ slot ∈ (scan (now - mergeTimeout) source.address
        port.sources).sources, slot.address ≠ source.address := by
      intro slot member
      rw [scanned.sources] at member
      obtain ⟨before, inside, rfl⟩ := mem_map.mp member
      exact fun own => none before inside ((kept_address real).mp own)
    have untracked : ¬ Tracks port source.address := fun ⟨slot, member, own⟩ => none slot member own
    rw [if_pos unknown]
    by_cases max : (scan (now - mergeTimeout) source.address
        port.sources).firstEmptySlot = maxMergeSources
    · rw [if_pos max]
      have heard : ∀ slot ∈ port.sources.map (kept (now - mergeTimeout) source.address),
          slot.address ≠ wildcard := by
        rw [← scanned.sources]
        rcases scanned.empty with ⟨-, heard⟩ | ⟨slot, found, -⟩
        · exact fun slot member => heard slot member (none_kept slot member)
        · rw [max, List.getElem?_eq_none (Nat.le_of_eq length)] at found
          cases found
      have all := othersSince_full port.full heard none
      refine Or.inr ⟨?_, untracked, all.2⟩
      rw [with_same_sources port _ length (scanned.sources.trans all.1)]
    · rw [if_neg max]
      refine Or.inl ⟨rfl, ?_, rfl, ⟨fun known => absurd known untracked, fun _ => ?_⟩,
        rfl, rfl, rfl, rfl⟩
      · rcases scanned.empty with ⟨full, -⟩ | ⟨slot, found, empty⟩
        · omega
        · have set := tracked_set found real (Or.inr ⟨empty, none_kept⟩)
          rwa [← rest] at set
      · rw [scanned.active]
        rfl
  · obtain ⟨slot, found, own⟩ := scanned.known.resolve_left (fun missing => unknown missing.1)
    have known : Tracks port source.address := by
      have member := mem_of_getElem? found
      rw [scanned.sources] at member
      obtain ⟨before, inside, rfl⟩ := mem_map.mp member
      exact ⟨before, inside, (kept_address real).mp own⟩
    rw [if_neg unknown]
    refine Or.inl ⟨rfl, ?_, rfl, ⟨fun _ => ?_, fun new => ?_⟩, rfl, rfl, rfl, rfl⟩
    · have set := tracked_set found real (Or.inl ⟨own, by rw [scanned.sources]; exact distinct.kept⟩)
      rwa [← rest] at set
    · rw [scanned.active]
      rfl
    · exact absurd known new

theorem mem_others {address : IPV4Address} :
    slot ∈ others port now address ↔
      slot ∈ tracked port.sources ∧ slot.address ≠ address ∧ now - mergeTimeout ≤ slot.timestamp := by
  unfold others othersSince
  rw [mem_filter, decide_eq_true_iff]

theorem mem_tracked :
    slot ∈ tracked slots ↔ slot ∈ slots ∧ slot.address ≠ wildcard := by
  unfold tracked
  rw [mem_filter, decide_eq_true_iff]

/-- Every source still has one slot at most. -/
theorem Accepted.distinct {next : OutputPort} {buffer : DmxBuffer}
    (accepted : Accepted port next now buffer source) (distinct : Distinct port.sources) :
    Distinct next.sources := by
  apply ((accepted.sources.map DMXSource.address).nodup_iff).mpr
  rw [map_cons, nodup_cons]
  constructor
  · intro member
    obtain ⟨other, inside, same⟩ := mem_map.mp member
    exact (mem_others.mp inside).2.1 same
  · exact distinct.sublist (filter_sublist.map DMXSource.address)

/-- The merge shows the largest value that a tracked source has for each slot. -/
theorem htpMerge_maximum (buffer : DmxBuffer) (some : tracked slots ≠ []) :
    IsMaximum {row | ∃ slot ∈ tracked slots, row = slot.buffer.slots}
      (OutputPort.htpMerge buffer slots).slots := by
  unfold htpMerge
  cases shape : tracked slots with
  | nil => exact absurd shape some
  | cons first rest =>
    rw [show slots.filter (fun slot => slot.address ≠ wildcard) = first :: rest from shape]
    rw [DmxBuffer.foldl_htpMerge_slots]
    have alone : IsMaximum {row | row = first.buffer.slots} first.buffer.slots := by
      constructor
      · intro row member index value found
        rw [show row = first.buffer.slots from member] at found
        exact ⟨value, found, UInt8.le_refl value⟩
      · exact fun index top found => ⟨_, rfl, found⟩
    have merged := alone.foldl (rest.map (fun slot => slot.buffer.slots))
    have same : {row | row ∈ rest.map (fun slot => slot.buffer.slots) ∨
        row ∈ {row | row = first.buffer.slots}} =
          {row | ∃ slot ∈ first :: rest, row = slot.buffer.slots} := by
      ext row
      simp only [Set.mem_ofPred_eq, mem_map, mem_cons, exists_eq_or_imp]
      rw [or_comm]
      apply or_congr Iff.rfl
      exact exists_congr (fun slot => and_congr Iff.rfl eq_comm)
    rwa [same] at merged

end Updating

end OpenLighting.ArtNet
