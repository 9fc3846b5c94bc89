import OpenLighting.Universe

namespace OpenLighting.Universe

open List

/-- Where data comes from. -/
inductive Source where
  | port (port : InputPort)
  | client (client : Client)
  deriving DecidableEq

/-- What the two loops of `MergeAll` keep. -/
structure Scan where
  activePriority : UInt8
  activeSources : List DmxSource
  changedSourceIsActive : Bool

/-- The sources that the loops do not skip. -/
def eligible (now : TimeVal) (source : DmxSource) : Bool :=
  source.isSet && source.isActive now && source.data.size != 0

/-- The body of both loops. -/
def Scan.consider (sourceData : Source → DmxSource) (now : TimeVal) (changed : Source)
    (scan : Scan) (candidate : Source) : Scan :=
  let source := sourceData candidate
  if eligible now source then
    let scan := if scan.activePriority < source.priority then ⟨source.priority, [], false⟩ else scan
    if source.priority = scan.activePriority then
      { scan with
        activeSources := scan.activeSources ++ [source]
        changedSourceIsActive := scan.changedSourceIsActive || candidate == changed }
    else scan
  else scan

variable (buffer : DmxBuffer)

def htpMergeSources (sources : List DmxSource) : DmxBuffer :=
  sources.foldl (fun buffer source => buffer.htpMerge source.data) buffer.reset

def mergeAll (state : Universe) (sourceData : Source → DmxSource) (now : TimeVal)
    (changed : Source) : Universe × Bool :=
  let consider := Scan.consider sourceData now changed
  let scan : Scan := state.inputPorts.foldl (fun scan port => consider scan (.port port))
    ⟨sourcePriorityMin, [], false⟩
  let scan := state.sourceClients.keys.foldl (fun scan client => consider scan (.client client)) scan
  let state := { state with activePriority := scan.activePriority }
  if scan.activeSources.isEmpty then (state, false)
  else if scan.changedSourceIsActive = false then (state, false)
  else
    match scan.activeSources with
    | [source] => ({ state with buffer := (state.buffer.setBuffer source.data).1 }, true)
    | sources =>
      match state.mergeMode with
      | .ltp =>
        let changedSource := sourceData changed
        if sources.any (fun source => changedSource.timestamp.before source.timestamp) then
          (state, false)
        else ({ state with buffer := (state.buffer.setBuffer changedSource.data).1 }, true)
      | .htp => ({ state with buffer := htpMergeSources state.buffer sources }, true)

def portDataChanged (state : Universe) (sourceData : Source → DmxSource) (now : TimeVal)
    (port : InputPort) : Universe × Bool :=
  if port ∈ state.inputPorts then ((state.mergeAll sourceData now (.port port)).1, true)
  else (state, false)

def sourceClientDataChanged (state : Universe) (sourceData : Source → DmxSource) (now : TimeVal)
    (client : Client) : Universe × Bool :=
  (((state.addSourceClient client).mergeAll sourceData now (.client client)).1, true)

/-- The call that a source makes when its data has changed. -/
def dataChanged (state : Universe) (sourceData : Source → DmxSource) (now : TimeVal) :
    Source → Universe × Bool
  | .port port => state.portDataChanged sourceData now port
  | .client client => state.sourceClientDataChanged sourceData now client

def sources (state : Universe) : List Source :=
  state.inputPorts.map .port ++ state.sourceClients.keys.map .client

/-- An eligible source that no other one has a higher priority than. -/
def Leading (sources : List Source) (sourceData : Source → DmxSource) (now : TimeVal)
    (source : Source) : Prop :=
  source ∈ sources ∧ eligible now (sourceData source) = true ∧
    ∀ other ∈ sources, eligible now (sourceData other) = true →
      (sourceData other).priority ≤ (sourceData source).priority

/-- What the buffer becomes when the data of a source has changed. -/
structure Merged (sources : List Source) (sourceData : Source → DmxSource) (now : TimeVal)
    (mode : MergeMode) (changed : Source) (before after : DmxBuffer) : Prop where
  ignored : ¬ Leading sources sourceData now changed → after = before
  alone : Leading sources sourceData now changed →
    (∀ other, Leading sources sourceData now other → other = changed) →
    after = (sourceData changed).data
  latest : Leading sources sourceData now changed →
    (∃ other, Leading sources sourceData now other ∧ other ≠ changed) → mode = .ltp →
    (∀ other, Leading sources sourceData now other →
      (sourceData changed).timestamp.before (sourceData other).timestamp = false) →
    after = (sourceData changed).data
  outdated : Leading sources sourceData now changed →
    (∃ other, Leading sources sourceData now other ∧ other ≠ changed) → mode = .ltp →
    (∃ other, Leading sources sourceData now other ∧
      (sourceData changed).timestamp.before (sourceData other).timestamp = true) →
    after = before
  highest : Leading sources sourceData now changed →
    (∃ other, Leading sources sourceData now other ∧ other ≠ changed) → mode = .htp →
    after.allocated = true ∧
      SlotMaximum.IsMaximum
        {row | ∃ other, Leading sources sourceData now other ∧ row = (sourceData other).data.slots}
        after.slots

section Scanning

variable {sourceData : Source → DmxSource} {now : TimeVal} {changed : Source}

/-- What is known after a part of the sources. -/
structure Scanned (sourceData : Source → DmxSource) (now : TimeVal) (changed : Source)
    (seen : List Source) (scan : Scan) : Prop where
  below : ∀ source ∈ seen, eligible now (sourceData source) = true →
    (sourceData source).priority ≤ scan.activePriority
  kept : scan.activeSources = (seen.filter (fun source => eligible now (sourceData source) &&
    (sourceData source).priority == scan.activePriority)).map sourceData
  flagged : scan.changedSourceIsActive = true ↔ changed ∈ seen ∧
    eligible now (sourceData changed) = true ∧ (sourceData changed).priority = scan.activePriority
theorem scanned_nil (sourceData : Source → DmxSource) (now : TimeVal) (changed : Source) :
    Scanned sourceData now changed [] ⟨sourcePriorityMin, [], false⟩ := by
  constructor <;> simp

variable {seen : List Source} {candidate : Source} {scan : Scan}

/-- The sources of the active priority among some with one more. -/
theorem filter_concat {priority : UInt8} :
    ((seen ++ [candidate]).filter (fun source => eligible now (sourceData source) &&
      (sourceData source).priority == priority)).map sourceData =
      (seen.filter (fun source => eligible now (sourceData source) &&
        (sourceData source).priority == priority)).map sourceData ++
        if eligible now (sourceData candidate) = true ∧ (sourceData candidate).priority = priority
        then [sourceData candidate] else [] := by
  rw [filter_append, map_append, filter_singleton]
  by_cases active : eligible now (sourceData candidate) = true ∧
      (sourceData candidate).priority = priority
  · simp [active]
  · rw [if_neg active]
    have skipped : (eligible now (sourceData candidate) &&
        (sourceData candidate).priority == priority) = false := by
      rw [Bool.eq_false_iff, ne_eq, Bool.and_eq_true, beq_iff_eq]
      exact active
    rw [skipped]
    rfl

section
variable (scanned : Scanned sourceData now changed seen scan)
include scanned

theorem Scanned.skip
    (below : eligible now (sourceData candidate) = true →
      (sourceData candidate).priority < scan.activePriority) :
    Scanned sourceData now changed (seen ++ [candidate]) scan := by
  have passed : ¬ (eligible now (sourceData candidate) = true ∧
      (sourceData candidate).priority = scan.activePriority) := by
    intro both
    exact UInt8.ne_of_lt (below both.1) both.2
  constructor
  · intro source member eligible
    rcases mem_append.mp member with earlier | last
    · exact scanned.below source earlier eligible
    · rw [mem_singleton.mp last] at eligible ⊢
      exact UInt8.le_of_lt (below eligible)
  · rw [filter_concat, if_neg passed, append_nil]
    exact scanned.kept
  · rw [scanned.flagged, mem_append, mem_singleton]
    constructor
    · rintro ⟨member, rest⟩
      exact ⟨Or.inl member, rest⟩
    · rintro ⟨member | rfl, rest⟩
      · exact ⟨member, rest⟩
      · exact absurd rest passed

/-- A source of the active priority joins the others. -/
theorem Scanned.join
    (active : eligible now (sourceData candidate) = true ∧
      (sourceData candidate).priority = scan.activePriority) :
    Scanned sourceData now changed (seen ++ [candidate])
      { scan with
        activeSources := scan.activeSources ++ [sourceData candidate]
        changedSourceIsActive := scan.changedSourceIsActive || candidate == changed } := by
  constructor
  · intro source member eligible
    rcases mem_append.mp member with earlier | last
    · exact scanned.below source earlier eligible
    · rw [mem_singleton.mp last]
      exact UInt8.le_of_eq active.2
  · rw [filter_concat, if_pos active, ← scanned.kept]
  · rw [Bool.or_eq_true, scanned.flagged, beq_iff_eq, mem_append, mem_singleton]
    constructor
    · rintro (⟨member, rest⟩ | rfl)
      · exact ⟨Or.inl member, rest⟩
      · exact ⟨Or.inr rfl, active⟩
    · rintro ⟨member | same, rest⟩
      · exact Or.inl ⟨member, rest⟩
      · exact Or.inr same.symm

/-- A higher priority displaces the sources so far. -/
theorem Scanned.displace {priority : UInt8} (above : scan.activePriority < priority) :
    Scanned sourceData now changed seen ⟨priority, [], false⟩ := by
  have lower : ∀ source ∈ seen, eligible now (sourceData source) = true →
      (sourceData source).priority < priority := by
    intro source member active
    exact UInt8.lt_of_le_of_lt (scanned.below source member active) above
  constructor
  · intro source member active
    exact UInt8.le_of_lt (lower source member active)
  · symm
    rw [map_eq_nil_iff, filter_eq_nil_iff]
    intro source member both
    rw [Bool.and_eq_true, beq_iff_eq] at both
    exact UInt8.ne_of_lt (lower source member both.1) both.2
  · constructor
    · intro flag
      cases flag
    · rintro ⟨member, active, same⟩
      exact absurd same (UInt8.ne_of_lt (lower changed member active))

theorem Scanned.consider (candidate : Source) :
    Scanned sourceData now changed (seen ++ [candidate])
      (scan.consider sourceData now changed candidate) := by
  unfold Scan.consider
  by_cases active : eligible now (sourceData candidate) = true
  · by_cases above : scan.activePriority < (sourceData candidate).priority
    · simp only [active, above, if_true]
      exact (scanned.displace above).join ⟨active, rfl⟩
    · by_cases same : (sourceData candidate).priority = scan.activePriority
      · simp only [active, above, if_true, if_false]
        rw [if_pos same]
        exact scanned.join ⟨active, same⟩
      · simp only [active, above, same, if_true, if_false]
        apply scanned.skip
        intro _
        exact UInt8.lt_of_le_of_ne (UInt8.not_lt.mp above) same
  · simp only [active, Bool.false_eq_true, if_false]
    exact scanned.skip (fun eligible => absurd eligible active)

theorem Scanned.foldl (candidates : List Source) :
    Scanned sourceData now changed (seen ++ candidates)
      (candidates.foldl (Scan.consider sourceData now changed) scan) := by
  induction candidates generalizing seen scan with
  | nil =>
    rw [append_nil]
    exact scanned
  | cons candidate candidates ih =>
    rw [append_cons, foldl_cons]
    exact ih (scanned.consider candidate)

end

/-- The active priority is that of some source, unless there is none. -/
def Scan.Attained (scan : Scan) : Prop :=
  scan.activeSources ≠ [] ∨ scan.activePriority = sourcePriorityMin

theorem Scan.Attained.foldl (attained : scan.Attained) (candidates : List Source) :
    (candidates.foldl (Scan.consider sourceData now changed) scan).Attained := by
  induction candidates generalizing scan with
  | nil => exact attained
  | cons candidate candidates ih =>
    apply ih
    unfold Scan.consider
    by_cases active : eligible now (sourceData candidate) = true
    · by_cases above : scan.activePriority < (sourceData candidate).priority
      · simp [active, above, Attained]
      · by_cases same : (sourceData candidate).priority = scan.activePriority
        · simp [active, same, Attained]
        · simpa [active, above, same] using attained
    · simpa [active] using attained

def scanAll (sourceData : Source → DmxSource) (now : TimeVal) (changed : Source)
    (candidates : List Source) : Scan :=
  candidates.foldl (Scan.consider sourceData now changed) ⟨sourcePriorityMin, [], false⟩

variable (candidates : List Source)

theorem scanAll_scanned :
    Scanned sourceData now changed candidates (scanAll sourceData now changed candidates) :=
  (scanned_nil sourceData now changed).foldl candidates

/-- The leading sources are those that the scan keeps. -/
theorem leading_iff (source : Source) :
    Leading candidates sourceData now source ↔ source ∈ candidates ∧
      eligible now (sourceData source) = true ∧
      (sourceData source).priority = (scanAll sourceData now changed candidates).activePriority := by
  have scanned : Scanned sourceData now changed candidates
      (scanAll sourceData now changed candidates) := scanAll_scanned candidates
  have attained : (scanAll sourceData now changed candidates).Attained :=
    Scan.Attained.foldl (Or.inr rfl) candidates
  constructor
  · rintro ⟨member, active, top⟩
    refine ⟨member, active, UInt8.le_antisymm (scanned.below source member active) ?_⟩
    rcases attained with kept | lowest
    · rw [scanned.kept, ne_eq, map_eq_nil_iff] at kept
      obtain ⟨other, found⟩ := exists_mem_of_ne_nil _ kept
      rw [mem_filter, Bool.and_eq_true, beq_iff_eq] at found
      rw [← found.2.2]
      exact top other found.1 found.2.1
    · rw [lowest]
      exact UInt8.zero_le
  · rintro ⟨member, active, same⟩
    refine ⟨member, active, ?_⟩
    intro other elsewhere eligible
    rw [same]
    exact scanned.below other elsewhere eligible

theorem mem_activeSources (data : DmxSource) :
    data ∈ (scanAll sourceData now changed candidates).activeSources ↔
      ∃ source, Leading candidates sourceData now source ∧ sourceData source = data := by
  rw [(scanAll_scanned candidates).kept, mem_map]
  constructor
  · rintro ⟨source, found, same⟩
    rw [mem_filter, Bool.and_eq_true, beq_iff_eq] at found
    exact ⟨source, (leading_iff candidates source).mpr found, same⟩
  · rintro ⟨source, leading, same⟩
    refine ⟨source, ?_, same⟩
    rw [mem_filter, Bool.and_eq_true, beq_iff_eq]
    exact (leading_iff candidates source).mp leading

theorem changedSourceIsActive_iff :
    (scanAll sourceData now changed candidates).changedSourceIsActive = true ↔
      Leading candidates sourceData now changed :=
  (scanAll_scanned candidates).flagged.trans (leading_iff candidates changed).symm

theorem activeSources_single {candidates : List Source} (distinct : candidates.Nodup)
    (leading : Leading candidates sourceData now changed) :
    (∃ data, (scanAll sourceData now changed candidates).activeSources = [data]) ↔
      ∀ other, Leading candidates sourceData now other → other = changed := by
  rw [(scanAll_scanned candidates).kept]
  set check := fun source => eligible now (sourceData source) &&
    (sourceData source).priority == (scanAll sourceData now changed candidates).activePriority
  have kept : ∀ source, Leading candidates sourceData now source ↔
      source ∈ candidates.filter check := by
    intro source
    rw [leading_iff candidates source, mem_filter, Bool.and_eq_true, beq_iff_eq]
  constructor
  · rintro ⟨data, single⟩ other elsewhere
    obtain ⟨source, alone, _⟩ := map_eq_singleton_iff.mp single
    have first := (kept other).mp elsewhere
    have second := (kept changed).mp leading
    rw [alone, mem_singleton] at first second
    rw [first, second]
  · intro only
    refine ⟨sourceData changed, map_eq_singleton_iff.mpr ⟨changed, ?_, rfl⟩⟩
    apply perm_singleton.mp
    apply (perm_ext_iff_of_nodup (distinct.filter _) (nodup_singleton changed)).mpr
    intro other
    rw [← kept, mem_singleton]
    constructor
    · exact only other
    · rintro rfl
      exact leading

end Scanning

section Merging

variable {sourceData : Source → DmxSource} {now : TimeVal} {changed : Source} (state : Universe)

theorem sources_nodup : state.sources.Nodup := by
  apply List.Nodup.append
  · exact state.distinctInputs.map (fun _ _ same => Source.port.inj same)
  · exact state.sourceClients.keys_nodup.map (fun _ _ same => Source.client.inj same)
  · intro source port client
    obtain ⟨_, _, rfl⟩ := mem_map.mp port
    obtain ⟨_, _, different⟩ := mem_map.mp client
    cases different

/-- The buffer that the second half of `MergeAll` leaves behind. -/
def mergedBuffer (mode : MergeMode) (changedSource : DmxSource) (scan : Scan) : DmxBuffer :=
  if scan.changedSourceIsActive = false then buffer
  else
    match scan.activeSources with
    | [] => buffer
    | [source] => (buffer.setBuffer source.data).1
    | sources =>
      match mode with
      | .ltp =>
        if sources.any (fun source => changedSource.timestamp.before source.timestamp) then buffer
        else (buffer.setBuffer changedSource.data).1
      | .htp => htpMergeSources buffer sources

/-- The two loops of `MergeAll` are one over all the sources. -/
theorem scanAll_sources : scanAll sourceData now changed state.sources =
      state.sourceClients.keys.foldl
        (fun scan client => Scan.consider sourceData now changed scan (.client client))
        (state.inputPorts.foldl
          (fun scan port => Scan.consider sourceData now changed scan (.port port))
          ⟨sourcePriorityMin, [], false⟩) := by
  unfold scanAll sources
  rw [foldl_append, foldl_map, foldl_map]

theorem mergeAll_buffer (sourceData : Source → DmxSource) (now : TimeVal) (changed : Source) :
    (state.mergeAll sourceData now changed).1.buffer =
      mergedBuffer state.buffer state.mergeMode (sourceData changed)
        (scanAll sourceData now changed state.sources) := by
  unfold mergeAll mergedBuffer
  simp only [← scanAll_sources]
  generalize scanAll sourceData now changed state.sources = scan
  obtain ⟨priority, active, flag⟩ := scan
  cases flag with
  | false => cases active <;> rfl
  | true =>
    match active with
    | [] | [source] => rfl
    | first :: second :: rest =>
      cases mode : state.mergeMode with
      | htp => rfl
      | ltp =>
        simp only [isEmpty_cons, Bool.false_eq_true, if_false, reduceCtorEq]
        split <;> rfl

variable {candidates : List Source} {first second : Universe}

theorem setBuffer_of_leading {source : Source} (leading : Leading candidates sourceData now source)
    (buffer : DmxBuffer) :
    (buffer.setBuffer (sourceData source).data).1 = (sourceData source).data := by
  have active := leading.2.1
  unfold eligible at active
  rw [Bool.and_eq_true, bne_iff_ne] at active
  exact DmxBuffer.setBuffer_of_allocated buffer (DmxBuffer.allocated_of_size active.2)

theorem htpMergeSources_allocated {sources : List DmxSource}
    (some : sources ≠ []) : (htpMergeSources buffer sources).allocated = true := by
  obtain ⟨init, last, rfl⟩ := eq_nil_or_concat' sources |>.resolve_left some
  unfold htpMergeSources
  rw [foldl_append]
  rfl

theorem htpMergeSources_maximum (sources : List DmxSource) :
    SlotMaximum.IsMaximum {row | ∃ source ∈ sources, row = source.data.slots}
      (htpMergeSources buffer sources).slots :=
  DmxBuffer.foldl_htpMerge_maximum DmxSource.data buffer sources

/-- Several sources are merged when more than one is leading. -/
theorem activeSources_several (distinct : candidates.Nodup)
    (leading : Leading candidates sourceData now changed)
    (several : ∃ other, Leading candidates sourceData now other ∧ other ≠ changed) :
    ∃ first second rest,
      (scanAll sourceData now changed candidates).activeSources = first :: second :: rest := by
  have single := activeSources_single distinct leading
  have kept : sourceData changed ∈ (scanAll sourceData now changed candidates).activeSources :=
    (mem_activeSources candidates _).mpr ⟨changed, leading, rfl⟩
  obtain ⟨other, elsewhere, different⟩ := several
  match sources : (scanAll sourceData now changed candidates).activeSources with
  | [] =>
    rw [sources] at kept
    cases kept
  | [data] => exact absurd (single.mp ⟨data, sources⟩ other elsewhere) different
  | first :: second :: rest => exact ⟨first, second, rest, rfl⟩

theorem mergedBuffer_merged :
    Merged state.sources sourceData now state.mergeMode changed state.buffer
      (mergedBuffer state.buffer state.mergeMode (sourceData changed)
        (scanAll sourceData now changed state.sources)) := by
  have distinct := state.sources_nodup
  have flag := @changedSourceIsActive_iff sourceData now changed state.sources
  have kept := @mem_activeSources sourceData now changed state.sources
  unfold mergedBuffer
  constructor
  · intro inactive
    rw [if_pos (Bool.eq_false_iff.mpr (fun active => inactive (flag.mp active)))]
  · intro leading only
    obtain ⟨data, single⟩ := (activeSources_single distinct leading).mpr only
    have same : sourceData changed = data := by
      have member := (kept (sourceData changed)).mpr ⟨changed, leading, rfl⟩
      rwa [single, mem_singleton] at member
    rw [if_neg (Bool.not_eq_false _ ▸ flag.mpr leading), single]
    rw [← same]
    exact setBuffer_of_leading leading state.buffer
  · intro leading several mode newest
    obtain ⟨first, second, rest, sources⟩ := activeSources_several distinct leading several
    have none : (first :: second :: rest).any
        (fun source => (sourceData changed).timestamp.before source.timestamp) = false := by
      rw [any_eq_false, ← sources]
      intro data member
      obtain ⟨other, elsewhere, rfl⟩ := (kept data).mp member
      rw [newest other elsewhere]
      exact Bool.false_ne_true
    rw [if_neg (Bool.not_eq_false _ ▸ flag.mpr leading), sources]
    simp only [mode, none, Bool.false_eq_true, if_false]
    exact setBuffer_of_leading leading state.buffer
  · intro leading several mode outdated
    obtain ⟨first, second, rest, sources⟩ := activeSources_several distinct leading several
    have some : (first :: second :: rest).any
        (fun source => (sourceData changed).timestamp.before source.timestamp) = true := by
      rw [any_eq_true, ← sources]
      obtain ⟨other, elsewhere, newer⟩ := outdated
      exact ⟨sourceData other, (kept _).mpr ⟨other, elsewhere, rfl⟩, newer⟩
    rw [if_neg (Bool.not_eq_false _ ▸ flag.mpr leading), sources]
    simp only [mode, some, if_true]
  · intro leading several mode
    obtain ⟨first, second, rest, sources⟩ := activeSources_several distinct leading several
    rw [if_neg (Bool.not_eq_false _ ▸ flag.mpr leading), sources]
    simp only [mode]
    rw [← sources]
    constructor
    · apply htpMergeSources_allocated
      rw [sources]
      exact cons_ne_nil _ _
    · have maximum := htpMergeSources_maximum state.buffer
        (scanAll sourceData now changed state.sources).activeSources
      have same : {row | ∃ source ∈ (scanAll sourceData now changed state.sources).activeSources,
          row = source.data.slots} =
          {row | ∃ other, Leading state.sources sourceData now other ∧
            row = (sourceData other).data.slots} := by
        ext row
        constructor
        · rintro ⟨data, member, rfl⟩
          obtain ⟨other, elsewhere, rfl⟩ := (kept data).mp member
          exact ⟨other, elsewhere, rfl⟩
        · rintro ⟨other, elsewhere, rfl⟩
          exact ⟨sourceData other, (kept _).mpr ⟨other, elsewhere, rfl⟩, rfl⟩
      rwa [same] at maximum

/-- What the buffer becomes is settled by which sources there are. -/
theorem Merged.unique {mode : MergeMode} {before first second : DmxBuffer}
    (left : Merged candidates sourceData now mode changed before first)
    (right : Merged candidates sourceData now mode changed before second) : first = second := by
  by_cases leading : Leading candidates sourceData now changed
  · by_cases several : ∃ other, Leading candidates sourceData now other ∧ other ≠ changed
    · cases mode with
      | htp =>
        have top := left.highest leading several rfl
        have peak := right.highest leading several rfl
        exact DmxBuffer.ext (top.1.trans peak.1.symm) (top.2.unique peak.2)
      | ltp =>
        by_cases outdated : ∃ other, Leading candidates sourceData now other ∧
            (sourceData changed).timestamp.before (sourceData other).timestamp = true
        · rw [left.outdated leading several rfl outdated,
            right.outdated leading several rfl outdated]
        · have newest : ∀ other, Leading candidates sourceData now other →
              (sourceData changed).timestamp.before (sourceData other).timestamp = false := by
            intro other elsewhere
            rw [Bool.eq_false_iff]
            intro newer
            exact outdated ⟨other, elsewhere, newer⟩
          rw [left.latest leading several rfl newest, right.latest leading several rfl newest]
    · have only : ∀ other, Leading candidates sourceData now other → other = changed := by
        intro other elsewhere
        by_contra different
        exact several ⟨other, elsewhere, different⟩
      rw [left.alone leading only, right.alone leading only]
  · rw [left.ignored leading, right.ignored leading]

theorem leading_congr {candidates others : List Source}
    (same : ∀ source, source ∈ candidates ↔ source ∈ others) :
    Leading candidates sourceData now = Leading others sourceData now := by
  funext source
  unfold Leading
  simp only [same]

theorem Merged.reorder {others : List Source} {mode : MergeMode} {before after : DmxBuffer}
    (same : ∀ source, source ∈ candidates ↔ source ∈ others)
    (merged : Merged candidates sourceData now mode changed before after) :
    Merged others sourceData now mode changed before after := by
  have leading := @leading_congr sourceData now candidates others same
  constructor
  · exact leading ▸ merged.ignored
  · exact leading ▸ merged.alone
  · exact leading ▸ merged.latest
  · exact leading ▸ merged.outdated
  · exact leading ▸ merged.highest

/-- Two universes that differ in the order of their ports and clients. -/
structure Reordered (first second : Universe) : Prop where
  ports : first.inputPorts.Perm second.inputPorts
  clients : first.sourceClients.entries.Perm second.sourceClients.entries
  mode : first.mergeMode = second.mergeMode
  buffer : first.buffer = second.buffer

theorem Reordered.addSourceClient (reordered : Reordered first second) (client : Client) :
    Reordered (first.addSourceClient client) (second.addSourceClient client) :=
  ⟨reordered.ports, AList.perm_insert reordered.clients, reordered.mode, reordered.buffer⟩

theorem Reordered.sources (reordered : Reordered first second) (source : Source) :
    source ∈ first.sources ↔ source ∈ second.sources := by
  apply List.Perm.mem_iff
  exact (reordered.ports.map _).append ((reordered.clients.map Sigma.fst).map _)

/-- `MergeAll` merges the leading sources, in whatever order they are stored. -/
theorem mergeAll_merged : Merged state.sources sourceData now state.mergeMode changed state.buffer
      (state.mergeAll sourceData now changed).1.buffer := by
  rw [mergeAll_buffer]
  exact mergedBuffer_merged state

theorem mergeAll_reordered (reordered : Reordered first second) :
    (second.mergeAll sourceData now changed).1.buffer =
      (first.mergeAll sourceData now changed).1.buffer := by
  have left := (@mergeAll_merged sourceData now changed first).reorder reordered.sources
  rw [reordered.mode, reordered.buffer] at left
  exact (@mergeAll_merged sourceData now changed second).unique left

theorem mergeAll_sources : (state.mergeAll sourceData now changed).1.sources = state.sources := by
  unfold mergeAll
  dsimp only
  split
  · rfl
  · split
    · rfl
    · split
      · rfl
      · split
        · split <;> rfl
        · rfl

/-- The buffer of a universe when the data of one of its sources has changed: only
the sources of the highest priority count, and not the order they are stored in. -/
theorem dataChanged_merged (state : Universe) (sourceData : Source → DmxSource) (now : TimeVal)
    (changed : Source) (bound : ∀ port, changed = .port port → port ∈ state.inputPorts) :
    Merged (state.dataChanged sourceData now changed).1.sources sourceData now state.mergeMode
        changed state.buffer (state.dataChanged sourceData now changed).1.buffer ∧
      ∀ other, Reordered state other →
        (other.dataChanged sourceData now changed).1.buffer =
          (state.dataChanged sourceData now changed).1.buffer := by
  cases changed with
  | port port =>
    have member := bound port rfl
    constructor
    · simp only [dataChanged, portDataChanged, if_pos member]
      rw [mergeAll_sources]
      exact mergeAll_merged state
    · intro other reordered
      simp only [dataChanged, portDataChanged, if_pos member,
        if_pos (reordered.ports.mem_iff.mp member)]
      exact mergeAll_reordered reordered
  | client client =>
    constructor
    · simp only [dataChanged, sourceClientDataChanged]
      rw [mergeAll_sources]
      exact mergeAll_merged (state.addSourceClient client)
    · intro other reordered
      exact mergeAll_reordered (reordered.addSourceClient client)

/-- A universe with two input ports that merges their data. -/
def twoPorts : Universe :=
  { new 1 with
    mergeMode := .htp
    inputPorts := [1, 2]
    distinctInputs := by decide }

def twoPortsData : Source → DmxSource
  | .port 1 => ⟨.holding [10, 20], ⟨100, 0⟩, 100⟩
  | _ => ⟨.holding [15, 5, 7], ⟨101, 0⟩, 100⟩

theorem twoPorts_merged :
    (twoPorts.dataChanged twoPortsData ⟨102, 0⟩ (.port 1)).1.buffer.slots = [15, 20, 7] ∧
      Merged (twoPorts.dataChanged twoPortsData ⟨102, 0⟩ (.port 1)).1.sources twoPortsData ⟨102, 0⟩
        twoPorts.mergeMode (.port 1) twoPorts.buffer
        (twoPorts.dataChanged twoPortsData ⟨102, 0⟩ (.port 1)).1.buffer := by
  constructor
  · decide
  · apply (dataChanged_merged twoPorts twoPortsData ⟨102, 0⟩ (.port 1) _).1
    intro port same
    cases same
    decide

end Merging

end OpenLighting.Universe
