import OpenLighting.UniverseMerging

/- The priority that is sent with the buffer of a universe. -/
namespace OpenLighting.Universe

/-- Who is sent the buffer. -/
inductive Dependant where
  | port (port : OutputPort)
  | client (client : Client)

/-- `UpdateDependants`: the data and the priority that an output port or a sink client is given. -/
def updateDependants (state : Universe) : Dependant → Option (DmxBuffer × UInt8)
  | .port port =>
    if port ∈ state.outputPorts then some (state.buffer, state.activePriority) else none
  | .client client =>
    if client ∈ state.sinkClients then some (state.buffer, state.activePriority) else none

/-- `SetDMX`, with what it sends. -/
def setDmx (state : Universe) (buffer : DmxBuffer) :
    Universe × (Dependant → Option (DmxBuffer × UInt8)) :=
  if buffer.size = 0 then (state, fun _ => none)
  else
    let state := { state with buffer := (state.buffer.setBuffer buffer).1 }
    (state, state.updateDependants)

/-- Nothing of a merge is to be seen, also not when data is set later. -/
structure Unaffected (before after : Universe) : Prop where
  buffer : after.buffer = before.buffer
  priority : after.activePriority = before.activePriority
  sent : ∀ data, (after.setDmx data).2 = (before.setDmx data).2

/-- The source that has changed leads, and in LTP mode no other leading source is newer. -/
def Effective (state : Universe) (sourceData : Source → DmxSource) (now : TimeVal)
    (changed : Source) : Prop :=
  Leading state.sources sourceData now changed ∧
    (state.mergeMode = .ltp → ∀ other, Leading state.sources sourceData now other →
      (sourceData changed).timestamp.before (sourceData other).timestamp = false)

/-- A priority is that of the leading sources, or the lowest if no source is active. -/
def IsHighest (state : Universe) (sourceData : Source → DmxSource) (now : TimeVal)
    (priority : UInt8) : Prop :=
  (∃ source, Leading state.sources sourceData now source ∧
      (sourceData source).priority = priority) ∨
    (∀ source ∈ state.sources, eligible now (sourceData source) = false) ∧
      priority = sourcePriorityMin

section Scanning

variable {sourceData : Source → DmxSource} {now : TimeVal} {changed : Source}

theorem before_self (time : TimeVal) : time.before time = false := by
  unfold TimeVal.before
  simp

variable (state : Universe)

theorem isHighest_iff (priority : UInt8) : state.IsHighest sourceData now priority ↔
      priority = (scanAll sourceData now changed state.sources).activePriority := by
  have attained : (scanAll sourceData now changed state.sources).Attained :=
    Scan.Attained.foldl (Or.inr rfl) state.sources
  have kept := @mem_activeSources sourceData now changed state.sources
  have none : (∀ source ∈ state.sources, eligible now (sourceData source) = false) →
      (scanAll sourceData now changed state.sources).activePriority = sourcePriorityMin := by
    intro idle
    refine attained.resolve_left ?_
    intro some
    obtain ⟨data, member⟩ := List.exists_mem_of_ne_nil _ some
    obtain ⟨source, leading, _⟩ := (kept data).mp member
    have active := leading.2.1
    rw [idle source leading.1] at active
    cases active
  constructor
  · rintro (⟨source, leading, same⟩ | ⟨idle, lowest⟩)
    · rw [← same]
      exact ((leading_iff state.sources source).mp leading).2.2
    · rw [lowest, none idle]
  · intro same
    by_cases some : (scanAll sourceData now changed state.sources).activeSources = []
    · right
      have lowest := attained.resolve_left (fun other => other some)
      refine ⟨?_, same.trans lowest⟩
      intro source member
      by_contra active
      rw [Bool.not_eq_false] at active
      have below := (@scanAll_scanned sourceData now changed state.sources).below source member active
      have leading : Leading state.sources sourceData now source := by
        rw [leading_iff state.sources source]
        refine ⟨member, active, ?_⟩
        rw [lowest] at below ⊢
        exact UInt8.le_antisymm below UInt8.zero_le
      have stored := (kept (sourceData source)).mpr ⟨source, leading, rfl⟩
      rw [some] at stored
      cases stored
    · left
      obtain ⟨data, member⟩ := List.exists_mem_of_ne_nil _ some
      obtain ⟨source, leading, _⟩ := (kept data).mp member
      exact ⟨source, leading, same ▸ ((leading_iff state.sources source).mp leading).2.2⟩

/-- Whether the second half of `MergeAll` returns true. -/
def mergeEffect (mode : MergeMode) (changedSource : DmxSource) (scan : Scan) : Bool :=
  if scan.changedSourceIsActive = false then false
  else
    match scan.activeSources with
    | [] => false
    | [_] => true
    | sources =>
      match mode with
      | .ltp => !sources.any (fun source => changedSource.timestamp.before source.timestamp)
      | .htp => true

theorem mergeAll_eq (sourceData : Source → DmxSource) (now : TimeVal) (changed : Source) :
    state.mergeAll sourceData now changed =
      ({ state with
          activePriority := (scanAll sourceData now changed state.sources).activePriority
          buffer := mergedBuffer state.buffer state.mergeMode (sourceData changed)
            (scanAll sourceData now changed state.sources) },
        mergeEffect state.mergeMode (sourceData changed)
          (scanAll sourceData now changed state.sources)) := by
  unfold mergeAll mergedBuffer mergeEffect
  simp only [← scanAll_sources]
  generalize scanAll sourceData now changed state.sources = scan
  obtain ⟨priority, active, flag⟩ := scan
  cases flag with
  | false => cases active <;> rfl
  | true =>
    cases active with
    | nil => rfl
    | cons first rest =>
      cases rest with
      | nil => rfl
      | cons second rest =>
        cases state.mergeMode with
        | htp => rfl
        | ltp =>
          simp only [List.isEmpty_cons, Bool.false_eq_true, if_false, reduceCtorEq]
          cases (first :: second :: rest).any
              (fun source => (sourceData changed).timestamp.before source.timestamp) <;> rfl

theorem mergedBuffer_of_no_effect {mode : MergeMode} {changedSource : DmxSource} {scan : Scan}
    (none : mergeEffect mode changedSource scan = false) (buffer : DmxBuffer) :
    mergedBuffer buffer mode changedSource scan = buffer := by
  obtain ⟨priority, active, flag⟩ := scan
  cases flag with
  | false => rfl
  | true =>
    cases active with
    | nil => rfl
    | cons first rest =>
      cases rest with
      | nil => cases none
      | cons second rest =>
        cases mode with
        | htp => cases none
        | ltp =>
          have newer := @Bool.not_inj _ true none
          unfold mergedBuffer
          simp only [Bool.true_eq_false, if_false, newer, if_true]

theorem mergeEffect_iff : mergeEffect state.mergeMode (sourceData changed)
        (scanAll sourceData now changed state.sources) = true ↔
      state.Effective sourceData now changed := by
  have active := @changedSourceIsActive_iff sourceData now changed state.sources
  have kept := @mem_activeSources sourceData now changed state.sources
  unfold mergeEffect Effective
  by_cases leading : Leading state.sources sourceData now changed
  · have single := activeSources_single (sources_nodup state) leading
    have own := (kept (sourceData changed)).mpr ⟨changed, leading, rfl⟩
    rw [active.mpr leading, if_neg (by decide)]
    cases stored : (scanAll sourceData now changed state.sources).activeSources with
    | nil =>
      rw [stored] at own
      cases own
    | cons first rest =>
      rw [stored] at kept single
      cases rest with
      | nil =>
        apply iff_of_true rfl
        refine ⟨leading, ?_⟩
        intro _ other elsewhere
        rw [single.mp ⟨first, rfl⟩ other elsewhere]
        exact before_self _
      | cons second rest =>
        cases mode : state.mergeMode with
        | htp =>
          apply iff_of_true rfl
          exact ⟨leading, fun ltp => by cases ltp⟩
        | ltp =>
          have newest : (!(first :: second :: rest).any
              (fun source => (sourceData changed).timestamp.before source.timestamp)) = true ↔
              ∀ data ∈ first :: second :: rest,
                (sourceData changed).timestamp.before data.timestamp = false := by
            simp
          rw [newest]
          constructor
          · intro newer
            refine ⟨leading, ?_⟩
            intro _ other elsewhere
            exact newer _ ((kept _).mpr ⟨other, elsewhere, rfl⟩)
          · rintro ⟨_, newer⟩ data member
            obtain ⟨other, elsewhere, same⟩ := (kept data).mp member
            rw [← same]
            exact newer rfl other elsewhere
  · have idle : (scanAll sourceData now changed state.sources).changedSourceIsActive = false :=
      Bool.eq_false_iff.mpr (fun flag => leading (active.mp flag))
    rw [if_pos idle]
    apply iff_of_false (by decide)
    rintro ⟨found, _⟩
    exact leading found

end Scanning

theorem mergeAll_effect_iff (state : Universe) (sourceData : Source → DmxSource) (now : TimeVal)
    (changed : Source) :
    (state.mergeAll sourceData now changed).2 = true ↔ state.Effective sourceData now changed := by
  rw [mergeAll_eq]
  exact mergeEffect_iff state

theorem mergeAll_priority_iff (state : Universe) (sourceData : Source → DmxSource) (now : TimeVal)
    (changed : Source) (priority : UInt8) :
    (state.mergeAll sourceData now changed).1.activePriority = priority ↔
      state.IsHighest sourceData now priority := by
  rw [mergeAll_eq, @isHighest_iff sourceData now changed state]
  exact eq_comm

theorem mergeAll_of_no_effect {state : Universe} {sourceData : Source → DmxSource} {now : TimeVal}
    {changed : Source} (none : (state.mergeAll sourceData now changed).2 = false) :
    (state.mergeAll sourceData now changed).1 =
      { state with
        activePriority := (state.mergeAll sourceData now changed).1.activePriority } := by
  rw [mergeAll_eq] at none ⊢
  rw [mergedBuffer_of_no_effect none]

/-- A merge without effect is not to be seen exactly if the highest priority is still the one from
before. -/
theorem mergeAll_unaffected_iff (state : Universe) (sourceData : Source → DmxSource)
    (now : TimeVal) (changed : Source) :
    ((state.mergeAll sourceData now changed).2 = false →
        Unaffected state (state.mergeAll sourceData now changed).1) ↔
      state.Effective sourceData now changed ∨
        state.IsHighest sourceData now state.activePriority := by
  rw [← mergeAll_effect_iff, ← mergeAll_priority_iff state sourceData now changed]
  cases effect : (state.mergeAll sourceData now changed).2 with
  | true =>
    apply iff_of_true
    · intro none
      cases none
    · exact .inl rfl
  | false =>
    have after := mergeAll_of_no_effect effect
    constructor
    · intro hidden
      exact .inr (hidden rfl).priority
    · rintro (some | same) _
      · cases some
      · rw [same] at after
        rw [after]
        exact ⟨rfl, rfl, fun _ => rfl⟩

/-- A source of priority 200 that is silent since 100 s, and two of lower priorities. -/
def silentSource : Source → DmxSource
  | .port 1 => ⟨.holding [10], ⟨100, 0⟩, 200⟩
  | .port 2 => ⟨.holding [20], ⟨102, 0⟩, 100⟩
  | _ => ⟨.holding [30], ⟨103, 0⟩, 50⟩

/-- The universe after the first source was merged. -/
def threePorts : Universe :=
  ({ new 1 with inputPorts := [1, 2, 3], outputPorts := [1], distinctInputs := by decide,
                distinctOutputs := by decide }.mergeAll silentSource ⟨100, 0⟩ (.port 1)).1

/-- The third source has no effect, but data that is set later is sent with the priority of the
second. -/
theorem silent_affected :
    (threePorts.mergeAll silentSource ⟨103, 0⟩ (.port 3)).2 = false ∧
      threePorts.activePriority = 200 ∧
      ¬ Unaffected threePorts (threePorts.mergeAll silentSource ⟨103, 0⟩ (.port 3)).1 := by
  refine ⟨by decide, by decide, ?_⟩
  intro unaffected
  exact absurd unaffected.priority (by decide)

end OpenLighting.Universe
