import OpenLighting.SlpStore

namespace OpenLighting.Slp

open TransitionSystem FiniteMap

/-- A store with the types whose lists `Reset` has deleted. The map still points to them. -/
structure StoreMemory where
  store : SLPStore
  deleted : Finset (List UInt8)

namespace StoreMemory

inductive Call where
  | op (op : SLPStore.Op)
  | reset

def initial : StoreMemory := ⟨.empty, ∅⟩

/-- The call reads a list that was deleted. -/
def usesDeleted (memory : StoreMemory) : SLPStore.Op → Bool
  | .insert _ service _ => decide (service.serviceType ∈ memory.deleted)
  | .remove service => decide (service.serviceType ∈ memory.deleted)
  | .lookup _ _ rawServiceType _ => decide (slpGetCanonicalString rawServiceType ∈ memory.deleted)
  | .clean _ => decide (memory.deleted ≠ ∅)

/-- `Reset`, which deletes the lists and leaves the map as it is. -/
def reset (memory : StoreMemory) : Option StoreMemory :=
  if memory.deleted ≠ ∅ then none
  else some { memory with deleted := memory.store.lists.keys.toFinset }

/-- After a deleted list is used nothing is known. -/
def step : Option StoreMemory → Call → Option StoreMemory
  | none, _ => none
  | some memory, .op op =>
    if memory.usesDeleted op then none else some { memory with store := memory.store.step op }
  | some memory, .reset => memory.reset

def liveAt (now : Int) (store : SLPStore) (serviceType : List UInt8) :
    Option (List ServiceEntry) :=
  (store.lists.lookup serviceType).map (fun list => (list.maybeCleanURLList now).services)

/-- An `Insert` that fails changes neither the types nor what is live. -/
def FailureKeeps (store : SLPStore) : Call → Prop
  | .op (.insert now service fresh) =>
    (store.insert now service fresh).2 ≠ .slpOk →
      (∀ serviceType, serviceType ∈ (store.insert now service fresh).1.lists ↔
        serviceType ∈ store.lists) ∧
      ∀ serviceType, liveAt now (store.insert now service fresh).1 serviceType =
        liveAt now store serviceType
  | _ => True

/-- Nothing is found and no type is left. -/
structure Emptied (memory : StoreMemory) : Prop where
  count : memory.store.serviceTypeCount = 0
  lookups : ∀ now scopes rawServiceType limit,
    slpGetCanonicalString rawServiceType ∉ memory.deleted ∧
      (memory.store.lookup now scopes rawServiceType limit).2 = []

/-- What a call should do. -/
def Sound (state : Option StoreMemory) (call : Call) : Prop :=
  ∃ before after, state = some before ∧ step state call = some after ∧
    after.store.AllDistinct ∧ FailureKeeps before.store call ∧ (call = .reset → Emptied after)

/-- Only a fresh entry is inserted where there is no list for its type, and only a store without
types is reset. -/
def Careful (state : Option StoreMemory) : Call → Prop
  | .op (.insert _ service fresh) =>
    fresh = true ∨ ∃ before ∈ state, service.serviceType ∈ before.store.lists
  | .op _ => True
  | .reset => ∃ before ∈ state, before.store.lists.keys = []

/-- No list was deleted. -/
def Intact (state : Option StoreMemory) : Prop :=
  ∃ memory, state = some memory ∧ memory.deleted = ∅ ∧ memory.store.AllDistinct

section Steps
variable {memory : StoreMemory} {store : SLPStore} {now : Int} {service : ServiceEntry}

theorem usesDeleted_eq_false (undeleted : memory.deleted = ∅) (op : SLPStore.Op) :
    memory.usesDeleted op = false := by
  cases op <;> simp [usesDeleted, undeleted]

/-- A second ageing at the same time does nothing. -/
theorem maybeClean_maybeClean (list : ServiceList) (now : Int) :
    (list.maybeCleanURLList now).maybeCleanURLList now = list.maybeCleanURLList now := by
  by_cases recent : list.elapsedSeconds now = 0
  · simp [ServiceList.maybeCleanURLList, recent]
  · have aged : list.maybeCleanURLList now =
        ⟨now, list.services.filterMap (ServiceList.age (list.elapsedSeconds now))⟩ := if_neg recent
    rw [aged]
    apply if_pos
    simp [ServiceList.elapsedSeconds]

variable {fresh : Bool}

theorem insertOrUpdate_failed {services : List ServiceEntry}
    (failed : (insertOrUpdateEntry services service fresh).2 ≠ .slpOk) :
    (insertOrUpdateEntry services service fresh).1 = services := by
  revert failed
  unfold insertOrUpdateEntry
  split
  · split
    · exact fun failed => absurd rfl failed
    · exact fun _ => rfl
  · split
    · exact fun _ => rfl
    · split
      · exact fun failed => absurd rfl failed
      · exact fun _ => rfl

/-- Where the type has a list, a failed `Insert` only ages it. -/
theorem failureKeeps_of_mem (known : service.serviceType ∈ store.lists) :
    FailureKeeps store (.op (.insert now service fresh)) := by
  intro failed
  obtain ⟨list, found⟩ := Option.isSome_iff_exists.mp (AList.lookup_isSome.mpr known)
  have listed : store.listFor now service.serviceType = list.maybeCleanURLList now := by
    rw [SLPStore.listFor, found]
  have same := insertOrUpdate_failed failed
  constructor
  · intro serviceType
    rw [← AList.lookup_isSome, ← AList.lookup_isSome, SLPStore.lookup_insert]
    split
    · rename_i here
      rw [here, found]
      exact iff_of_true rfl rfl
    · exact Iff.rfl
  · intro serviceType
    rw [liveAt, liveAt, SLPStore.lookup_insert]
    split
    · rename_i here
      rw [here, found, same, listed, Option.map_some, Option.map_some]
      exact congrArg (fun list => some (ServiceList.services list)) (maybeClean_maybeClean list now)
    · rfl

theorem insert_code_of_unknown (unknown : service.serviceType ∉ store.lists) :
    (store.insert now service fresh).2 = if fresh then .slpOk else .invalidUpdate := by
  have missing : store.lists.lookup service.serviceType = none := AList.lookup_eq_none.mpr unknown
  have listed : store.listFor now service.serviceType = ⟨now, []⟩ := by
    rw [SLPStore.listFor, missing]
  simp only [SLPStore.insert, listed, insertOrUpdateEntry, findService, List.find?_nil]
  cases fresh with
  | false | true => rfl

/-- An `Insert` keeps the rest if it fails, other than an update of a type without a list. -/
theorem failureKeeps_iff :
    FailureKeeps store (.op (.insert now service fresh)) ↔
      fresh = true ∨ service.serviceType ∈ store.lists := by
  by_cases known : service.serviceType ∈ store.lists
  · exact iff_of_true (failureKeeps_of_mem known) (.inr known)
  · have code := @insert_code_of_unknown store now service fresh known
    cases fresh with
    | true =>
      refine iff_of_true ?_ (.inl rfl)
      exact fun failed => absurd code failed
    | false =>
      refine iff_of_false ?_ (by simp [known])
      intro keeps
      have failed : (store.insert now service false).2 ≠ .slpOk := by
        rw [code]
        decide
      apply known
      rw [← (keeps failed).1, ← AList.lookup_isSome, SLPStore.lookup_insert, if_pos rfl]
      rfl

theorem emptied_of_nil (nothing : memory.store.lists.keys = []) :
    Emptied { memory with deleted := memory.store.lists.keys.toFinset } := by
  constructor
  · simp [SLPStore.serviceTypeCount, nothing]
  · intro now scopes rawServiceType limit
    have missing : memory.store.lists.lookup (slpGetCanonicalString rawServiceType) = none := by
      rw [AList.lookup_eq_none, AList.mem_keys, nothing]
      exact List.not_mem_nil
    constructor
    · simp [nothing]
    · simp [SLPStore.lookup, missing]

theorem sound_op_iff (undeleted : memory.deleted = ∅) (distinct : memory.store.AllDistinct)
    (op : SLPStore.Op) :
    Sound (some memory) (.op op) ↔ FailureKeeps memory.store (.op op) := by
  have defined : step (some memory) (.op op) =
      some { memory with store := memory.store.step op } := by
    rw [step, usesDeleted_eq_false undeleted, if_neg Bool.false_ne_true]
  constructor
  · intro sound
    obtain ⟨before, _, same, _, _, keeps, _⟩ := sound
    rwa [Option.some.inj same]
  · intro keeps
    exact ⟨memory, _, rfl, defined, distinct.step op, keeps, fun impossible => by cases impossible⟩

theorem sound_reset_iff (undeleted : memory.deleted = ∅) (distinct : memory.store.AllDistinct) :
    Sound (some memory) .reset ↔ memory.store.lists.keys = [] := by
  have defined : step (some memory) .reset =
      some { memory with deleted := memory.store.lists.keys.toFinset } := by
    rw [step, reset, if_neg (not_not_intro undeleted)]
  constructor
  · intro sound
    obtain ⟨_, after, _, stepped, _, _, emptied⟩ := sound
    have count := (emptied rfl).count
    rw [← Option.some.inj (defined.symm.trans stepped)] at count
    exact List.length_eq_zero_iff.mp count
  · intro nothing
    exact ⟨memory, _, rfl, defined, distinct, trivial, fun _ => emptied_of_nil nothing⟩

theorem sound_iff_careful {state : Option StoreMemory} {call : Call} (intact : Intact state) :
    Sound state call ↔ Careful state call := by
  obtain ⟨memory, rfl, undeleted, distinct⟩ := intact
  cases call with
  | op op =>
    rw [sound_op_iff undeleted distinct op]
    cases op with
    | insert now service fresh => simp [failureKeeps_iff, Careful]
    | remove service | lookup now scopes rawServiceType limit | clean now => exact Iff.rfl
  | reset =>
    rw [sound_reset_iff undeleted distinct]
    simp [Careful]

theorem Intact.step {state : Option StoreMemory} {call : Call} (intact : Intact state)
    (careful : Careful state call) : Intact (step state call) := by
  obtain ⟨memory, rfl, undeleted, distinct⟩ := intact
  cases call with
  | op op =>
    refine ⟨{ memory with store := memory.store.step op }, ?_, undeleted, distinct.step op⟩
    rw [StoreMemory.step, usesDeleted_eq_false undeleted, if_neg Bool.false_ne_true]
  | reset =>
    obtain ⟨before, same, nothing⟩ := careful
    rw [← Option.some.inj same] at nothing
    refine ⟨{ memory with deleted := memory.store.lists.keys.toFinset }, ?_, ?_, distinct⟩
    · rw [StoreMemory.step, reset, if_neg (not_not_intro undeleted)]
    · simp [nothing]

end Steps

/-- Every call of a run does what it should exactly if the calls are careful. -/
theorem store_integrity_iff (calls : List Call) :
    (∀ past call future, calls = past ++ call :: future →
      Sound (run step (some initial) past) call) ↔
      Permitted step Careful (some initial) calls :=
  @steps_iff_permitted _ _ step Careful Sound Intact (fun _ _ => Intact.step)
    (fun _ _ => sound_iff_careful) (some initial) calls
    ⟨initial, rfl, rfl, SLPStore.allDistinct_empty⟩

/-- `a://b`, of the type `a` in the scope `c`. -/
def someService : ServiceEntry := ⟨⟨[97, 58, 47, 47, 98], 60⟩, [97], .parse [99], true⟩

/-- An update of an unknown service leaves a list for its type behind, and a store that is reset
still counts its types. -/
theorem failed_update_and_reset_leave_types :
    ¬ Sound (run step (some initial) []) (.op (.insert 0 someService false)) ∧
      ¬ Sound (run step (some initial) [.op (.insert 0 someService true)]) .reset := by
  constructor
  · rw [run_nil, sound_op_iff rfl SLPStore.allDistinct_empty, failureKeeps_iff]
    rintro (fresh | known)
    · cases fresh
    · exact absurd known (AList.notMem_empty _)
  · have distinct : (run step (some initial) [.op (.insert 0 someService true)]) =
        some ⟨SLPStore.empty.step (.insert 0 someService true), ∅⟩ := rfl
    rw [distinct, sound_reset_iff rfl (SLPStore.allDistinct_empty.step _)]
    decide +kernel

end StoreMemory

end OpenLighting.Slp
