import Mathlib.Data.List.AList

/- What is found in an association list that maps keys to values of one type. -/
namespace FiniteMap

variable {κ β : Type*} [DecidableEq κ] (map : AList (fun _ : κ => β))

theorem lookup_insert_eq (key other : κ) (value : β) :
    (map.insert key value).lookup other = if other = key then some value else map.lookup other := by
  split
  · rename_i same
    rw [same, AList.lookup_insert]
  · rename_i different
    exact AList.lookup_insert_ne different

theorem lookup_erase_eq (key other : κ) :
    (map.erase key).lookup other = if other = key then none else map.lookup other := by
  split
  · rename_i same
    rw [same, AList.lookup_erase]
  · rename_i different
    exact AList.lookup_erase_ne different

/-- What is found in a map, as a function of the key. -/
theorem lookup_insert_update (key : κ) (value : β) :
    (fun other => (map.insert key value).lookup other) =
      Function.update (fun other => map.lookup other) key (some value) := by
  funext other
  rw [lookup_insert_eq, Function.update_apply]

theorem lookup_erase_update (key : κ) : (fun other => (map.erase key).lookup other) =
      Function.update (fun other => map.lookup other) key none := by
  funext other
  rw [lookup_erase_eq, Function.update_apply]

variable {map : AList (fun _ : κ => β)} {key : κ}

theorem mem_of_lookup {value : β} (found : map.lookup key = some value) : key ∈ map := by
  rw [← AList.lookup_isSome, found]
  rfl

theorem length_keys_insert_of_mem (member : key ∈ map) (value : β) :
    (map.insert key value).keys.length = map.keys.length := by
  have inside : key ∈ map.keys := AList.mem_keys.mp member
  have positive := List.length_pos_of_mem inside
  rw [AList.keys_insert, List.length_cons, List.length_erase_of_mem inside]
  omega

theorem length_keys_insert_of_notMem (absent : key ∉ map) (value : β) :
    (map.insert key value).keys.length = map.keys.length + 1 := by
  rw [AList.keys_insert, List.length_cons, List.erase_of_not_mem (fun inside => absent inside)]

/-- The entries that pass a check. -/
def filter (check : κ → β → Bool) (map : AList (fun _ : κ => β)) : AList (fun _ : κ => β) :=
  ⟨map.entries.filter (fun entry => check entry.1 entry.2),
    map.nodupKeys.sublist List.filter_sublist⟩

theorem lookup_filter (check : κ → β → Bool) (map : AList (fun _ : κ => β)) (key : κ) :
    (filter check map).lookup key = (map.lookup key).filter (check key) := by
  apply Option.ext
  intro value
  rw [← Option.mem_def, AList.mem_lookup_iff, ← Option.mem_def, Option.mem_filter_iff,
    AList.mem_lookup_iff]
  exact List.mem_filter

def changeValue (change : β → β) (entry : Sigma (fun _ : κ => β)) : Sigma (fun _ : κ => β) :=
  ⟨entry.1, change entry.2⟩

/-- Every value is replaced by another one. -/
def mapValues (change : β → β) (map : AList (fun _ : κ => β)) : AList (fun _ : κ => β) :=
  ⟨map.entries.map (changeValue change), by
    have same : (map.entries.map (changeValue change)).keys = map.entries.keys := by
      rw [List.keys, List.map_map]
      rfl
    rw [List.NodupKeys, same]
    exact map.nodupKeys⟩

theorem lookup_mapValues (change : β → β) (map : AList (fun _ : κ => β)) (key : κ) :
    (mapValues change map).lookup key = (map.lookup key).map change := by
  unfold mapValues AList.lookup
  dsimp only
  induction map.entries with
  | nil => rfl
  | cons entry rest ih =>
    rw [List.map_cons]
    obtain ⟨first, value⟩ := entry
    by_cases same : first = key
    · rw [same, changeValue, List.dlookup_cons_eq, List.dlookup_cons_eq]
      rfl
    · have different : key ≠ first := fun equal => same equal.symm
      rw [changeValue, List.dlookup_cons_ne _ _ different, List.dlookup_cons_ne _ _ different, ih]

/-- A value that is stored under several keys, one after the other. -/
theorem lookup_insertAll (keys : List κ) (value : β) (map : AList (fun _ : κ => β)) (key : κ) :
    (keys.foldl (fun map key => map.insert key value) map).lookup key =
      if key ∈ keys then some value else map.lookup key := by
  induction keys generalizing map with
  | nil => rw [if_neg (List.not_mem_nil), List.foldl_nil]
  | cons first rest ih =>
    rw [List.foldl_cons, ih, lookup_insert_eq]
    by_cases later : key ∈ rest
    · rw [if_pos later, if_pos (List.mem_cons_of_mem first later)]
    · rw [if_neg later]
      by_cases now : key = first
      · rw [if_pos now, if_pos (by rw [now]; exact List.mem_cons_self)]
      · rw [if_neg now, if_neg (by simp [now, later])]

end FiniteMap
