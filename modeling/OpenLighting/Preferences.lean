import OpenLighting.StringUtils
import Mathlib.Data.List.Lex
import Mathlib.Data.List.Sort

namespace OpenLighting.Preferences

open OpenLighting.StringUtils List

/-- Strings are compared byte by byte. -/
def order (key : List UInt8) : List Nat := key.map UInt8.toNat

abbrev Pair := List UInt8 × List UInt8

/-- `PreferencesMap`, a multimap in the order it is iterated over. -/
structure PreferencesMap where
  pairs : List Pair
  sorted : pairs.Pairwise (fun first second => order first.1 ≤ order second.1)

/-- A new pair goes behind those with the same key. -/
def place (pair : Pair) (pairs : List Pair) : List Pair :=
  pairs.orderedInsert (fun first second => order first.1 < order second.1) pair

variable {pairs : List Pair}

theorem place_sorted (pair : Pair)
    (sorted : pairs.Pairwise (fun first second => order first.1 ≤ order second.1)) :
    (place pair pairs).Pairwise (fun first second => order first.1 ≤ order second.1) := by
  induction pairs with
  | nil => exact pairwise_singleton _ _
  | cons first rest ih =>
    rw [pairwise_cons] at sorted
    unfold place
    rw [List.orderedInsert]
    by_cases before : order pair.1 < order first.1
    · rw [if_pos before, pairwise_cons]
      refine ⟨?_, pairwise_cons.mpr sorted⟩
      intro other member
      rcases mem_cons.mp member with rfl | behind
      · exact le_of_lt before
      · exact le_trans (le_of_lt before) (sorted.1 other behind)
    · rw [if_neg before, pairwise_cons]
      refine ⟨?_, ih sorted.2⟩
      intro other member
      rcases (mem_orderedInsert _).mp member with rfl | behind
      · exact le_of_not_gt before
      · exact sorted.1 other behind

variable {pair : Pair} (map : PreferencesMap)

namespace PreferencesMap

def empty : PreferencesMap := ⟨[], .nil⟩

/-- `multimap::insert`. -/
def insert (pair : Pair) : PreferencesMap :=
  ⟨place pair map.pairs, place_sorted pair map.sorted⟩

variable (key : List UInt8)

def removeValue : PreferencesMap :=
  ⟨map.pairs.filter (fun pair => pair.1 != key), map.sorted.filter _⟩

def setValue (key value : List UInt8) : PreferencesMap :=
  (map.removeValue key).insert (key, value)

/-- `MemoryPreferences::GetValue`: nothing found is the empty string. -/
def getValue : List UInt8 :=
  match map.pairs.find? (fun pair => pair.1 == key) with
  | some pair => pair.2
  | none => []

theorem find_place_of_ne {key : List UInt8} (different : pair.1 ≠ key) (pairs : List Pair) :
    (place pair pairs).find? (fun other => other.1 == key) =
      pairs.find? (fun other => other.1 == key) := by
  unfold place
  induction pairs with
  | nil => rw [orderedInsert_nil, List.find?_cons_of_neg (by simp [different])]
  | cons first rest ih =>
    rw [List.orderedInsert]
    split
    · rw [List.find?_cons_of_neg (by simp [different])]
    · rw [List.find?_cons, List.find?_cons, ih]

theorem find_place_self (absent : ∀ other ∈ pairs, other.1 ≠ pair.1) :
    (place pair pairs).find? (fun other => other.1 == pair.1) = some pair := by
  unfold place
  induction pairs with
  | nil => rw [orderedInsert_nil, List.find?_cons_of_pos (by simp)]
  | cons first rest ih =>
    rw [List.orderedInsert]
    split
    · rw [List.find?_cons_of_pos (by simp)]
    · rw [List.find?_cons_of_neg (by simp [absent first mem_cons_self])]
      exact ih (fun other member => absent other (mem_cons_of_mem first member))

theorem getValue_removeValue_self : (map.removeValue key).getValue key = [] := by
  have absent : (map.removeValue key).pairs.find? (fun pair => pair.1 == key) = none := by
    rw [List.find?_eq_none]
    intro pair member
    have kept := (mem_filter.mp member).2
    simpa using kept
  unfold getValue
  rw [absent]

theorem getValue_removeValue_of_ne {key other : List UInt8}
    (different : other ≠ key) : (map.removeValue key).getValue other = map.getValue other := by
  have same : (map.removeValue key).pairs.find? (fun pair => pair.1 == other) =
      map.pairs.find? (fun pair => pair.1 == other) := by
    unfold removeValue
    rw [List.find?_filter]
    congr 1
    funext pair
    by_cases here : pair.1 = other
    · simp [here, different]
    · simp [here]
  unfold getValue
  rw [same]

@[simp] theorem getValue_setValue_self (key value : List UInt8) :
    (map.setValue key value).getValue key = value := by
  have found : (map.setValue key value).pairs.find? (fun pair => pair.1 == key) =
      some (key, value) := by
    apply @find_place_self _ (key, value)
    intro other member
    have kept := (mem_filter.mp member).2
    simpa using kept
  unfold getValue
  rw [found]

theorem getValue_setValue_of_ne {key other : List UInt8}
    (different : other ≠ key) (value : List UInt8) :
    (map.setValue key value).getValue other = map.getValue other := by
  rw [← map.getValue_removeValue_of_ne different]
  have same : (map.setValue key value).pairs.find? (fun pair => pair.1 == other) =
      (map.removeValue key).pairs.find? (fun pair => pair.1 == other) :=
    @find_place_of_ne (key, value) other different.symm _
  unfold getValue
  rw [same]

end PreferencesMap

def newline : UInt8 := 10
def equalsSign : UInt8 := 61
def hash : UInt8 := 35

/-- One line of `SaveToFile`, without the newline. -/
def line (pair : Pair) : List UInt8 := pair.1 ++ [32, equalsSign, 32] ++ pair.2

def saveToFile : List UInt8 :=
  map.pairs.flatMap (fun pair => line pair ++ [newline])

/-- The lines that `getline` returns until the end of the file. -/
def getLines (content : List UInt8) : List (List UInt8) :=
  let lines := content.splitOnP (fun byte => byte == newline)
  if lines.getLast? = some [] then lines.dropLast else lines

/-- The body of the loop of `LoadFromFile`. -/
def loadLine (text : List UInt8) : PreferencesMap :=
  let text := stringTrim text
  if text.isEmpty ∨ text.head? = some hash then map
  else
    match stringSplit text [equalsSign] with
    | [key, value] => map.insert (stringTrim key, stringTrim value)
    | _ => map

def loadFromFile (content : List UInt8) : PreferencesMap :=
  (getLines content).foldl loadLine .empty

/-- The pairs that can be written to a line: the key is not empty, has no blanks
around it and no newline or equals sign in it, and does not start a comment; the
value has no blanks around it and no newline in it. -/
structure Writable (pair : Pair) : Prop where
  key : pair.1 ≠ []
  trimmedKey : stringTrim pair.1 = pair.1
  plainKey : equalsSign ∉ pair.1 ∧ newline ∉ pair.1
  noComment : pair.1.head? ≠ some hash
  trimmedValue : stringTrim pair.2 = pair.2
  plainValue : newline ∉ pair.2

theorem getLines_append {text : List UInt8} (plain : newline ∉ text) (content : List UInt8) :
    getLines (text ++ newline :: content) = text :: getLines content := by
  have before : ∀ byte ∈ text, (byte == newline) = false := by
    intro byte member
    rw [beq_eq_false_iff_ne]
    rintro rfl
    exact plain member
  unfold getLines
  rw [splitOnP_append_cons_of_forall_mem before newline (beq_self_eq_true newline)]
  have more := splitOnP_ne_nil (fun byte => byte == newline) content
  simp only [List.getLast?_cons_of_ne_nil more, dropLast_cons_of_ne_nil more]
  by_cases ended : (content.splitOnP (fun byte => byte == newline)).getLast? = some []
  · rw [if_pos ended, if_pos ended]
  · rw [if_neg ended, if_neg ended]

theorem line_plain (writable : Writable pair) : newline ∉ line pair := by
  have key := writable.plainKey.2
  have value := writable.plainValue
  unfold newline at key value ⊢
  simp [line, equalsSign, key, value]

/-- Every pair is read back from the line it was written to. -/
theorem getLines_flatMap (writable : ∀ pair ∈ pairs, Writable pair) :
    getLines (pairs.flatMap (fun pair => line pair ++ [newline])) = pairs.map line := by
  induction pairs with
  | nil => rfl
  | cons pair rest ih =>
    rw [flatMap_cons, append_assoc, singleton_append,
      getLines_append (line_plain (writable pair mem_cons_self)),
      ih (fun other member => writable other (mem_cons_of_mem pair member)), map_cons]

/-- What is left of a line when the blanks around it are gone. -/
def trimmedLine (pair : Pair) : List UInt8 :=
  pair.1 ++ 32 :: equalsSign :: if pair.2.isEmpty then [] else 32 :: pair.2

theorem stringTrim_line (writable : Writable pair) : stringTrim (line pair) = trimmedLine pair := by
  have key := (stringTrim_eq_self_iff pair.1).mp writable.trimmedKey
  have value := (stringTrim_eq_self_iff pair.2).mp writable.trimmedValue
  have kept : stringTrim (trimmedLine pair) = trimmedLine pair := by
    rw [stringTrim_eq_self_iff]
    unfold trimmedLine
    constructor
    · rw [List.head?_append_of_ne_nil _ writable.key]
      exact key.1
    · by_cases blank : pair.2 = []
      · simp [blank, equalsSign, isTrimmed]
      · have behind : pair.2.isEmpty = false := by simpa using blank
        rw [behind, if_neg Bool.false_ne_true, append_cons, append_cons, append_cons,
          List.getLast?_append_of_ne_nil _ blank]
        exact value.2
  by_cases blank : pair.2 = []
  · have spaced : line pair = trimmedLine pair ++ [32] := by
      simp [line, trimmedLine, blank]
    rw [spaced, stringTrim_concat rfl, kept]
  · have same : line pair = trimmedLine pair := by
      simp [line, trimmedLine, blank]
    rw [same, kept]

theorem equalsSign_ne_space : equalsSign ≠ 32 := by decide

theorem not_contained {byte : UInt8} {text : List UInt8} (absent : byte ∉ text) :
    ∀ other ∈ text, [byte].contains other = false := by
  intro other member
  simp only [contains_cons, contains_nil, Bool.or_false, beq_eq_false_iff_ne]
  rintro rfl
  exact absent member

theorem stringSplit_trimmedLine (writable : Writable pair) :
    stringSplit (trimmedLine pair) [equalsSign] = (pair.1 ++ [32]) ::
      stringSplit (if pair.2.isEmpty then [] else 32 :: pair.2) [equalsSign] := by
  have before : ∀ byte ∈ pair.1 ++ [32], [equalsSign].contains byte = false := by
    apply not_contained
    simp [writable.plainKey.1, equalsSign_ne_space]
  unfold stringSplit trimmedLine
  rw [append_cons]
  exact splitOnP_append_cons_of_forall_mem before equalsSign rfl _

theorem stringTrim_value {value : List UInt8} (trimmed : stringTrim value = value) :
    stringTrim (if value.isEmpty then [] else 32 :: value) = value := by
  cases value with
  | nil => rfl
  | cons first rest => exact (stringTrim_cons rfl _).trans trimmed

theorem stringSplit_value {value : List UInt8} (inside : equalsSign ∈ value) :
    ∃ first second rest, stringSplit (if value.isEmpty then [] else 32 :: value) [equalsSign] =
      first :: second :: rest := by
  obtain ⟨front, back, rfl⟩ := append_of_mem inside
  have some : (front ++ equalsSign :: back).isEmpty = false := by simp
  unfold stringSplit
  rw [some, if_neg Bool.false_ne_true, ← cons_append, splitOnP_append_cons _ _ rfl]
  obtain ⟨first, early, left⟩ := exists_cons_of_ne_nil
    (splitOnP_ne_nil (fun byte => [equalsSign].contains byte) (32 :: front))
  obtain ⟨second, late, right⟩ := exists_cons_of_ne_nil
    (splitOnP_ne_nil (fun byte => [equalsSign].contains byte) back)
  rw [left, right]
  cases early with
  | nil => exact ⟨first, second, late, rfl⟩
  | cons third early => exact ⟨first, third, early ++ second :: late, rfl⟩

/-- The line of a value with an equals sign in it has too many tokens and is skipped. -/
theorem loadLine_line (writable : Writable pair) (map : PreferencesMap) :
    loadLine map (line pair) = if equalsSign ∈ pair.2 then map else map.insert pair := by
  have read : ¬ ((trimmedLine pair).isEmpty = true ∨ (trimmedLine pair).head? = some hash) := by
    unfold trimmedLine
    rw [List.head?_append_of_ne_nil _ writable.key]
    simp [writable.noComment]
  unfold loadLine
  rw [stringTrim_line writable, if_neg read, stringSplit_trimmedLine writable]
  by_cases inside : equalsSign ∈ pair.2
  · obtain ⟨first, second, rest, split⟩ := stringSplit_value inside
    rw [split, if_pos inside]
  · have whole : equalsSign ∉ (if pair.2.isEmpty then [] else 32 :: pair.2) := by
      split
      · exact not_mem_nil
      · simp [inside, equalsSign_ne_space]
    have key : stringTrim (pair.1 ++ [32]) = pair.1 :=
      (stringTrim_concat rfl _).trans writable.trimmedKey
    rw [stringSplit, splitOnP_eq_singleton (not_contained whole), if_neg inside]
    simp only [key, stringTrim_value writable.trimmedValue]

/-- A key that is not below the others is put behind them. -/
theorem place_last (behind : ∀ other ∈ pairs, order other.1 ≤ order pair.1) :
    place pair pairs = pairs ++ [pair] := by
  induction pairs with
  | nil => rfl
  | cons first rest ih =>
    have stays : ¬ order pair.1 < order first.1 :=
      not_lt_of_ge (behind first mem_cons_self)
    unfold place at ih ⊢
    rw [List.orderedInsert, if_neg stays,
      ih (fun other member => behind other (mem_cons_of_mem first member)), cons_append]

theorem foldl_loadLine (writable : ∀ pair ∈ pairs, Writable pair) {map : PreferencesMap}
    (sorted : (map.pairs ++ pairs).Pairwise (fun first second => order first.1 ≤ order second.1)) :
    ((pairs.map line).foldl loadLine map).pairs =
      map.pairs ++ pairs.filter (fun pair => equalsSign ∉ pair.2) := by
  induction pairs generalizing map with
  | nil => simp
  | cons pair rest ih =>
    have later := fun other member => writable other (mem_cons_of_mem pair member)
    rw [map_cons, foldl_cons, loadLine_line (writable pair mem_cons_self)]
    by_cases inside : equalsSign ∈ pair.2
    · rw [if_pos inside, filter_cons_of_neg (by simpa using inside)]
      apply ih later
      exact sorted.sublist ((sublist_cons_self pair rest).append_left map.pairs)
    · have last : (map.insert pair).pairs = map.pairs ++ [pair] := by
        apply place_last
        intro other member
        exact (pairwise_append.mp sorted).2.2 other member pair mem_cons_self
      rw [if_neg inside, filter_cons_of_pos (by simpa using inside), ih later, last,
        append_assoc, singleton_append]
      rw [last, append_assoc, singleton_append]
      exact sorted

/-- The pairs whose value has no equals sign in it are read back, in order. -/
theorem loadFromFile_saveToFile {map : PreferencesMap}
    (writable : ∀ pair ∈ map.pairs, Writable pair) :
    (loadFromFile (saveToFile map)).pairs = map.pairs.filter (fun pair => equalsSign ∉ pair.2) := by
  unfold loadFromFile saveToFile
  rw [getLines_flatMap writable]
  exact foldl_loadLine writable map.sorted

theorem PreferencesMap.ext {first second : PreferencesMap} (same : first.pairs = second.pairs) :
    first = second := by
  cases first
  cases second
  simpa using same

/-- Preferences survive saving and loading if no value has an equals sign in it. -/
theorem reloaded_iff {map : PreferencesMap} (writable : ∀ pair ∈ map.pairs, Writable pair) :
    loadFromFile (saveToFile map) = map ↔ ∀ pair ∈ map.pairs, equalsSign ∉ pair.2 := by
  have kept := loadFromFile_saveToFile writable
  constructor
  · intro same pair member
    rw [same] at kept
    rw [kept] at member
    simpa using (List.mem_filter.mp member).2
  · intro plain
    apply PreferencesMap.ext
    rw [kept, List.filter_eq_self]
    intro pair member
    simpa using plain pair member

/-- The key `uni_1_name`. -/
def nameKey : List UInt8 := [117, 110, 105, 95, 49, 95, 110, 97, 109, 101]

/-- The preferences of a universe store with one universe. -/
def universeName (name : List UInt8) : PreferencesMap :=
  ⟨[(nameKey, name)], List.pairwise_singleton _ _⟩

theorem universeName_writable {name : List UInt8} (trimmed : stringTrim name = name)
    (plain : newline ∉ name) : ∀ pair ∈ (universeName name).pairs, Writable pair := by
  intro pair member
  rw [universeName, mem_singleton] at member
  have key : nameKey ≠ [] ∧ stringTrim nameKey = nameKey ∧
      (equalsSign ∉ nameKey ∧ newline ∉ nameKey) ∧ nameKey.head? ≠ some hash := by decide
  subst member
  exact ⟨key.1, key.2.1, key.2.2.1, key.2.2.2, trimmed, plain⟩

theorem universe_name_reloaded :
    loadFromFile (saveToFile (universeName [65, 32, 66])) = universeName [65, 32, 66] := by
  apply (reloaded_iff (universeName_writable (by decide) (by decide))).mpr
  intro pair member
  rw [universeName, List.mem_singleton] at member
  subst member
  decide

/-- The name `A=B` is lost. -/
theorem universe_name_lost :
    (∀ pair ∈ (universeName [65, 61, 66]).pairs, Writable pair) ∧
      (loadFromFile (saveToFile (universeName [65, 61, 66]))).pairs = [] ∧
      loadFromFile (saveToFile (universeName [65, 61, 66])) ≠ universeName [65, 61, 66] := by
  have writable : ∀ pair ∈ (universeName [65, 61, 66]).pairs, Writable pair :=
    universeName_writable (by decide) (by decide)
  have lost : (loadFromFile (saveToFile (universeName [65, 61, 66]))).pairs = [] := by
    decide
  refine ⟨writable, lost, ?_⟩
  intro same
  rw [same] at lost
  cases lost

end OpenLighting.Preferences
