import Mathlib.Data.Finset.Sort
import Mathlib.Data.List.Lex
import OpenLighting.StringUtils

/- The strings of the service location protocol. As everywhere they are their bytes. -/
namespace OpenLighting.Slp

open OpenLighting.StringUtils

/-- The order of `std::string`, which compares unsigned bytes. -/
instance byteOrder : LinearOrder UInt8 where
  le_refl := UInt8.le_refl
  le_trans _ _ _ := UInt8.le_trans
  le_antisymm _ _ := UInt8.le_antisymm
  le_total := UInt8.le_total
  lt_iff_le_not_ge _ _ := by
    rw [UInt8.not_le]
    exact ⟨fun less => ⟨UInt8.le_of_lt less, less⟩, fun both => both.2⟩
  toDecidableLE := inferInstance

variable (byte : UInt8)

/-- Space, tab, carriage return, newline. -/
def isWhitespace : Bool := byte == 32 || byte == 9 || byte == 13 || byte == 10

/-- The loop of `FoldWhitespace` behind the first byte. `blank` says that there is white space
that has not been replaced yet. At the end it is dropped. -/
def foldLoop : Bool → List UInt8 → List UInt8
  | _, [] => []
  | blank, byte :: rest =>
    if isWhitespace byte then foldLoop true rest
    else if blank then 32 :: byte :: foldLoop false rest
    else byte :: foldLoop false rest

def foldWhitespace (text : List UInt8) : List UInt8 := foldLoop false (text.dropWhile isWhitespace)

/-- `SLPGetCanonicalString`, and `SLPCanonicalizeString`, which it calls. -/
def slpGetCanonicalString (text : List UInt8) : List UInt8 := foldWhitespace (text.map toLower)

/-- The bytes of `(),\!<=>~;*+`. -/
def isReserved : Bool :=
  [40, 41, 44, 92, 33, 60, 61, 62, 126, 59, 42, 43].contains byte

/-- A digit as `std::hex` writes it. -/
def hexDigit (value : UInt8) : UInt8 := if value < 10 then 48 + value else 87 + value

def slpStringEscape (text : List UInt8) : List UInt8 :=
  text.flatMap (fun byte =>
    if isReserved byte then [92, hexDigit (byte / 16), hexDigit (byte % 16)] else [byte])

/-- The byte that two digits stand for, if it may be escaped. -/
def unescaped (high low : UInt8) : Option UInt8 :=
  match hexStringToInt [high, low] with
  | none => none
  | some value => if 0x7f < value then none else some value

/-- `SLPStringUnescape`. A backslash without two bytes behind it ends the string. -/
def slpStringUnescape : List UInt8 → List UInt8
  | [] => []
  | [byte] => if byte = 92 then [] else [byte]
  | [byte, other] =>
    if byte = 92 then [] else if other = 92 then [byte] else [byte, other]
  | byte :: high :: low :: rest =>
    if byte = 92 then
      match unescaped high low with
      | none => byte :: slpStringUnescape (high :: low :: rest)
      | some value => value :: slpStringUnescape rest
    else byte :: slpStringUnescape (high :: low :: rest)

/-- What stands before the first `://`, or everything. -/
def beforeScheme : List UInt8 → List UInt8
  | [] => []
  | byte :: rest =>
    if [58, 47, 47].isPrefixOf (byte :: rest) then [] else byte :: beforeScheme rest

def slpServiceFromURL (url : List UInt8) : List UInt8 := slpGetCanonicalString (beforeScheme url)

theorem toLower_toLower : toLower (toLower byte) = toLower byte := by
  apply forall_byte _ byte
  decide +kernel

theorem foldLoop_foldLoop (blank : Bool) (text : List UInt8) :
    foldLoop false (foldLoop blank text) = foldLoop blank text := by
  induction text generalizing blank with
  | nil => rfl
  | cons byte rest ih =>
    by_cases space : isWhitespace byte = true
    · rw [foldLoop, if_pos space]
      exact ih true
    · have apart : isWhitespace 32 = true := by decide
      cases blank with
      | false => simp [foldLoop, space, ih false]
      | true => simp [foldLoop, space, apart, ih false]

/-- Folding leaves no white space at the start. -/
theorem dropWhile_foldWhitespace (text : List UInt8) :
    (foldWhitespace text).dropWhile isWhitespace = foldWhitespace text := by
  unfold foldWhitespace
  cases shape : text.dropWhile isWhitespace with
  | nil => rfl
  | cons byte rest =>
    have solid : isWhitespace byte = false := by
      have first := List.head?_dropWhile_not isWhitespace text
      rw [shape] at first
      exact first
    simp [foldLoop, solid]

theorem foldWhitespace_foldWhitespace (text : List UInt8) :
    foldWhitespace (foldWhitespace text) = foldWhitespace text := by
  rw [foldWhitespace, dropWhile_foldWhitespace]
  exact foldLoop_foldLoop false _

variable {text : List UInt8}

theorem mem_foldLoop {byte : UInt8} {blank : Bool} (member : byte ∈ foldLoop blank text) :
    byte = 32 ∨ byte ∈ text := by
  induction text generalizing blank with
  | nil => simp [foldLoop] at member
  | cons first rest ih =>
    rw [List.mem_cons]
    unfold foldLoop at member
    split at member
    · rcases ih member with space | inside
      · exact .inl space
      · exact .inr (.inr inside)
    · split at member
      · rcases List.mem_cons.mp member with space | behind
        · exact .inl space
        · rcases List.mem_cons.mp behind with same | inside
          · exact .inr (.inl same)
          · rcases ih inside with space | deeper
            · exact .inl space
            · exact .inr (.inr deeper)
      · rcases List.mem_cons.mp member with same | inside
        · exact .inr (.inl same)
        · rcases ih inside with space | deeper
          · exact .inl space
          · exact .inr (.inr deeper)

theorem toLower_canonical {byte : UInt8} (member : byte ∈ slpGetCanonicalString text) :
    toLower byte = byte := by
  rcases mem_foldLoop member with rfl | inside
  · decide
  · have lowered := (List.dropWhile_suffix isWhitespace).subset inside
    obtain ⟨original, _, rfl⟩ := List.mem_map.mp lowered
    exact toLower_toLower original

theorem canonical_canonical (text : List UInt8) :
    slpGetCanonicalString (slpGetCanonicalString text) = slpGetCanonicalString text := by
  have lowered : (slpGetCanonicalString text).map toLower = slpGetCanonicalString text := by
    rw [List.map_congr_left (fun byte member => toLower_canonical member), List.map_id']
  conv_lhs => rw [slpGetCanonicalString, lowered]
  exact foldWhitespace_foldWhitespace _

@[simp] theorem unescape_cons {byte : UInt8} (plain : byte ≠ 92) (rest : List UInt8) :
    slpStringUnescape (byte :: rest) = byte :: slpStringUnescape rest := by
  match rest with
  | [] => simp [slpStringUnescape, plain]
  | [other] =>
    simp only [slpStringUnescape, if_neg plain]
    split <;> rfl
  | _ :: _ :: _ => rw [slpStringUnescape, if_neg plain]

/-- Without a backslash there is nothing to replace. -/
theorem unescape_of_notMem (plain : 92 ∉ text) : slpStringUnescape text = text := by
  induction text with
  | nil => rfl
  | cons byte rest ih =>
    have first : byte ≠ 92 := fun same => plain (by simp [same])
    rw [unescape_cons first, ih (fun member => plain (List.mem_cons_of_mem byte member))]

/-- The reserved bytes have two digits that stand for them. -/
theorem unescaped_hexDigit : isReserved byte = true →
      unescaped (hexDigit (byte / 16)) (hexDigit (byte % 16)) = some byte := by
  apply forall_byte _ byte
  decide +kernel

theorem unescape_escape (text : List UInt8) : slpStringUnescape (slpStringEscape text) = text := by
  induction text with
  | nil => rfl
  | cons byte rest ih =>
    by_cases reserved : isReserved byte = true
    · have read := unescaped_hexDigit byte reserved
      simp only [slpStringEscape, List.flatMap_cons, if_pos reserved, List.cons_append,
        List.nil_append] at ih ⊢
      rw [slpStringUnescape, if_pos rfl, read, ih]
    · have plain : byte ≠ 92 := fun same => reserved (by rw [same]; decide)
      simp only [slpStringEscape, List.flatMap_cons, if_neg reserved, List.cons_append,
        List.nil_append] at ih ⊢
      rw [unescape_cons plain, ih]

theorem escape_eq_nil_iff (text : List UInt8) : slpStringEscape text = [] ↔ text = [] := by
  constructor
  · intro empty
    rw [← unescape_escape text, empty]
    rfl
  · intro empty
    rw [empty]
    rfl

theorem comma_notMem_escape (text : List UInt8) : 44 ∉ slpStringEscape text := by
  have digit (value : UInt8) : 44 ∉ [92, hexDigit (value / 16), hexDigit (value % 16)] := by
    apply forall_byte (p := fun value => 44 ∉ [92, hexDigit (value / 16), hexDigit (value % 16)])
    decide +kernel
  intro member
  obtain ⟨byte, _, inside⟩ := List.mem_flatMap.mp member
  split at inside
  · exact digit byte inside
  · rename_i plain
    rw [List.mem_singleton] at inside
    exact plain (by rw [← inside]; decide)

end OpenLighting.Slp
