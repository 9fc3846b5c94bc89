import OpenLighting.SlpScopeSet

/- The functions on strings as their loops do it: in place, with an index that moves on. -/
namespace OpenLighting.Slp

open OpenLighting.StringUtils WhileLoop List

variable (text : List UInt8)

def eraseAt (position count : Nat) : List UInt8 :=
  text.take position ++ text.drop (position + count)

def insertAt (position : Nat) (inserted : List UInt8) : List UInt8 :=
  text.take position ++ inserted ++ text.drop position

/-- A string that is being changed, and the index `i` or `start`. -/
structure Cursor where
  text : List UInt8
  index : Nat

/-- A byte as `std::hex` writes it. -/
def hexText (value : UInt8) : List UInt8 :=
  if value < 16 then [hexDigit value] else [hexDigit (value / 16), hexDigit (value % 16)]

variable (cursor : Cursor)

def escapeRound : Round Cursor (List UInt8) :=
  match findFirstOf isReserved cursor.text cursor.index with
  | none => .leave cursor.text
  | some i =>
    let converted := 92 :: hexText (cursor.text.getD i 0)
    .again ⟨insertAt (eraseAt cursor.text i 1) i converted, i + converted.length⟩

def escapedSize : Nat := 2

def unescapeRound : Round Cursor (List UInt8) :=
  match findFirstOf (· == 92) cursor.text cursor.index with
  | none => .leave cursor.text
  | some i =>
    if cursor.text.length ≤ i + escapedSize then .leave (cursor.text.take i)
    else
      match hexStringToInt ((cursor.text.drop (i + 1)).take escapedSize) with
      | none => .again ⟨cursor.text, i + 1⟩
      | some value =>
        if 0x7f < value then .again ⟨cursor.text, i + 1⟩
        else .again ⟨insertAt (eraseAt cursor.text i (escapedSize + 1)) i [value], i + 1⟩

def foldRound : Round Cursor (List UInt8) :=
  match findFirstOf isWhitespace cursor.text cursor.index with
  | none => .leave cursor.text
  | some start =>
    match findFirstOf (fun byte => !isWhitespace byte) cursor.text start with
    | none => .leave (cursor.text.take start)
    | some stop =>
      if start = 0 then .again ⟨eraseAt cursor.text 0 stop, 0⟩
      else .again ⟨insertAt (eraseAt cursor.text start (stop - start)) start [32], start + 1⟩

/-- What is put in the place of some bytes. -/
theorem replaced (front old fresh rest : List UInt8) :
    insertAt (eraseAt (front ++ (old ++ rest)) front.length old.length) front.length fresh =
      front ++ (fresh ++ rest) := by
  have behind : (front ++ (old ++ rest)).drop (front.length + old.length) = rest := by
    rw [drop_append, drop_of_length_le (by omega), nil_append,
      Nat.add_sub_cancel_left, drop_left]
  rw [eraseAt, behind, take_left, insertAt, take_left, drop_left,
    append_assoc]

theorem escape_append (front back : List UInt8) :
    slpStringEscape (front ++ back) = slpStringEscape front ++ slpStringEscape back :=
  flatMap_append

theorem escape_plain {text : List UInt8} (plain : ∀ byte ∈ text, isReserved byte = false) :
    slpStringEscape text = text := by
  induction text with
  | nil => rfl
  | cons byte rest ih =>
    have first := plain byte mem_cons_self
    have others := ih (fun other member => plain other (mem_cons_of_mem byte member))
    simp only [slpStringEscape, flatMap_cons, first] at others ⊢
    rw [others]
    rfl

/-- The reserved bytes have two digits. -/
theorem hexText_reserved (byte : UInt8) : isReserved byte = true →
    hexText byte = [hexDigit (byte / 16), hexDigit (byte % 16)] := by
  apply forall_byte _ byte
  decide +kernel

/-- What is done, and what the loop will make of the rest. -/
def escapeSpec : List UInt8 :=
  cursor.text.take cursor.index ++ slpStringEscape (cursor.text.drop cursor.index)

theorem escapeRound_again {cursor next : Cursor} (goes : escapeRound cursor = .again next) :
    ∃ front plain byte rest, cursor.text = front ++ (plain ++ byte :: rest) ∧
      front.length = cursor.index ∧ (∀ other ∈ plain, isReserved other = false) ∧
      isReserved byte = true ∧
      next = ⟨(front ++ plain ++ (92 :: hexText byte)) ++ rest,
        (front ++ plain ++ (92 :: hexText byte)).length⟩ := by
  unfold escapeRound at goes
  split at goes
  · cases goes
  · rename_i i found
    have ⟨front, plain, byte, rest, shape, start, position, before, here⟩ := findFirstOf_some found
    have offset : i = (front ++ plain).length := by
      rw [length_append]
      omega
    have whole : cursor.text = (front ++ plain) ++ ([byte] ++ rest) := by
      simp only [shape, append_assoc, cons_append, nil_append]
    have value : cursor.text.getD i 0 = byte := by
      simp [whole, offset]
    have changed := replaced (front ++ plain) [byte] (92 :: hexText byte) rest
    rw [length_singleton, ← whole, ← offset] at changed
    refine ⟨front, plain, byte, rest, shape, start, before, here, ?_⟩
    cases goes
    rw [value, changed, offset]
    simp only [length_append, append_assoc, Nat.add_assoc]

/-- The loop of `SLPStringEscape` ends, for every string. -/
theorem escape_returns (text : List UInt8) :
    Returns escapeRound ⟨text, 0⟩ (slpStringEscape text) := by
  apply @returns_of_rounds _ _ _ (fun _ => True) escapeSpec
    (fun cursor => cursor.text.length - cursor.index) _ _ ⟨text, 0⟩ trivial
  · intro cursor next _ goes
    have ⟨front, plain, byte, rest, shape, start, before, here, same⟩ := escapeRound_again goes
    have digits := hexText_reserved byte here
    refine ⟨trivial, ?_, ?_⟩
    · have one : slpStringEscape (byte :: rest) = 92 :: hexText byte ++ slpStringEscape rest := by
        simp only [slpStringEscape, flatMap_cons, here, ↓reduceIte, digits]
      rw [same]
      unfold escapeSpec
      simp only [shape, ← start, take_left, drop_left]
      rw [escape_append, escape_plain before, one]
      simp only [append_assoc]
    · rw [same, digits]
      simp only [shape, length_append, length_cons, length_nil]
      omega
  · intro cursor result _ leaves
    unfold escapeRound at leaves
    split at leaves
    · rename_i found
      cases leaves
      rw [escapeSpec, escape_plain (findFirstOf_none found), take_append_drop]
    · cases leaves

theorem unescape_plain {front : List UInt8} (plain : ∀ byte ∈ front, (byte == 92) = false)
    (back : List UInt8) :
    slpStringUnescape (front ++ back) = front ++ slpStringUnescape back := by
  induction front with
  | nil => rfl
  | cons byte front ih =>
    have first : byte ≠ 92 := by simpa using plain byte mem_cons_self
    rw [cons_append, unescape_cons first,
      ih (fun other member => plain other (mem_cons_of_mem byte member)), cons_append]

/-- An escape is replaced, or the backslash stays. -/
theorem unescape_backslash (high low : UInt8) (rest : List UInt8) :
    slpStringUnescape (92 :: high :: low :: rest) =
      match unescaped high low with
      | none => 92 :: slpStringUnescape (high :: low :: rest)
      | some value => value :: slpStringUnescape rest := by
  exact if_pos rfl

theorem unescape_short {back : List UInt8} (short : back.length < 2) :
    slpStringUnescape (92 :: back) = [] := by
  match back, short with
  | [], _ => rfl
  | [_], _ => simp [slpStringUnescape]

/-- What is done, and what the loop will make of the rest. -/
def unescapeSpec : List UInt8 :=
  cursor.text.take cursor.index ++ slpStringUnescape (cursor.text.drop cursor.index)

theorem unescapeSpec_split (front back : List UInt8) :
    unescapeSpec ⟨front ++ back, front.length⟩ = front ++ slpStringUnescape back := by
  simp only [unescapeSpec, take_left, drop_left]

/-- The cases of a round: no backslash, one too late in the string, one that stays, and an escape
that is replaced. -/
theorem unescapeRound_cases : (unescapeRound cursor = .leave cursor.text ∧
      slpStringUnescape (cursor.text.drop cursor.index) = cursor.text.drop cursor.index) ∨
    ∃ front plain back, cursor.text = front ++ (plain ++ 92 :: back) ∧
      front.length = cursor.index ∧ (∀ other ∈ plain, (other == 92) = false) ∧
      ((back.length < 2 ∧ unescapeRound cursor = .leave (front ++ plain)) ∨
        ∃ high low rest, back = high :: low :: rest ∧
          ((unescaped high low = none ∧
              unescapeRound cursor = .again ⟨cursor.text, (front ++ plain ++ [92]).length⟩) ∨
            ∃ value, unescaped high low = some value ∧ unescapeRound cursor =
              .again ⟨(front ++ plain ++ [value]) ++ rest, (front ++ plain ++ [value]).length⟩)) := by
  cases found : findFirstOf (· == 92) cursor.text cursor.index with
  | none =>
    left
    have plain := unescape_plain (findFirstOf_none found) []
    simp only [slpStringUnescape, append_nil] at plain
    refine ⟨?_, plain⟩
    unfold unescapeRound
    rw [found]
  | some i =>
    right
    obtain ⟨front, plain, byte, back, shape, start, position, before, here⟩ :=
      findFirstOf_some found
    have backslash : byte = 92 := by simpa using here
    subst backslash
    have offset : i = (front ++ plain).length := by
      rw [length_append]
      omega
    have whole : cursor.text = (front ++ plain) ++ (92 :: back) := by
      simp only [shape, append_assoc]
    have length : cursor.text.length = i + 1 + back.length := by
      rw [whole, length_append, length_cons, ← offset]
      omega
    have behind (value : UInt8) : (front ++ plain ++ [value]).length = i + 1 := by
      rw [length_append, ← offset, length_singleton]
    have digits : (cursor.text.drop (i + 1)).take 2 = back.take 2 := by
      have split : cursor.text = (front ++ plain ++ [92]) ++ back := by
        rw [whole, append_assoc (front ++ plain), singleton_append]
      rw [split, ← behind 92, drop_left]
    refine ⟨front, plain, back, shape, start, before, ?_⟩
    unfold unescapeRound escapedSize
    simp only [found, digits, behind]
    by_cases short : back.length < 2
    · left
      have cut : cursor.text.take i = front ++ plain := by rw [whole, offset, take_left]
      rw [if_pos (by omega), cut]
      exact ⟨short, rfl⟩
    · right
      obtain ⟨high, low, rest, rfl⟩ : ∃ high low rest, back = high :: low :: rest := by
        cases back with
        | nil => exact absurd (by decide) short
        | cons high behind =>
          cases behind with
          | nil => exact absurd (Nat.lt_succ_self 1) short
          | cons low rest => exact ⟨high, low, rest, rfl⟩
      have changed (value : UInt8) := replaced (front ++ plain) [92, high, low] [value] rest
      simp only [cons_append, nil_append, ← whole, ← offset, length_cons,
        length_nil] at changed
      refine ⟨high, low, rest, rfl, ?_⟩
      rw [if_neg (by simp only [length_cons] at length; omega)]
      simp only [take_succ_cons, take_zero, unescaped]
      cases hexStringToInt [high, low] with
      | none => exact .inl ⟨rfl, rfl⟩
      | some value =>
        by_cases large : 0x7f < value
        · simp only [if_pos large, and_self, true_or]
        · simp only [if_neg large]
          refine .inr ⟨value, rfl, ?_⟩
          rw [changed, append_assoc (front ++ plain), singleton_append]

theorem unescapeSpec_found {cursor : Cursor} {front plain back : List UInt8}
    (shape : cursor.text = front ++ (plain ++ 92 :: back)) (start : front.length = cursor.index)
    (before : ∀ other ∈ plain, (other == 92) = false) :
    unescapeSpec cursor = (front ++ plain) ++ slpStringUnescape (92 :: back) := by
  unfold unescapeSpec
  rw [shape, ← start, take_left, drop_left, unescape_plain before, append_assoc]

/-- The loop of `SLPStringUnescape` ends, for every string. -/
theorem unescape_returns (text : List UInt8) :
    Returns unescapeRound ⟨text, 0⟩ (slpStringUnescape text) := by
  apply @returns_of_rounds _ _ _ (fun _ => True) unescapeSpec
    (fun cursor => cursor.text.length - cursor.index) _ _ ⟨text, 0⟩ trivial
  · intro cursor next _ goes
    refine ⟨trivial, ?_⟩
    rcases unescapeRound_cases cursor with ⟨leaves, _⟩ | ⟨front, plain, back, shape, start, before,
      ⟨_, leaves⟩ | ⟨high, low, rest, rfl, ⟨none, same⟩ | ⟨value, some, same⟩⟩⟩
    · rw [leaves] at goes
      cases goes
    · rw [leaves] at goes
      cases goes
    · rw [same] at goes
      cases goes
      have whole : cursor.text = (front ++ plain ++ [92]) ++ (high :: low :: rest) := by
        simp only [shape, append_assoc, cons_append, nil_append]
      constructor
      · rw [unescapeSpec_found shape start before, unescape_backslash, none, whole,
          unescapeSpec_split]
        simp only [append_assoc, cons_append, nil_append]
      · simp only [whole, length_append, length_cons, length_nil]
        omega
    · rw [same] at goes
      cases goes
      constructor
      · rw [unescapeSpec_found shape start before, unescape_backslash, some, unescapeSpec_split]
        simp only [append_assoc, cons_append, nil_append]
      · simp only [shape, length_append, length_cons, length_nil]
        omega
  · intro cursor result _ leaves
    rcases unescapeRound_cases cursor with ⟨same, done⟩ | ⟨front, plain, back, shape, start, before,
      ⟨short, same⟩ | ⟨high, low, rest, rfl, ⟨_, same⟩ | ⟨value, _, same⟩⟩⟩
    · rw [same] at leaves
      cases leaves
      rw [unescapeSpec, done, take_append_drop]
    · rw [same] at leaves
      cases leaves
      rw [unescapeSpec_found shape start before, unescape_short short, append_nil]
    · rw [same] at leaves
      cases leaves
    · rw [same] at leaves
      cases leaves

/-- A reserved byte is the backslash of an escape of two digits. -/
def OnlyEscapes : Prop :=
  ∀ (position : Nat) (byte : UInt8), text[position]? = some byte → isReserved byte = true →
    byte = 92 ∧ ∃ high low, text[position + 1]? = some high ∧ text[position + 2]? = some low ∧
      (hexValue high).isSome = true ∧ (hexValue low).isSome = true

theorem onlyEscapes_nil : OnlyEscapes [] := by
  intro position byte found
  simp at found

variable {rest : List UInt8}

theorem OnlyEscapes.plain {byte : UInt8} (others : OnlyEscapes rest)
    (plain : isReserved byte = false) : OnlyEscapes (byte :: rest) := by
  intro position other found reserved
  cases position with
  | zero =>
    cases found
    rw [plain] at reserved
    cases reserved
  | succ position => exact others position other found reserved

theorem isReserved_of_digit (byte : UInt8) :
    (hexValue byte).isSome = true → isReserved byte = false := by
  apply forall_byte _ byte
  decide +kernel

theorem OnlyEscapes.escape {high low : UInt8} (others : OnlyEscapes rest)
    (first : (hexValue high).isSome = true) (second : (hexValue low).isSome = true) :
    OnlyEscapes (92 :: high :: low :: rest) := by
  have digits := (others.plain (isReserved_of_digit low second)).plain
    (isReserved_of_digit high first)
  intro position other found reserved
  cases position with
  | zero =>
    cases found
    exact ⟨rfl, high, low, rfl, rfl, first, second⟩
  | succ position => exact digits position other found reserved

theorem hexValue_hexDigit (value : UInt8) :
    (hexValue (hexDigit (value / 16))).isSome = true ∧
      (hexValue (hexDigit (value % 16))).isSome = true := by
  apply forall_byte (p := fun value => (hexValue (hexDigit (value / 16))).isSome = true ∧
    (hexValue (hexDigit (value % 16))).isSome = true)
  decide +kernel

theorem onlyEscapes_escape : OnlyEscapes (slpStringEscape text) := by
  induction text with
  | nil => exact onlyEscapes_nil
  | cons byte rest ih =>
    have digits := hexValue_hexDigit byte
    cases reserved : isReserved byte with
    | false =>
      simp only [slpStringEscape, flatMap_cons, reserved]
      exact ih.plain reserved
    | true =>
      simp only [slpStringEscape, flatMap_cons, reserved]
      exact ih.escape digits.1 digits.2

/-- For every string the loops end, the escaped string has no reserved byte but the backslashes
of its escapes, and it is unescaped to the string. -/
theorem escape_roundTrips (text : List UInt8) :
    (∃ escaped, Returns escapeRound ⟨text, 0⟩ escaped ∧ OnlyEscapes escaped ∧
      Returns unescapeRound ⟨escaped, 0⟩ text) ∧
    ∃ unescaped, Returns unescapeRound ⟨text, 0⟩ unescaped := by
  have back := unescape_returns (slpStringEscape text)
  rw [unescape_escape] at back
  exact ⟨⟨slpStringEscape text, escape_returns text, onlyEscapes_escape text, back⟩,
    slpStringUnescape text, unescape_returns text⟩

theorem foldLoop_plain {front : List UInt8} (plain : ∀ byte ∈ front, isWhitespace byte = false)
    (back : List UInt8) : foldLoop false (front ++ back) = front ++ foldLoop false back := by
  induction front with
  | nil => rfl
  | cons byte front ih =>
    have first := plain byte mem_cons_self
    have others := ih (fun other member => plain other (mem_cons_of_mem byte member))
    simp only [cons_append, foldLoop, first, Bool.false_eq_true, ↓reduceIte, others]

theorem foldLoop_blank {blanks : List UInt8} (blank : ∀ byte ∈ blanks, isWhitespace byte = true)
    (before : Bool) : foldLoop before blanks = [] := by
  induction blanks generalizing before with
  | nil => rfl
  | cons byte blanks ih =>
    have first := blank byte mem_cons_self
    have others := ih (fun other member => blank other (mem_cons_of_mem byte member)) true
    simp only [foldLoop, first, ↓reduceIte, others]

/-- White space in front of something is one space. -/
theorem foldLoop_fold {blanks : List UInt8} {byte : UInt8} (filled : blanks ≠ [])
    (blank : ∀ other ∈ blanks, isWhitespace other = true) (solid : isWhitespace byte = false)
    (before : Bool) :
    foldLoop before (blanks ++ byte :: rest) = 32 :: foldLoop false (byte :: rest) := by
  induction blanks generalizing before with
  | nil => exact absurd rfl filled
  | cons first blanks ih =>
    have one := blank first mem_cons_self
    simp only [cons_append, foldLoop, one, ↓reduceIte]
    cases blanks with
    | nil => simp only [nil_append, foldLoop, solid, Bool.false_eq_true, ↓reduceIte]
    | cons second blanks =>
      have others := ih (cons_ne_nil second blanks)
        (fun other member => blank other (mem_cons_of_mem first member)) true
      rw [others]
      simp only [foldLoop, solid, Bool.false_eq_true, ↓reduceIte]

/-- What is done, and what the loop will make of the rest. -/
def foldSpec : List UInt8 :=
  if cursor.index = 0 then foldWhitespace cursor.text
  else cursor.text.take cursor.index ++ foldLoop false (cursor.text.drop cursor.index)

/-- The cases of a round: no white space, none but at the end, some at the start, or some that is
replaced by a space. -/
theorem foldRound_cases : (foldRound cursor = .leave cursor.text ∧
      ∀ byte ∈ cursor.text.drop cursor.index, isWhitespace byte = false) ∨
    ∃ front plain blanks back, cursor.text = front ++ (plain ++ (blanks ++ back)) ∧
      front.length = cursor.index ∧ (∀ byte ∈ plain, isWhitespace byte = false) ∧
      blanks ≠ [] ∧ (∀ byte ∈ blanks, isWhitespace byte = true) ∧
      ((back = [] ∧ foldRound cursor = .leave (front ++ plain)) ∨
        ∃ byte rest, back = byte :: rest ∧ isWhitespace byte = false ∧
          ((front ++ plain = [] ∧ foldRound cursor = .again ⟨back, 0⟩) ∨
            (front ++ plain ≠ [] ∧ foldRound cursor =
              .again ⟨(front ++ plain ++ [32]) ++ back, (front ++ plain ++ [32]).length⟩))) := by
  cases found : findFirstOf isWhitespace cursor.text cursor.index with
  | none =>
    left
    refine ⟨?_, findFirstOf_none found⟩
    unfold foldRound
    rw [found]
  | some start =>
    right
    have ⟨front, plain, first, behind, shape, length, position, before, here⟩ :=
      findFirstOf_some found
    have offset : start = (front ++ plain).length := by
      rw [length_append]
      omega
    have whole : cursor.text = (front ++ plain) ++ (first :: behind) := by
      simp only [shape, append_assoc]
    cases next : findFirstOf (fun byte => !isWhitespace byte) cursor.text start with
    | none =>
      have blank := findFirstOf_none next
      rw [whole, offset, drop_left] at blank
      refine ⟨front, plain, first :: behind, [], ?_, length, before, cons_ne_nil _ _,
        ?_, .inl ⟨rfl, ?_⟩⟩
      · rw [shape, append_nil]
      · intro byte member
        simpa using blank byte member
      · unfold foldRound
        simp only [found, next]
        rw [whole, offset, take_left]
    | some stop =>
      have ⟨front', blanks, byte, rest, split, length', stopped, blank, solid⟩ :=
        findFirstOf_some next
      have back : first :: behind = blanks ++ byte :: rest := by
        have both := split.symm.trans whole
        exact (append_inj both (by omega)).2.symm
      have blanks_ne : blanks ≠ [] := by
        intro empty
        rw [empty] at back
        cases back
        rw [here] at solid
        cases solid
      refine ⟨front, plain, blanks, byte :: rest, ?_, length, before, blanks_ne, ?_, .inr
        ⟨byte, rest, rfl, by simpa using solid, ?_⟩⟩
      · rw [shape, back]
      · intro other member
        simpa using blank other member
      · have changed := replaced (front ++ plain) blanks [32] (byte :: rest)
        rw [← back, ← whole, ← offset] at changed
        have count : blanks.length = stop - start := by omega
        have inserted : (front ++ plain ++ [32]).length = start + 1 := by
          rw [length_append, ← offset, length_singleton]
        unfold foldRound
        simp only [found, next, inserted]
        by_cases first : start = 0
        · left
          have empty : front ++ plain = [] := eq_nil_of_length_eq_zero (by omega)
          refine ⟨empty, ?_⟩
          have cut : cursor.text.drop stop = byte :: rest := by
            rw [whole, back, empty, nil_append, drop_left' (by omega)]
          rw [if_pos first, eraseAt, Nat.zero_add, take_zero, nil_append, cut]
        · right
          refine ⟨fun empty => first (by rw [offset, empty]; rfl), ?_⟩
          rw [if_neg first, ← count, changed, append_assoc (front ++ plain)]

theorem foldSpec_found {cursor : Cursor} {front plain blanks back : List UInt8}
    (shape : cursor.text = front ++ (plain ++ (blanks ++ back)))
    (length : front.length = cursor.index) (before : ∀ byte ∈ plain, isWhitespace byte = false)
    (filled : front ++ plain ≠ []) :
    foldSpec cursor = (front ++ plain) ++ foldLoop false (blanks ++ back) := by
  unfold foldSpec
  by_cases zero : cursor.index = 0
  · have empty : front = [] := eq_nil_of_length_eq_zero (length.trans zero)
    rw [if_pos zero, shape, empty, nil_append, nil_append, foldWhitespace]
    rw [empty, nil_append] at filled
    obtain ⟨byte, rest, rfl⟩ := exists_cons_of_ne_nil filled
    have solid := before byte mem_cons_self
    rw [cons_append, dropWhile_cons_of_neg (by rw [solid]; decide), ← cons_append,
      foldLoop_plain before]
  · rw [if_neg zero, shape, ← length, take_left, drop_left, foldLoop_plain before,
      append_assoc]

/-- The loop of `FoldWhitespace` ends, for every string. -/
theorem fold_returns (text : List UInt8) :
    Returns foldRound ⟨text, 0⟩ (foldWhitespace text) := by
  apply @returns_of_rounds _ _ _ (fun _ => True) foldSpec
    (fun cursor => cursor.text.length - cursor.index) _ _ ⟨text, 0⟩ trivial
  · intro cursor next _ goes
    refine ⟨trivial, ?_⟩
    rcases foldRound_cases cursor with ⟨leaves, _⟩ | ⟨front, plain, blanks, back, shape, length,
      before, filled, blank, ⟨_, leaves⟩ | ⟨byte, rest, rfl, solid, ⟨empty, same⟩ | ⟨some, same⟩⟩⟩
    · rw [leaves] at goes
      cases goes
    · rw [leaves] at goes
      cases goes
    · rw [same] at goes
      cases goes
      have nothing := append_eq_nil_iff.mp empty
      have zero : cursor.index = 0 := by rw [← length, nothing.1]; rfl
      have long : 0 < blanks.length := length_pos_of_ne_nil filled
      simp only [nothing.1, nothing.2, nil_append] at shape
      constructor
      · simp only [foldSpec, zero, ↓reduceIte, shape, foldWhitespace]
        rw [dropWhile_append_of_pos blank]
      · simp only [shape, zero, length_append, length_cons]
        omega
    · rw [same] at goes
      cases goes
      have long : 0 < blanks.length := length_pos_of_ne_nil filled
      constructor
      · have index : (front ++ plain ++ [32]).length ≠ 0 := by simp
        rw [foldSpec_found shape length before some, foldLoop_fold filled blank solid, foldSpec,
          if_neg index, take_left, drop_left, append_assoc (front ++ plain),
          singleton_append]
      · simp only [shape, length_append, length_cons, length_nil]
        omega
  · intro cursor result _ leaves
    rcases foldRound_cases cursor with ⟨same, plain⟩ | ⟨front, plain, blanks, back, shape, length,
      before, filled, blank, ⟨rfl, same⟩ | ⟨byte, rest, rfl, solid, ⟨empty, same⟩ | ⟨some, same⟩⟩⟩
    · rw [same] at leaves
      cases leaves
      have rest := foldLoop_plain plain []
      simp only [append_nil, foldLoop] at rest
      by_cases zero : cursor.index = 0
      · rw [zero, drop_zero] at plain rest
        have trimmed : cursor.text.dropWhile isWhitespace = cursor.text := by
          cases shape : cursor.text with
          | nil => rfl
          | cons byte others =>
            have solid := plain byte (by rw [shape]; exact mem_cons_self)
            rw [dropWhile_cons_of_neg (by rw [solid]; decide)]
        rw [foldSpec, if_pos zero, foldWhitespace, trimmed, rest]
      · rw [foldSpec, if_neg zero, rest, take_append_drop]
    · rw [same] at leaves
      cases leaves
      by_cases some : front ++ plain = []
      · have nothing := append_eq_nil_iff.mp some
        have zero : cursor.index = 0 := by rw [← length, nothing.1]; rfl
        have gone : blanks.dropWhile isWhitespace = [] := dropWhile_eq_nil_iff.mpr blank
        simp only [nothing.1, nothing.2, nil_append, append_nil] at shape
        rw [foldSpec, if_pos zero, foldWhitespace, shape, gone, some]
        rfl
      · rw [foldSpec_found shape length before some, append_nil, foldLoop_blank blank,
          append_nil]
    · rw [same] at leaves
      cases leaves
    · rw [same] at leaves
      cases leaves

end OpenLighting.Slp
