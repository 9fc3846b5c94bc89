import Mathlib.Data.UInt
import Mathlib.Tactic.Ring

/- Numbers as bytes in network order, readers that consume bytes, and what it takes for a
reader to find again what was written in front of anything else. -/
namespace ByteCodec

/-- The lowest `count` bytes of a number, most significant first. -/
def bigEndian : Nat → Nat → List UInt8
  | 0, _ => []
  | count + 1, value => UInt8.ofNat (value / 256 ^ count) :: bigEndian count value

def number (bytes : List UInt8) : Nat :=
  bytes.foldl (fun value byte => value * 256 + byte.toNat) 0

@[simp] theorem length_bigEndian (count value : Nat) : (bigEndian count value).length = count := by
  induction count with
  | zero => rfl
  | succ count ih => rw [bigEndian, List.length_cons, ih]

theorem foldl_bigEndian (count value start : Nat) :
    (bigEndian count value).foldl (fun value byte => value * 256 + byte.toNat) start =
      start * 256 ^ count + value % 256 ^ count := by
  induction count generalizing start with
  | zero => simp [bigEndian, Nat.mod_one]
  | succ count ih =>
    have low : (UInt8.ofNat (value / 256 ^ count)).toNat = value / 256 ^ count % 256 :=
      UInt8.toNat_ofNat'
    rw [bigEndian, List.foldl_cons, ih, low, Nat.pow_succ, Nat.mod_mul]
    ring

theorem number_bigEndian (count value : Nat) :
    number (bigEndian count value) = value % 256 ^ count := by
  rw [number, foldl_bigEndian, Nat.zero_mul, Nat.zero_add]

/-- A reader takes bytes from the front, or fails. -/
abbrev Reader (α : Type) : Type := StateT (List UInt8) Option α

/-- The next bytes, if there are so many. -/
def take (count : Nat) : Reader (List UInt8) := fun bytes =>
  if count ≤ bytes.length then some (bytes.take count, bytes.drop count) else none

def uint8 : Reader UInt8 := (fun bytes => UInt8.ofNat (number bytes)) <$> take 1
def uint16 : Reader UInt16 := (fun bytes => UInt16.ofNat (number bytes)) <$> take 2
def uint32 : Reader UInt32 := (fun bytes => UInt32.ofNat (number bytes)) <$> take 4

variable {count : Nat}

section Reads
variable {α β : Type}

/-- The reader gets the value from these bytes, whatever follows them. -/
def Reads (reader : Reader α) (bytes : List UInt8) (value : α) : Prop :=
  ∀ rest, reader (bytes ++ rest) = some (value, rest)

theorem reads_pure (value : α) : Reads (pure value) [] value := fun _ => rfl

variable {reader : Reader α} {value : α} {bytes : List UInt8}

theorem Reads.bind {next : α → Reader β} {front back : List UInt8} {result : β}
    (first : Reads reader front value) (second : Reads (next value) back result) :
    Reads (reader >>= next) (front ++ back) result := by
  intro rest
  have read := first (back ++ rest)
  rw [List.append_assoc]
  show (reader (front ++ (back ++ rest))).bind (fun pair => next pair.1 pair.2) = _
  rw [read]
  exact second rest

theorem Reads.last {next : α → Reader β} {result : β} (reads : Reads reader bytes value)
    (done : Reads (next value) [] result) :
    Reads (reader >>= next) bytes result := by
  have both := reads.bind done
  rwa [List.append_nil] at both

theorem Reads.map (reads : Reads reader bytes value) (change : α → β) :
    Reads (change <$> reader) bytes (change value) := by
  intro rest
  show (reader (bytes ++ rest)).bind (fun pair => some (change pair.1, pair.2)) = _
  rw [reads rest]
  rfl

theorem reads_take (bytes : List UInt8) : Reads (take bytes.length) bytes bytes := by
  intro rest
  have enough : bytes.length ≤ (bytes ++ rest).length := by simp
  rw [take, if_pos enough, List.take_left, List.drop_left]

theorem reads_take_of_length (length : bytes.length = count) : Reads (take count) bytes bytes := by
  rw [← length]
  exact reads_take bytes

/-- What a number leaves in its bytes. -/
theorem reads_uint8_ofNat (value : Nat) : Reads uint8 (bigEndian 1 value) (UInt8.ofNat value) := by
  have read := (reads_take_of_length (length_bigEndian 1 value)).map
    (fun bytes => UInt8.ofNat (number bytes))
  rwa [number_bigEndian, show (256 ^ 1 : Nat) = 2 ^ 8 from rfl, UInt8.ofNat_mod_size] at read

theorem reads_uint16_ofNat (value : Nat) :
    Reads uint16 (bigEndian 2 value) (UInt16.ofNat value) := by
  have read := (reads_take_of_length (length_bigEndian 2 value)).map
    (fun bytes => UInt16.ofNat (number bytes))
  rwa [number_bigEndian, show (256 ^ 2 : Nat) = 2 ^ 16 from rfl, UInt16.ofNat_mod_size] at read

theorem reads_uint32_ofNat (value : Nat) :
    Reads uint32 (bigEndian 4 value) (UInt32.ofNat value) := by
  have read := (reads_take_of_length (length_bigEndian 4 value)).map
    (fun bytes => UInt32.ofNat (number bytes))
  rwa [number_bigEndian, show (256 ^ 4 : Nat) = 2 ^ 32 from rfl, UInt32.ofNat_mod_size] at read

theorem reads_uint8 (value : UInt8) : Reads uint8 (bigEndian 1 value.toNat) value := by
  have read := reads_uint8_ofNat value.toNat
  rwa [UInt8.ofNat_toNat] at read

theorem reads_byte (value : UInt8) : Reads uint8 [value] value := by
  have read := reads_uint8 value
  rwa [show bigEndian 1 value.toNat = [value] by simp [bigEndian]] at read

theorem reads_uint16 (value : UInt16) : Reads uint16 (bigEndian 2 value.toNat) value := by
  have read := reads_uint16_ofNat value.toNat
  rwa [UInt16.ofNat_toNat] at read

theorem reads_uint32 (value : UInt32) : Reads uint32 (bigEndian 4 value.toNat) value := by
  have read := reads_uint32_ofNat value.toNat
  rwa [UInt32.ofNat_toNat] at read

theorem Reads.run' (reads : Reads reader bytes value) : reader.run' bytes = some value := by
  have whole := reads []
  rw [List.append_nil] at whole
  show (reader bytes).map Prod.fst = some value
  rw [whole]
  rfl

end Reads

section Consumes
variable {α β : Type}

/-- The reader gets something from any bytes, if there are so many. -/
def Consumes (reader : Reader α) (count : Nat) : Prop :=
  ∀ bytes, count ≤ bytes.length → ∃ value, reader bytes = some (value, bytes.drop count)

theorem consumes_pure (value : α) : Consumes (pure value) 0 := fun _ _ => ⟨value, rfl⟩

theorem consumes_take (count : Nat) : Consumes (take count) count := by
  intro bytes enough
  exact ⟨bytes.take count, if_pos enough⟩

theorem Consumes.bind {reader : Reader α} {next : α → Reader β} {first second : Nat}
    (front : Consumes reader first) (back : ∀ value, Consumes (next value) second) :
    Consumes (reader >>= next) (first + second) := by
  intro bytes enough
  have ⟨value, read⟩ := front bytes (by omega)
  have ⟨result, rest⟩ := back value (bytes.drop first) (by rw [List.length_drop]; omega)
  refine ⟨result, ?_⟩
  show (reader bytes).bind (fun pair => next pair.1 pair.2) = _
  rw [read, ← List.drop_drop]
  exact rest

theorem Consumes.map {reader : Reader α} (consumes : Consumes reader count) (change : α → β) :
    Consumes (change <$> reader) count := by
  intro bytes enough
  have ⟨value, read⟩ := consumes bytes enough
  refine ⟨change value, ?_⟩
  show (reader bytes).bind (fun pair => some (change pair.1, pair.2)) = _
  rw [read]
  rfl

theorem consumes_uint8 : Consumes uint8 1 := (consumes_take 1).map _
theorem consumes_uint16 : Consumes uint16 2 := (consumes_take 2).map _
theorem consumes_uint32 : Consumes uint32 4 := (consumes_take 4).map _

end Consumes

section Takes
variable {α β : Type}

/-- The reader gets what the next bytes are, so many of them, and fails if there are fewer. -/
structure Takes (reader : Reader α) (count : Nat) : Prop where
  reads : ∀ bytes, bytes.length = count → ∃ value, Reads reader bytes value
  fails : ∀ bytes, bytes.length < count → reader bytes = none

theorem takes_pure (value : α) : Takes (pure value) 0 where
  reads bytes empty := by
    rw [List.eq_nil_of_length_eq_zero empty]
    exact ⟨value, reads_pure value⟩
  fails _ negative := absurd negative (Nat.not_lt_zero _)

theorem takes_take (count : Nat) : Takes (take count) count where
  reads bytes length := ⟨bytes, reads_take_of_length length⟩
  fails bytes short := by rw [take, if_neg (by omega)]

variable {reader : Reader α}

theorem Takes.bind {next : α → Reader β} {first second : Nat} (front : Takes reader first)
    (back : ∀ value, Takes (next value) second) :
    Takes (reader >>= next) (first + second) := by
  constructor
  · intro bytes length
    have ⟨value, read⟩ := front.reads (bytes.take first) (by rw [List.length_take]; omega)
    have ⟨result, rest⟩ := (back value).reads (bytes.drop first) (by rw [List.length_drop]; omega)
    have both := read.bind rest
    rw [List.take_append_drop] at both
    exact ⟨result, both⟩
  · intro bytes short
    show (reader bytes).bind (fun pair => next pair.1 pair.2) = none
    by_cases enough : first ≤ bytes.length
    · have ⟨value, read⟩ := front.reads (bytes.take first) (List.length_take_of_le enough)
      have whole := read (bytes.drop first)
      rw [List.take_append_drop] at whole
      rw [whole]
      exact (back value).fails (bytes.drop first) (by rw [List.length_drop]; omega)
    · rw [front.fails bytes (by omega)]
      rfl

theorem Takes.map (takes : Takes reader count) (change : α → β) :
    Takes (change <$> reader) count where
  reads bytes length := by
    have ⟨value, read⟩ := takes.reads bytes length
    exact ⟨change value, read.map change⟩
  fails bytes short := by
    show (reader bytes).bind (fun pair => some (change pair.1, pair.2)) = none
    rw [takes.fails bytes short]
    rfl

theorem takes_uint8 : Takes uint8 1 := (takes_take 1).map _
theorem takes_uint16 : Takes uint16 2 := (takes_take 2).map _

/-- What such a reader makes of any bytes comes from the first of them. -/
theorem Takes.eq (takes : Takes reader count) (bytes : List UInt8) :
    reader bytes =
      if count ≤ bytes.length then
        (reader (bytes.take count)).map (fun decoded => (decoded.1, bytes.drop count))
      else none := by
  by_cases enough : count ≤ bytes.length
  · have ⟨value, read⟩ := takes.reads (bytes.take count) (List.length_take_of_le enough)
    have alone := read []
    have whole := read (bytes.drop count)
    rw [List.append_nil] at alone
    rw [List.take_append_drop] at whole
    rw [if_pos enough, alone, whole]
    rfl
  · rw [if_neg enough, takes.fails bytes (by omega)]

end Takes

end ByteCodec
