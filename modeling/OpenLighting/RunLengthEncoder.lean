import OpenLighting.DmxBuffer

namespace OpenLighting.RunLengthEncoder

def repeatFlag : UInt8 := 0x80

/-- The arithmetic of `unsigned int` wraps: `src_size - 2`. -/
def tailStart (size : Nat) : Nat := (size + (2 ^ 32 - 2)) % 2 ^ 32

/-- The `while` loop that finds the first value that does not repeat. It makes less
than `0x7f` steps. -/
def repeatLoop (src : DmxBuffer) (i : Nat) : Nat → Nat → Nat
  | 0, j => j
  | fuel + 1, j =>
    if j < src.size ∧ src.get i = src.get j ∧ j - i < 0x7f then repeatLoop src i fuel (j + 1)
    else j

variable (src : DmxBuffer)

def repeatEnd (i : Nat) : Nat := repeatLoop src i 0x7f (i + 1)

/-- The `for` loop that finds out where the next repeat starts. -/
def literalLoop (src : DmxBuffer) (i : Nat) : Nat → Nat → Nat
  | 0, j => j
  | fuel + 1, j =>
    if j < tailStart src.size ∧ j - i < 0x7f then
      if j = tailStart src.size then src.size
      else if src.get j = src.get (j + 1) ∧ src.get j = src.get (j + 2) then j
      else literalLoop src i fuel (j + 1)
    else j

/-- One more than the last value to send. -/
def literalEnd (i : Nat) : Nat :=
  let j := literalLoop src i 0x7f (i + 1)
  if tailStart src.size ≤ j then src.size else j

/-- The values from one index up to another, as `memcpy` reads them. -/
def slice (i j : Nat) : List UInt8 := (src.slots.drop i).take (j - i)

/-- The main loop of `Encode`: whether it gets to the end, and the bytes that it writes
from `dstIndex` on. Every round advances, so `fuel` above the size is enough. -/
def encodeLoop (src : DmxBuffer) (dstSize : Nat) : Nat → Nat → Nat → Bool × List UInt8
  | 0, _, _ => (false, [])
  | fuel + 1, i, dstIndex =>
    if i < src.size ∧ dstIndex < dstSize then
      let j := repeatEnd src i
      if 2 < j - i then
        if 1 < dstSize - dstIndex then
          let (complete, rest) := encodeLoop src dstSize fuel j (dstIndex + 2)
          (complete, (repeatFlag ||| UInt8.ofNat (j - i)) :: src.get i :: rest)
        else (false, [])
      else
        let j := literalEnd src i
        if dstIndex + (j - i) < dstSize then
          let (complete, rest) := encodeLoop src dstSize fuel j (dstIndex + 1 + (j - i))
          (complete, UInt8.ofNat (j - i) :: (slice src i j ++ rest))
        else if 1 < dstSize - dstIndex then
          let l := dstSize - dstIndex - 1
          (false, UInt8.ofNat l :: slice src i (i + l))
        else (false, [])
    else (decide (src.size ≤ i), [])

/-- `Encode` into `dstSize` bytes: the result, and the `data_size` bytes written. -/
def encode (dstSize : Nat) : Bool × List UInt8 :=
  encodeLoop src dstSize (src.size + 1) 0 0

/-- The number of bytes that `SetRange` reads. -/
def bytesRead (dst : DmxBuffer) (index length : Nat) : Nat :=
  if dmxUniverseSize ≤ index ∨ dst.prepared.size < index then 0
  else min length (dmxUniverseSize - index)

/-- The loop of `Decode` from an index on, over the rest of the data; `none` where a byte
behind the data is read. -/
def decodeLoop : Nat → Nat → List UInt8 → DmxBuffer → Option DmxBuffer
  | 0, _, _, _ => none
  | _ + 1, _, [], dst => some dst
  | fuel + 1, index, header :: rest, dst =>
    let segmentLength := (header &&& ~~~repeatFlag).toNat
    if header &&& repeatFlag ≠ 0 then
      match rest with
      | [] => none
      | value :: rest =>
        decodeLoop fuel (index + segmentLength) rest
          (dst.setRangeToValue index value segmentLength).1
    else if rest.length < bytesRead dst index segmentLength then none
    else
      decodeLoop fuel (index + segmentLength) (rest.drop segmentLength)
        (dst.setRange index (some (rest.take segmentLength))).1

theorem decodeLoop_repeatSegment {header : UInt8} (flag : header &&& repeatFlag ≠ 0)
    (fuel index : Nat) (value : UInt8) (rest : List UInt8) (dst : DmxBuffer) :
    decodeLoop (fuel + 1) index (header :: value :: rest) dst =
      decodeLoop fuel (index + (header &&& ~~~repeatFlag).toNat) rest
        (dst.setRangeToValue index value (header &&& ~~~repeatFlag).toNat).1 := by
  rw [decodeLoop, if_pos flag]

theorem decodeLoop_literalSegment {header : UInt8} (flag : ¬ (header &&& repeatFlag ≠ 0))
    (fuel index : Nat) (rest : List UInt8) (dst : DmxBuffer) :
    decodeLoop (fuel + 1) index (header :: rest) dst =
      if rest.length < bytesRead dst index (header &&& ~~~repeatFlag).toNat then none
      else
        decodeLoop fuel (index + (header &&& ~~~repeatFlag).toNat)
          (rest.drop (header &&& ~~~repeatFlag).toNat)
          (dst.setRange index (some (rest.take (header &&& ~~~repeatFlag).toNat))).1 := by
  cases rest with
  | nil | cons value rest => rw [decodeLoop, if_neg flag]

def decode (startChannel : Nat) (data : List UInt8) (dst : DmxBuffer) : Option DmxBuffer :=
  decodeLoop (data.length + 1) startChannel data dst

end OpenLighting.RunLengthEncoder
