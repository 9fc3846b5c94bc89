import OpenLighting.NetworkUtils
import OpenLighting.TransitionSystem

namespace OpenLighting.RpcChannel

open NetworkUtils TransitionSystem

def versionMask : BitVec 32 := 0xf0000000
def sizeMask : BitVec 32 := 0x0fffffff

def encodeHeader (version size : BitVec 32) : BitVec 32 :=
  ((version <<< 28) &&& versionMask) ||| (size &&& sizeMask)

def decodeHeader (header : BitVec 32) : BitVec 32 × BitVec 32 :=
  ((header &&& versionMask) >>> 28, header &&& sizeMask)

theorem decodeHeader_version (header : BitVec 32) :
    (decodeHeader header).1.toNat = header.toNat / 2 ^ 28 := by
  have shifted : (header &&& versionMask) >>> 28 = header >>> 28 := by
    unfold versionMask
    ext bit below
    interval_cases bit <;> simp
  unfold decodeHeader
  rw [shifted, BitVec.toNat_ushiftRight, Nat.shiftRight_eq_div_pow]

theorem decodeHeader_size (header : BitVec 32) :
    (decodeHeader header).2.toNat = header.toNat % 2 ^ 28 := by
  unfold decodeHeader
  exact Nat.and_two_pow_sub_one_eq_mod header.toNat 28

theorem toNat_encodeHeader {version size : Nat} (versions : version < 2 ^ 4)
    (sizes : size < 2 ^ 28) :
    (encodeHeader (BitVec.ofNat 32 version) (BitVec.ofNat 32 size)).toNat =
      2 ^ 28 * version + size := by
  have high : ((BitVec.ofNat 32 version <<< 28) &&& versionMask).toNat = 2 ^ 28 * version := by
    have shifted : (BitVec.ofNat 32 version <<< 28) &&& versionMask =
        BitVec.ofNat 32 version <<< 28 := by
      unfold versionMask
      ext bit below
      interval_cases bit <;> simp
    rw [shifted, BitVec.toNat_shiftLeft, Nat.shiftLeft_eq, BitVec.toNat_ofNat,
      Nat.mod_eq_of_lt (by omega), Nat.mod_eq_of_lt (by omega), Nat.mul_comm]
  have low : (BitVec.ofNat 32 size &&& sizeMask).toNat = size := by
    have masked := decodeHeader_size (BitVec.ofNat 32 size)
    unfold decodeHeader at masked
    rw [masked, BitVec.toNat_ofNat]
    omega
  unfold encodeHeader
  rw [BitVec.toNat_or, high, low, ← Nat.two_pow_add_eq_or_of_lt sizes]

def protocolVersion : Nat := 1
def initialBufferSize : Nat := 2048
def maxBufferSize : Nat := 1048576

/-- A call of `Receive` into `m_buffer + m_current_size`. -/
structure Request where
  size : Nat
  currentSize : Nat
  allocated : Nat
  deriving DecidableEq

/-- The receiving half of an `RpcChannel` with its descriptor. `buffer` is the memory that
is allocated, `available` is what `read` finds; `requests` and `handed` are the calls of
`Receive` for a message and of `HandleNewMsg`. -/
structure Receiver where
  buffer : List UInt8
  bufferSize : Nat
  expectedSize : Nat
  currentSize : Nat
  valid : Bool
  available : List UInt8
  requests : List Request
  handed : List (List UInt8)
  deriving DecidableEq

/-- A call of `DescriptorReady`: what has arrived before it, what is found in the memory
of the local `header`, and whether `realloc` succeeds. -/
structure Arrival where
  chunk : List UInt8
  header : BitVec 32
  memory : Bool
  deriving DecidableEq

namespace Receiver

def initial : Receiver := ⟨[], 0, 0, 0, true, [], [], []⟩

/-- `ReadHeader`, for a valid descriptor: the bytes that `Receive` finds overwrite the first
bytes of the header. The host is little-endian. -/
def readHeader (state : Receiver) (header : BitVec 32) : Receiver × Nat × Nat :=
  let read := state.available.take 4
  let state := { state with available := state.available.drop 4 }
  if read.isEmpty then (state, 0, 0)
  else
    let bytes := read ++ (bytesOf 4 header.toNat).drop read.length
    let (version, size) := decodeHeader (BitVec.ofNat 32 (valueOf bytes))
    (state, version.toNat, size.toNat)

def allocateMsgBuffer (state : Receiver) (size : Nat) (memory : Bool) : Receiver × Nat :=
  if size < state.bufferSize then (state, size)
  else
    let requestedSize :=
      if state.bufferSize = 0 ∧ size < initialBufferSize then initialBufferSize else size
    if requestedSize > maxBufferSize then (state, state.bufferSize)
    else if memory then
      ({ state with
          buffer := state.buffer.take requestedSize ++
            List.replicate (requestedSize - state.buffer.length) 0
          bufferSize := requestedSize },
        requestedSize)
    else (state, state.bufferSize)

/-- What `Receive` writes to the buffer. Only what is allocated is memory. -/
def fill (buffer : List UInt8) (offset : Nat) (data : List UInt8) : List UInt8 :=
  buffer.take offset ++ data.take (buffer.length - offset) ++ buffer.drop (offset + data.length)

/-- The part of `DescriptorReady` that reads a message. -/
def receiveMessage (parses : List UInt8 → Bool) (state : Receiver) : Receiver :=
  let size := (state.expectedSize + 2 ^ 32 - state.currentSize) % 2 ^ 32
  let state := { state with
    requests := state.requests ++ [Request.mk size state.currentSize state.buffer.length] }
  if state.valid then
    let data := state.available.take size
    let state := { state with
      buffer := fill state.buffer state.currentSize data
      currentSize := (state.currentSize + data.length) % 2 ^ 32
      available := state.available.drop size }
    if state.currentSize = state.expectedSize then
      let message := state.buffer.take state.expectedSize
      { state with
        handed := state.handed ++ [message]
        valid := parses message
        expectedSize := 0 }
    else state
  else state

/-- The part of `DescriptorReady` that starts a message, up to the point where it can be
read. -/
def startMessage (state : Receiver) (arrival : Arrival) : Receiver × Bool :=
  if state.valid then
    let (state, version, size) := state.readHeader arrival.header
    let state := { state with expectedSize := size }
    if size = 0 then (state, false)
    else if version ≠ protocolVersion then (state, false)
    else if size > maxBufferSize then ({ state with valid := false }, false)
    else
      let (state, bufferSize) := { state with currentSize := 0 }.allocateMsgBuffer size arrival.memory
      let state := { state with bufferSize := bufferSize }
      (state, !(bufferSize < size))
  else ({ state with expectedSize := 0 }, false)

/-- `DescriptorReady`; `parses` is what `HandleNewMsg` returns. -/
def descriptorReady (parses : List UInt8 → Bool) (state : Receiver) (arrival : Arrival) :
    Receiver :=
  let state := { state with available := state.available ++ arrival.chunk }
  if state.expectedSize = 0 then
    match state.startMessage arrival with
    | (state, true) => state.receiveMessage parses
    | (state, false) => state
  else state.receiveMessage parses

end Receiver

end OpenLighting.RpcChannel
