import OpenLighting.AcnPdu
import OpenLighting.Descriptor
import OpenLighting.TransitionSystem

/- ACN over TCP: the receiver of a stream of PDU blocks. -/
namespace OpenLighting.Acn.Stream

open ByteCodec TransitionSystem Descriptor

/-- `ACN_HEADER`. For TCP, the next four bytes are the block size. -/
def acnHeader : List UInt8 :=
  [0x00, 0x14, 0x00, 0x00, 0x41, 0x53, 0x43, 0x2d, 0x45, 0x31, 0x2e, 0x31, 0x37, 0x00, 0x00, 0x00]

/-- `ACN_HEADER_SIZE` and `PDU_BLOCK_SIZE`. -/
def acnHeaderSize : Nat := 16
def pduBlockSize : Nat := 4

def initialSize : Nat := 500

inductive RXState where
  | waitingForPreamble
  | waitingForPDUFlags
  | waitingForPDULength
  | waitingForPDU
  deriving DecidableEq

inductive PDULengthSize where
  | twoBytes
  | threeBytes
  deriving DecidableEq

def PDULengthSize.bytes : PDULengthSize → Nat
  | .twoBytes => 2
  | .threeBytes => 3

/-- What an `IncommingStreamTransport` knows besides the bytes in its buffer. `inflated` are
the PDUs that the inflator was called with. -/
structure Machine where
  dataLength : Nat
  outstanding : Nat
  state : RXState
  blockSize : UInt32
  consumedBlockSize : UInt32
  valid : Bool
  lengthSize : PDULengthSize
  pduSize : Nat
  inflated : List (List UInt8)
  deriving DecidableEq

variable (machine : Machine) (data : List UInt8)

namespace Machine

def enterWaitingForPreamble : Machine :=
  { machine with
    dataLength := 0
    state := .waitingForPreamble
    outstanding := acnHeaderSize + pduBlockSize }

def enterWaitingForPDU : Machine :=
  { machine with
    dataLength := 0
    state := .waitingForPDUFlags
    outstanding := 1 }

/-- The constructor. -/
def initial : Machine :=
  enterWaitingForPreamble ⟨0, 0, .waitingForPreamble, 0, 0, true, .twoBytes, 0, []⟩

/-- `HandlePreamble`. `data` is here and below what is in the buffer. -/
def handlePreamble : Machine :=
  if data.take acnHeaderSize ≠ acnHeader then { machine with valid := false }
  else
    let machine := { machine with
      blockSize := UInt32.ofNat (number ((data.drop acnHeaderSize).take pduBlockSize)) }
    if machine.blockSize ≠ 0 then enterWaitingForPDU { machine with consumedBlockSize := 0 }
    else machine.enterWaitingForPreamble

def handlePDUFlags : Machine :=
  let lengthSize : PDULengthSize :=
    if data.headD 0 &&& lengthFlag ≠ 0 then .threeBytes else .twoBytes
  { machine with
    lengthSize := lengthSize
    outstanding := machine.outstanding + (lengthSize.bytes - 1)
    state := .waitingForPDULength }

/-- The length that `HandlePDULength` reads. -/
def lengthIn (lengthSize : PDULengthSize) (data : List UInt8) : Nat :=
  match lengthSize with
  | .threeBytes =>
    (data.getD 2 0).toNat + (data.getD 1 0).toNat * 256 +
      (data.headD 0 &&& lengthMask).toNat * 65536
  | .twoBytes => (data.getD 1 0).toNat + (data.headD 0 &&& lengthMask).toNat * 256

def handlePDULength : Machine :=
  let machine := { machine with pduSize := lengthIn machine.lengthSize data }
  if machine.pduSize < machine.lengthSize.bytes then { machine with valid := false }
  else
    { machine with
      outstanding := machine.outstanding + (machine.pduSize - machine.lengthSize.bytes)
      state := .waitingForPDU }

def handlePDU {Header : Type} (layer : Layer Header) (machine : Machine) (data : List UInt8) :
    Machine :=
  if machine.dataLength ≠ machine.pduSize then { machine with valid := false }
  else
    let dataConsumed := (layer.inflatePDUBlock (data.take machine.pduSize)).2
    let machine := { machine with
      inflated := machine.inflated ++ [data.take machine.pduSize] }
    if machine.pduSize ≠ dataConsumed then { machine with valid := false }
    else
      let machine := { machine with
        consumedBlockSize := machine.consumedBlockSize + UInt32.ofNat dataConsumed }
      if machine.consumedBlockSize = machine.blockSize then machine.enterWaitingForPreamble
      else machine.enterWaitingForPDU

/-- The switch in `Receive`. -/
def handle {Header : Type} (layer : Layer Header) (machine : Machine) (data : List UInt8) :
    Machine :=
  match machine.state with
  | .waitingForPreamble => machine.handlePreamble data
  | .waitingForPDUFlags => machine.handlePDUFlags data
  | .waitingForPDULength => machine.handlePDULength data
  | .waitingForPDU => machine.handlePDU layer data

/-- `data_read` bytes were read. -/
def received (dataRead : Nat) : Machine :=
  { machine with
    dataLength := machine.dataLength + dataRead
    outstanding := machine.outstanding - dataRead }

end Machine

/-- An `IncommingStreamTransport` with its descriptor. `pending` is what the next reads find;
`accesses` are the reads so far. It is `running` while `Receive` is. -/
structure Transport where
  machine : Machine
  buffer : List UInt8
  accesses : List Access
  pending : List (List UInt8)
  running : Bool
  deriving DecidableEq

/-- `Receive` is called, and goes through its loop once; a read finds something when its turn
comes. -/
inductive Event where
  | arrives (found : List UInt8)
  | receive
  | pass
  deriving DecidableEq

namespace Transport

def initial : Transport := ⟨Machine.initial, [], [], [], false⟩

def increaseBufferSize (transport : Transport) (newSize : Nat) : Transport :=
  if newSize ≤ transport.buffer.length then transport
  else
    { transport with
      buffer := transport.buffer.take transport.machine.dataLength ++
        List.replicate (max newSize initialSize - transport.machine.dataLength) 0 }

def readRequiredData (transport : Transport) : Transport :=
  let machine := transport.machine
  if machine.outstanding = 0 then transport
  else
    let transport :=
      if machine.outstanding > transport.buffer.length - machine.dataLength then
        transport.increaseBufferSize (machine.dataLength + machine.outstanding)
      else transport
    let received :=
      Descriptor.receive machine.outstanding transport.pending transport.buffer machine.dataLength
    { transport with
      buffer := received.buffer
      pending := received.pending
      accesses := transport.accesses ++ received.accesses
      machine := machine.received received.dataRead }

/-- The loop of `Receive`, once. -/
def pass {Header : Type} (layer : Layer Header) (transport : Transport) : Transport :=
  if transport.running then
    let transport := transport.readRequiredData
    if transport.machine.valid = false ∨ transport.machine.outstanding ≠ 0 then
      { transport with running := false }
    else
      let machine := transport.machine.handle layer
        (transport.buffer.take transport.machine.dataLength)
      { transport with
        machine := machine
        running := machine.valid }
  else transport

def step {Header : Type} (layer : Layer Header) (transport : Transport) : Event → Transport
  | .arrives found => { transport with pending := transport.pending ++ [found] }
  | .receive => { transport with running := true }
  | .pass => transport.pass layer

/-- At most two reads find what a pass asks for. -/
def Contiguous (transport : Transport) : Event → Prop
  | .pass =>
    transport.running = true →
      Descriptor.Contiguous transport.machine.outstanding transport.pending
  | _ => True

instance (transport : Transport) : (event : Event) → Decidable (transport.Contiguous event)
  | .pass => inferInstanceAs (Decidable (_ → _))
  | .arrives _ => .isTrue trivial
  | .receive => .isTrue trivial

end Transport

end OpenLighting.Acn.Stream
