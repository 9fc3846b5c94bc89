import OpenLighting.BoundedReads
import OpenLighting.RdmDecoderBounds

/- For which bytes each decoder of RDM messages reads nothing but these bytes. -/
namespace OpenLighting.Rdm

open BoundedReads

/-- A decoder that reads beyond its data. -/
def decoded {α : Type} : Except Overread α → Except Fault α
  | .ok result => .ok result
  | .error _ => .error .outside

/-- The lengths that `VerifyData` does not wrap for: a message length that is not zero, and
parameter data inside of a packet that is too short for a checksum, if they are copied. -/
structure FitsFor (Copied : CommandHeader → Prop) (data : List UInt8) : Prop where
  message : ∀ header, CommandHeader.ofBytes data = some header →
    header.subStartCode = subStartCode → header.messageLength ≠ 0
  parameters : ∀ header, CommandHeader.ofBytes data = some header → Copied header →
    data.length < headerSize + checksumLength → header.subStartCode = subStartCode →
    header.messageLength.toNat < data.length → Summed data header.messageLength.toNat →
    headerSize + header.paramDataLength.toNat ≤ data.length

/-- What `RDMRequest::InflateFromData` takes for a request. -/
def IsRequest (header : CommandHeader) : Prop :=
  convertCommandClass header.commandClass = .discoverCommand ∨
    convertCommandClass header.commandClass = .getCommand ∨
    convertCommandClass header.commandClass = .setCommand

/-- What `RDMResponse::InflateFromData` takes for a response to the request, with this transaction
number. -/
def IsResponse (request : Option Command) (transactionNumber : UInt8) (header : CommandHeader) :
    Prop :=
  (∀ sent, request = some sent → matchRequest header sent transactionNumber = .completedOk) ∧
    header.portId ≤ ackOverflow ∧
    (convertCommandClass header.commandClass = .discoverCommandResponse ∨
      convertCommandClass header.commandClass = .getCommandResponse ∨
      convertCommandClass header.commandClass = .setCommandResponse)

/-- The same, with the transaction number of the request. -/
def IsAnswer (request : Option Command) : CommandHeader → Prop :=
  IsResponse request ((request.map Command.transactionNumber).getD 0)

theorem succeeds_decoded_iff {α : Type} (run : Except Overread α) :
    Succeeds (decoded run) ↔ run ≠ .error .overread := by
  cases run with
  | ok result =>
    constructor
    · intro _ wrong
      cases wrong
    · intro _
      exact ⟨result, rfl⟩
  | error beyond =>
    cases beyond
    exact ⟨fun wrong => absurd wrong (not_succeeds_error _), fun wrong => absurd rfl wrong⟩

section Decoders
variable {data : List UInt8} {β : Type} {Copied : CommandHeader → Prop}

theorem construct_beyond {header : CommandHeader} (commandClass : CommandClass)
    (transactionNumber : UInt8)
    (beyond : data.length < headerSize + header.paramDataLength.toNat) :
    header.construct commandClass transactionNumber data = .error .overread := by
  rw [CommandHeader.construct, if_neg (by omega)]

theorem construct_overread_iff (header : CommandHeader) (commandClass : CommandClass)
    (transactionNumber : UInt8) :
    header.construct commandClass transactionNumber data = .error .overread ↔
      data.length < headerSize + header.paramDataLength.toNat := by
  constructor
  · intro overread
    by_cases inside : headerSize + header.paramDataLength.toNat ≤ data.length
    · have ⟨command, built⟩ := construct_inside commandClass transactionNumber inside
      rw [built] at overread
      cases overread
    · omega
  · exact construct_beyond commandClass transactionNumber

/-- A decoder that does what `VerifyData` says, and copies the parameter data of some headers. -/
theorem decoder_overread_iff (counted : data.length < 2 ^ 32) (decoder : Except Overread β)
    (passes : verifyData data = .error .overread → decoder = .error .overread)
    (refuses : ∀ code, verifyData data = .ok (.error code) → decoder ≠ .error .overread)
    (copies : ∀ header, verifyData data = .ok (.ok header) →
      (decoder = .error .overread ↔
        Copied header ∧ data.length < headerSize + header.paramDataLength.toNat)) :
    decoder ≠ .error .overread ↔ FitsFor Copied data := by
  constructor
  · intro inside
    have message (header) (found : CommandHeader.ofBytes data = some header)
        (started : header.subStartCode = subStartCode) : header.messageLength ≠ 0 :=
      fun zero => inside (passes (verifyData_zero counted found started zero))
    refine ⟨message, fun header found copied short started complete summed => ?_⟩
    have verified := verifyData_short short found started (message header found started) complete
      summed
    by_contra beyond
    exact inside ((copies header verified).mpr ⟨copied, by omega⟩)
  · intro fits overread
    cases verified : verifyData data with
    | error beyond =>
      rcases verifyData_reaches data with ⟨code, refused⟩ | ⟨header, found, started, complete⟩
      · rw [refused] at verified
        cases verified
      · rw [verifyData_sized counted found started (fits.message header found started) complete]
          at verified
        cases verified
    | ok result =>
      cases result with
      | error code => exact refuses code verified overread
      | ok header =>
        have accepted := verifyData_accepts counted verified
        have ⟨copied, beyond⟩ := (copies header verified).mp overread
        by_cases short : data.length < headerSize + checksumLength
        · have inside := fits.parameters header accepted.found copied short accepted.started
            accepted.complete accepted.summed
          omega
        · have room := accepted.fits
          unfold headerSize checksumLength at *
          omega

theorem bind_overread_iff {γ : Type} (change : β → γ) (run : Except Overread β) :
    (run >>= fun result => .ok (change result)) = .error .overread ↔ run = .error .overread :=
  map_overread_iff change run

/-- A check that refuses without a look at the data. -/
theorem refused_overread_iff {refused : Prop} [Decidable refused] (refusal : β)
    (run : Except Overread β) :
    (if refused then .ok refusal else run) = .error .overread ↔
      ¬ refused ∧ run = .error .overread := by
  by_cases held : refused
  · simp only [held, if_true, not_true_eq_false, false_and, reduceCtorEq]
  · simp only [held, if_false, not_false_eq_true, true_and]

theorem inflateRequest_fits_iff (counted : data.length < 2 ^ 32) :
    inflateRequest data ≠ .error .overread ↔ FitsFor IsRequest data := by
  apply decoder_overread_iff counted
  · intro overread
    rw [inflateRequest, overread]
    rfl
  · intro code refused
    rw [inflateRequest, refused]
    intro wrong
    cases wrong
  · intro header verified
    rw [inflateRequest, verified, ok_bind]
    dsimp only
    unfold IsRequest
    cases convertCommandClass header.commandClass with
    | discoverCommand | getCommand | setCommand =>
      simp only [map_overread_iff, construct_overread_iff, reduceCtorEq, true_or, or_true,
        true_and]
    | _ => simp only [reduceCtorEq, or_self, false_and]

theorem inflateResponse_fits_iff (counted : data.length < 2 ^ 32) (request : Option Command)
    (transactionNumber : UInt8) :
    inflateResponse data request transactionNumber ≠ .error .overread ↔
      FitsFor (IsResponse request transactionNumber) data := by
  apply decoder_overread_iff counted
  · intro overread
    rw [inflateResponse, overread]
    rfl
  · intro code refused
    rw [inflateResponse, refused]
    intro wrong
    cases wrong
  · intro header verified
    rw [inflateResponse, verified, ok_bind]
    unfold IsResponse
    rw [refused_overread_iff, refused_overread_iff, not_not, UInt8.not_lt, and_assoc, and_assoc]
    apply and_congr
    · cases request with
      | none | some sent => simp
    · apply and_congr_right'
      cases convertCommandClass header.commandClass with
      | discoverCommandResponse | getCommandResponse | setCommandResponse =>
        simp only [bind_overread_iff, construct_overread_iff, reduceCtorEq, true_or, or_true,
          true_and]
      | _ => simp only [reduceCtorEq, or_self, false_and]

theorem inflateFromData_fits_iff (counted : data.length < 2 ^ 32) (request : Option Command) :
    inflateFromData data request ≠ .error .overread ↔ FitsFor (IsAnswer request) data := by
  cases request with
  | none => exact inflateResponse_fits_iff counted none 0
  | some request => exact inflateResponse_fits_iff counted (some request) request.transactionNumber

end Decoders

end OpenLighting.Rdm
