import OpenLighting.RdmCommandRoundTrip

/- What `VerifyData` and the decoders behind it read, for any bytes. -/
namespace OpenLighting.Rdm

/-- The two bytes before and at the message length are the sum of what is in front of them. -/
def Summed (data : List UInt8) (messageLength : Nat) : Prop :=
  word (data.getD (messageLength - 1) 0, data.getD messageLength 0) =
    checksum16 (data.take (messageLength - 1))

instance (data : List UInt8) (messageLength : Nat) : Decidable (Summed data messageLength) :=
  inferInstanceAs (Decidable (_ = _))

/-- No decoder reads beyond the data, and what `VerifyData` accepts has its parameter data and
its checksum inside. -/
structure ReadsInside (data : List UInt8) : Prop where
  verify : verifyData data ≠ .error .overread
  parameters : ∀ header, verifyData data = .ok (.ok header) →
    headerSize + header.paramDataLength.toNat ≤ data.length
  checksum : ∀ header, verifyData data = .ok (.ok header) →
    0 < header.messageLength.toNat ∧ header.messageLength.toNat < data.length
  request : inflateRequest data ≠ .error .overread
  response : ∀ request transactionNumber,
    inflateResponse data request transactionNumber ≠ .error .overread
  discovery : ∀ expected, inflateDiscovery expected data ≠ .error .overread
  command : inflate data ≠ .error .overread

/-- The lengths that the two subtractions of `VerifyData` do not wrap for: a message length that
is not zero, and parameter data inside a packet that has no room for a checksum behind its
header. -/
structure LengthsFit (data : List UInt8) : Prop where
  message : ∀ header, CommandHeader.ofBytes data = some header →
    header.subStartCode = subStartCode → header.messageLength ≠ 0
  parameters : ∀ header, CommandHeader.ofBytes data = some header →
    data.length < headerSize + checksumLength → header.subStartCode = subStartCode →
    header.messageLength.toNat < data.length → Summed data header.messageLength.toNat →
    headerSize + header.paramDataLength.toNat ≤ data.length

section Verify
variable {data : List UInt8} {header : CommandHeader}

theorem ofBytes_length (found : CommandHeader.ofBytes data = some header) :
    headerSize ≤ data.length := by
  unfold CommandHeader.ofBytes at found
  split at found
  · simp only [headerSize, List.length_cons]
    omega
  · cases found

theorem readByte_inside {index : Nat} (inside : index < data.length) :
    readByte data index = .ok (data.getD index 0) := by
  simp [readByte, List.getElem?_eq_getElem inside]

theorem readByte_beyond {index : Nat} (beyond : data.length ≤ index) :
    readByte data index = .error .overread := by
  rw [readByte, List.getElem?_eq_none beyond]

section

variable (counted : data.length < 2 ^ 32) (found : CommandHeader.ofBytes data = some header)
  (started : header.subStartCode = subStartCode)
include counted found started

/-- With a message length of zero, the sum runs over `2 ^ 32 - 1` bytes and one more is read. -/
theorem verifyData_zero (zero : header.messageLength = 0) : verifyData data = .error .overread := by
  have long := ofBytes_length found
  have complete : ¬ data.length < (0 : UInt8).toNat + 1 := by
    rw [UInt8.toNat_zero]
    unfold headerSize at long
    omega
  have wrapped : ((0 : UInt8).toNat + 2 ^ 32 - 1) % 2 ^ 32 = 2 ^ 32 - 1 := rfl
  unfold verifyData
  simp only [found, started, zero, wrapped]
  rw [if_neg (fun wrong => wrong rfl), if_neg complete]
  by_cases whole : 2 ^ 32 - 1 ≤ data.length
  · rw [calculateChecksum, if_pos whole, readByte_beyond (by omega)]
    rfl
  · rw [calculateChecksum, if_neg whole]
    rfl

/-- Otherwise all reads are inside, and the block size decides last. -/
theorem verifyData_sized (sized : header.messageLength ≠ 0)
    (complete : header.messageLength.toNat < data.length) :
    verifyData data = .ok
      (if ¬ Summed data header.messageLength.toNat then .error .checksumIncorrect
      else if (data.length + 2 ^ 32 - headerSize - 2) % 2 ^ 32 < header.paramDataLength.toNat then
        .error .paramLengthMismatch
      else .ok header) := by
  have positive : 0 < header.messageLength.toNat := by
    apply Nat.pos_of_ne_zero
    exact fun zero => sized (UInt8.toNat_inj.mp zero)
  have packetLength : (header.messageLength.toNat + 2 ^ 32 - 1) % 2 ^ 32 =
      header.messageLength.toNat - 1 := by omega
  have sum : calculateChecksum data (header.messageLength.toNat - 1) =
      .ok (checksum16 (data.take (header.messageLength.toNat - 1))) := by
    rw [calculateChecksum, if_pos (by omega), checksum_wide]
    rfl
  have high := @readByte_inside data (header.messageLength.toNat - 1) (by omega)
  have low := readByte_inside complete
  unfold verifyData
  simp only [found, started, packetLength, sum, high, low]
  rw [if_neg (fun wrong => wrong rfl), if_neg (by omega)]
  show (if word _ ≠ _ then _ else _) = _
  unfold Summed
  split_ifs <;> rfl

end

/-- What is known of a header that `VerifyData` hands over. -/
structure Accepted (data : List UInt8) (header : CommandHeader) : Prop where
  found : CommandHeader.ofBytes data = some header
  started : header.subStartCode = subStartCode
  positive : 0 < header.messageLength.toNat
  complete : header.messageLength.toNat < data.length
  summed : Summed data header.messageLength.toNat
  fits : header.paramDataLength.toNat ≤ (data.length + 2 ^ 32 - headerSize - 2) % 2 ^ 32

/-- Up to the message length nothing beyond the header is read. -/
theorem verifyData_reaches (data : List UInt8) : (∃ code, verifyData data = .ok (.error code)) ∨
    ∃ header, CommandHeader.ofBytes data = some header ∧ header.subStartCode = subStartCode ∧
      header.messageLength.toNat < data.length := by
  unfold verifyData
  cases CommandHeader.ofBytes data with
  | none => exact .inl ⟨_, rfl⟩
  | some header =>
    simp only
    by_cases started : header.subStartCode = subStartCode
    · by_cases complete : header.messageLength.toNat < data.length
      · exact .inr ⟨header, rfl, started, complete⟩
      · rw [if_neg (fun wrong => wrong started), if_pos (by omega)]
        exact .inl ⟨_, rfl⟩
    · rw [if_pos started]
      exact .inl ⟨_, rfl⟩

theorem verifyData_accepts (counted : data.length < 2 ^ 32)
    (verified : verifyData data = .ok (.ok header)) : Accepted data header := by
  rcases verifyData_reaches data with ⟨code, refused⟩ | ⟨seen, found, started, complete⟩
  · rw [verified] at refused
    cases refused
  · by_cases zero : seen.messageLength = 0
    · rw [verifyData_zero counted found started zero] at verified
      cases verified
    · have positive : 0 < seen.messageLength.toNat :=
        Nat.pos_of_ne_zero (fun same => zero (UInt8.toNat_inj.mp same))
      rw [verifyData_sized counted found started zero complete] at verified
      by_cases summed : Summed data seen.messageLength.toNat
      · split_ifs at verified with large
        · cases verified
        · cases verified
          exact ⟨found, started, positive, complete, summed, Nat.le_of_not_lt large⟩
      · rw [if_pos summed] at verified
        cases verified

theorem verifyData_inside (counted : data.length < 2 ^ 32) (fit : LengthsFit data) :
    verifyData data ≠ .error .overread := by
  intro beyond
  rcases verifyData_reaches data with ⟨code, refused⟩ | ⟨header, found, started, complete⟩
  · rw [refused] at beyond
    cases beyond
  · rw [verifyData_sized counted found started (fit.message header found started) complete]
      at beyond
    cases beyond

/-- Behind a packet of 25 bytes or more the block size is what is left of the data. -/
theorem Accepted.parameters (accepted : Accepted data header) (counted : data.length < 2 ^ 32)
    (fit : LengthsFit data) : headerSize + header.paramDataLength.toNat ≤ data.length := by
  by_cases short : data.length < headerSize + checksumLength
  · exact fit.parameters header accepted.found short accepted.started accepted.complete
      accepted.summed
  · have fits := accepted.fits
    unfold headerSize checksumLength at *
    omega

/-- In front of 25 bytes the block size wraps, and no parameter data is too long for it. -/
theorem verifyData_short (short : data.length < headerSize + checksumLength)
    (found : CommandHeader.ofBytes data = some header)
    (started : header.subStartCode = subStartCode) (sized : header.messageLength ≠ 0)
    (complete : header.messageLength.toNat < data.length)
    (summed : Summed data header.messageLength.toNat) : verifyData data = .ok (.ok header) := by
  have byte := header.paramDataLength.toNat_lt
  unfold headerSize checksumLength at *
  have wrapped : ¬ (data.length + 2 ^ 32 - headerSize - 2) % 2 ^ 32 <
      header.paramDataLength.toNat := by
    unfold headerSize
    omega
  rw [verifyData_sized (by omega) found started sized complete, if_neg (fun wrong => wrong summed),
    if_neg wrapped]

end Verify

section Inflate
variable {data : List UInt8}

theorem map_overread_iff {β γ : Type} (change : β → γ) (run : Except Overread β) :
    change <$> run = .error .overread ↔ run = .error .overread := by
  cases run with
  | error beyond =>
    cases beyond
    exact ⟨fun _ => rfl, fun _ => rfl⟩
  | ok result =>
    constructor
    · intro wrong
      cases wrong
    · intro wrong
      cases wrong

theorem construct_inside {header : CommandHeader} (commandClass : CommandClass)
    (transactionNumber : UInt8)
    (inside : headerSize + header.paramDataLength.toNat ≤ data.length) :
    ∃ command, header.construct commandClass transactionNumber data = .ok command := by
  rw [CommandHeader.construct, if_pos inside]
  exact ⟨_, rfl⟩

variable (verify : verifyData data ≠ .error .overread)
  (parameters : ∀ header, verifyData data = .ok (.ok header) →
    headerSize + header.paramDataLength.toNat ≤ data.length)
include verify parameters

/-- What `VerifyData` says decides for the decoders. -/
theorem verifyData_found : (∃ code, verifyData data = .ok (.error code)) ∨
    ∃ header, verifyData data = .ok (.ok header) ∧ ∀ commandClass transactionNumber,
      ∃ command, header.construct commandClass transactionNumber data = .ok command := by
  cases verified : verifyData data with
  | error beyond =>
    cases beyond
    exact absurd verified verify
  | ok result =>
    cases result with
    | error code => exact .inl ⟨code, rfl⟩
    | ok header =>
      exact .inr ⟨header, rfl, fun commandClass transactionNumber =>
        construct_inside commandClass transactionNumber (parameters header verified)⟩

theorem inflateRequest_inside : inflateRequest data ≠ .error .overread := by
  intro beyond
  unfold inflateRequest at beyond
  rcases verifyData_found verify parameters with ⟨code, verified⟩ | ⟨header, verified, built⟩
  · rw [verified] at beyond
    cases beyond
  · rw [verified] at beyond
    simp only [bind, Except.bind] at beyond
    split at beyond
    all_goals
      first
      | cases beyond
      | obtain ⟨command, built⟩ := built _ header.transactionNumber
        rw [built] at beyond
        cases beyond

theorem inflateResponse_inside (request : Option Command) (transactionNumber : UInt8) :
    inflateResponse data request transactionNumber ≠ .error .overread := by
  intro beyond
  unfold inflateResponse at beyond
  rcases verifyData_found verify parameters with ⟨code, verified⟩ | ⟨header, verified, built⟩
  · rw [verified] at beyond
    cases beyond
  · rw [verified] at beyond
    simp only [bind, Except.bind] at beyond
    split_ifs at beyond
    all_goals
      split at beyond
      all_goals
        first
        | cases beyond
        | (split at beyond
           · rename_i failed
             obtain ⟨command, built⟩ := built _ _
             rw [built] at failed
             cases failed
           · cases beyond)

theorem inflateDiscovery_inside (expected : CommandClass) :
    inflateDiscovery expected data ≠ .error .overread := by
  intro beyond
  unfold inflateDiscovery at beyond
  rcases verifyData_found verify parameters with ⟨code, verified⟩ | ⟨header, verified, built⟩
  · rw [verified] at beyond
    cases beyond
  · rw [verified] at beyond
    obtain ⟨command, built⟩ := built expected header.transactionNumber
    simp only [bind, Except.bind, built] at beyond
    split_ifs at beyond
    cases beyond

theorem inflate_inside : inflate data ≠ .error .overread := by
  have request := inflateRequest_inside verify parameters
  have response := inflateResponse_inside verify parameters none 0
  have discovery := inflateDiscovery_inside verify parameters
  intro beyond
  unfold inflate at beyond
  split_ifs at beyond
  split at beyond
  · cases beyond
  · split at beyond
    · exact request beyond
    · exact request beyond
    · exact response ((map_overread_iff Prod.snd _).mp beyond)
    · exact response ((map_overread_iff Prod.snd _).mp beyond)
    · exact discovery .discoverCommand beyond
    · exact discovery .discoverCommandResponse beyond
    · cases beyond

end Inflate

/-- The decoders stay inside exactly where neither subtraction wraps; `length` is an
`unsigned int`. -/
theorem reads_inside_iff (data : List UInt8) (counted : data.length < 2 ^ 32) :
    ReadsInside data ↔ LengthsFit data := by
  constructor
  · intro inside
    refine ⟨?_, ?_⟩
    · intro header found started zero
      exact inside.verify (verifyData_zero counted found started zero)
    · intro header found short started complete summed
      apply inside.parameters header
      apply verifyData_short short found started _ complete summed
      exact fun zero => inside.verify (verifyData_zero counted found started zero)
  · intro fit
    have verify := verifyData_inside counted fit
    have parameters (header) (verified : verifyData data = .ok (.ok header)) :=
      (verifyData_accepts counted verified).parameters counted fit
    exact {
      verify := verify
      parameters := parameters
      checksum := fun header verified =>
        have accepted := verifyData_accepts counted verified
        ⟨accepted.positive, accepted.complete⟩
      request := inflateRequest_inside verify parameters
      response := inflateResponse_inside verify parameters
      discovery := inflateDiscovery_inside verify parameters
      command := inflate_inside verify parameters }

theorem reads_inside_response : ReadsInside exampleResponse.packet :=
  (reads_inside_iff exampleResponse.packet (by decide)).mpr {
    message := fun header found _ => by
      cases found
      decide
    parameters := fun _ _ short _ _ _ => absurd short (by decide) }

/-- A header with a message length of zero. -/
def unsizedPacket : List UInt8 := 1 :: List.replicate 22 0

/-- A header that counts its own first bytes as the checksum, and ten bytes of parameter data
that are not there. -/
def headerOnlyPacket : List UInt8 :=
  [1, 3, 0, 0xd0] ++ List.replicate 15 0 ++ [CommandClass.getCommand.value, 0, 0, 10]

theorem reads_beyond : ¬ ReadsInside unsizedPacket ∧ ¬ ReadsInside headerOnlyPacket := by
  constructor
  · intro inside
    exact inside.verify (verifyData_zero (by decide) rfl rfl rfl)
  · intro inside
    have short := inside.parameters _ (verifyData_short (by decide) rfl rfl (by decide) (by decide)
      (by decide))
    exact absurd short (by decide)

end OpenLighting.Rdm
