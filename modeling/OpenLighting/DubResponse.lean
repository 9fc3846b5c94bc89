import Mathlib.Tactic.IntervalCases
import OpenLighting.DiscoveryAgent

namespace OpenLighting.DiscoveryAgent

/-- A byte is sent twice, with the odd and then the even bits forced on. -/
def dubPair (byte : UInt8) : List UInt8 := [byte ||| 0xaa, byte ||| 0x55]

/-- The twelve encoded bytes of a UID. -/
def dubBody (uid : UID) : List UInt8 :=
  dubPair (UInt8.ofNat (uid.estaId.toNat / 2 ^ 8)) ++
  dubPair (UInt8.ofNat uid.estaId.toNat) ++
  dubPair (UInt8.ofNat (uid.deviceId.toNat / 2 ^ 24)) ++
  dubPair (UInt8.ofNat (uid.deviceId.toNat / 2 ^ 16)) ++
  dubPair (UInt8.ofNat (uid.deviceId.toNat / 2 ^ 8)) ++
  dubPair (UInt8.ofNat uid.deviceId.toNat)

def dubChecksum (uid : UID) : Nat := ((dubBody uid).map UInt8.toNat).sum % 2 ^ 16

def dubTrailer (uid : UID) : List UInt8 :=
  dubPair (UInt8.ofNat (dubChecksum uid / 2 ^ 8)) ++ dubPair (UInt8.ofNat (dubChecksum uid))

variable (preamble : Nat)

/-- A well-formed response to a discovery unique branch, without the start code. -/
def dubResponse (uid : UID) : List UInt8 :=
  List.replicate preamble 0xfe ++ 0xaa :: (dubBody uid ++ dubTrailer uid)

theorem dubPair_decode (byte : UInt8) : (byte ||| 0xaa) &&& (byte ||| 0x55) = byte := by
  apply UInt8.eq_of_toBitVec_eq
  apply BitVec.eq_of_getElem_eq
  intro index bound
  interval_cases index <;> simp

theorem dubResponse_length (uid : UID) :
    (dubResponse preamble uid).length = preamble + minDubResponseSize := by
  simp [dubResponse, dubBody, dubTrailer, dubPair, minDubResponseSize]

theorem dubResponse_take (uid : UID) :
    (dubResponse preamble uid).take preamble = List.replicate preamble 0xfe := by
  simp [dubResponse]

theorem dubResponse_startCode (uid : UID) : (dubResponse preamble uid).getD preamble 0 = 0xaa := by
  simp [dubResponse, List.getD]

theorem dubResponse_drop (uid : UID) :
    (dubResponse preamble uid).drop (preamble + 1) = dubBody uid ++ dubTrailer uid := by
  simp [dubResponse, List.drop_append]

/-- Two bytes of a 16-bit value put together again. -/
theorem word_bytes (value : Nat) :
    (UInt8.ofNat (value / 2 ^ 8)).toNat * 2 ^ 8 + (UInt8.ofNat value).toNat = value % 2 ^ 16 := by
  simp only [UInt8.toNat_ofNat']
  omega

theorem long_bytes (value : Nat) :
    (UInt8.ofNat (value / 2 ^ 24)).toNat * 2 ^ 24 + (UInt8.ofNat (value / 2 ^ 16)).toNat * 2 ^ 16 +
      (UInt8.ofNat (value / 2 ^ 8)).toNat * 2 ^ 8 + (UInt8.ofNat value).toNat =
      value % 2 ^ 32 := by
  simp only [UInt8.toNat_ofNat']
  omega

/-- `BranchComplete` recovers the UID from a well-formed response. -/
theorem locatedUid_dubResponse {preamble : Nat} (bound : preamble ≤ 7) (uid : UID) :
    locatedUid (dubResponse preamble uid) = some uid := by
  have fits : ¬ ((dubResponse preamble uid).length < minDubResponseSize ∨
      maxDubResponseSize < (dubResponse preamble uid).length) := by
    rw [dubResponse_length]
    unfold minDubResponseSize maxDubResponseSize
    omega
  have size : (dubResponse preamble uid).length - minDubResponseSize = preamble := by
    rw [dubResponse_length]
    omega
  have padded : ¬ (((dubResponse preamble uid).take preamble).any (· ≠ 0xfe)) = true := by
    simp [dubResponse_take]
  have body : (dubBody uid ++ dubTrailer uid).take 12 = dubBody uid := rfl
  have intact : ¬ (dubChecksum uid % 2 ^ 16 % 2 ^ 16 ≠
      ((dubBody uid).map UInt8.toNat).sum % 2 ^ 16) := by
    simp [dubChecksum]
  have esta := uid.estaId.toNat_lt
  have device := uid.deviceId.toNat_lt
  unfold locatedUid
  rw [if_neg fits, size]
  simp only [dubResponse_startCode, dubResponse_drop, padded, body]
  simp only [dubBody, dubTrailer, dubPair, List.cons_append, List.nil_append, List.getD_cons_zero,
    List.getD_cons_succ, dubPair_decode, word_bytes, long_bytes]
  rw [if_neg (by simp), if_neg (by simp), Nat.mod_eq_of_lt esta, Nat.mod_eq_of_lt device]
  refine (if_neg intact).trans ?_
  simp

end OpenLighting.DiscoveryAgent
