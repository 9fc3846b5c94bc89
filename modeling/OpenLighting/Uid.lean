import Mathlib.Data.Finset.Sort
import Mathlib.Data.UInt
import Mathlib.Tactic.Common

namespace OpenLighting

/-- A 48-bit RDM identifier: manufacturer, then device. -/
structure UID where
  estaId : UInt16
  deviceId : UInt32
  deriving DecidableEq, Repr

variable (uid : UID)

namespace UID

/-- The value `HandleCollision` computes with: `(manufacturer << 32) + device`. -/
def toNat (uid : UID) : Nat := uid.estaId.toNat * 2 ^ 32 + uid.deviceId.toNat

/-- `UID(value >> 32, value)`: both arguments are narrowed by the constructor. -/
def ofNat (value : Nat) : UID := ⟨UInt16.ofNat (value / 2 ^ 32), UInt32.ofNat value⟩

def allDevices : UID := ⟨0xffff, 0xffffffff⟩

def isBroadcast : Bool := uid.deviceId == 0xffffffff

theorem toNat_lt : uid.toNat < 2 ^ 48 := by
  have manufacturer := uid.estaId.toNat_lt
  have device := uid.deviceId.toNat_lt
  unfold toNat
  omega

theorem toNat_injective : Function.Injective toNat := by
  rintro ⟨esta, device⟩ ⟨esta', device'⟩ equal
  have low := device.toNat_lt
  have low' := device'.toNat_lt
  simp only [toNat] at equal
  have sameEsta : esta.toNat = esta'.toNat := by omega
  have sameDevice : device.toNat = device'.toNat := by omega
  rw [UInt16.toNat_inj.mp sameEsta, UInt32.toNat_inj.mp sameDevice]

theorem toNat_inj {left right : UID} : left.toNat = right.toNat ↔ left = right :=
  toNat_injective.eq_iff

theorem toNat_ofNat {value : Nat} (bound : value < 2 ^ 48) : (ofNat value).toNat = value := by
  have high : value / 2 ^ 32 < 2 ^ 16 := by omega
  simp only [toNat, ofNat, UInt16.toNat_ofNat', UInt32.toNat_ofNat']
  omega

@[simp] theorem allDevices_toNat : allDevices.toNat = 2 ^ 48 - 1 := rfl

@[simp] theorem zero_toNat : (⟨0, 0⟩ : UID).toNat = 0 := rfl

/-- `UID::cmp` compares the manufacturer first, which is the order of the values. -/
instance : LinearOrder UID where
  le left right := left.toNat ≤ right.toNat
  lt left right := left.toNat < right.toNat
  le_refl uid := Nat.le_refl uid.toNat
  le_trans _ _ _ := Nat.le_trans
  lt_iff_le_not_ge _ _ := Nat.lt_iff_le_and_not_ge
  le_antisymm _ _ below above := toNat_injective (Nat.le_antisymm below above)
  le_total left right := Nat.le_total left.toNat right.toNat
  toDecidableLE left right := Nat.decLe left.toNat right.toNat
  toDecidableEq := instDecidableEqUID

theorem le_iff (left right : UID) : left ≤ right ↔ left.toNat ≤ right.toNat := Iff.rfl

theorem le_allDevices : uid ≤ allDevices := by
  have bound := uid.toNat_lt
  rw [le_iff, allDevices_toNat]
  omega

theorem zero_le : (⟨0, 0⟩ : UID) ≤ uid := Nat.zero_le _

theorem card_le (uids : Finset UID) : uids.card ≤ 2 ^ 48 := by
  have image : uids.card ≤ (Finset.range (2 ^ 48)).card :=
    Finset.card_le_card_of_injOn toNat
      (fun uid _ => Finset.mem_coe.mpr (Finset.mem_range.mpr uid.toNat_lt))
      toNat_injective.injOn
  simpa using image

end UID

/-- `UIDSet` wraps a `std::set<UID>`; the set operations are those of `Finset`. -/
abbrev UIDSet := Finset UID

/-- The order in which an iterator visits the set. -/
def UIDSet.ascending (uids : UIDSet) : List UID := Finset.sort uids (· ≤ ·)

@[simp] theorem UIDSet.mem_ascending (uids : UIDSet) (uid : UID) :
    uid ∈ UIDSet.ascending uids ↔ uid ∈ uids :=
  Finset.mem_sort (· ≤ ·)

theorem UIDSet.ascending_nodup (uids : UIDSet) : (UIDSet.ascending uids).Nodup :=
  Finset.sort_nodup uids (· ≤ ·)

end OpenLighting
