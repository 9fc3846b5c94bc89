import OpenLighting.SlpStoreIntegrity

/- The limit of `Lookup`. -/
namespace OpenLighting.Slp

open List

section Filtering

variable {α : Type*} (check : α → Bool) (count : Nat) (items : List α)

/-- What passes a check is split like the list. -/
theorem take_filter_eq :
    (items.filter check).take count =
      (items.take count).filter check ++
        ((items.drop count).filter check).take (count - ((items.take count).filter check).length) := by
  have split : items.filter check =
      (items.take count).filter check ++ (items.drop count).filter check := by
    rw [← filter_append, take_append_drop]
  have most : ((items.take count).filter check).length ≤ count :=
    Nat.le_trans (length_filter_le _ _) (length_take_le _ _)
  rw [split, take_append, take_of_length_le most]

/-- The first items all pass the check, or none behind them does. -/
theorem take_filter_of {check : α → Bool} {count : Nat} {items : List α}
    (even : (∀ item ∈ items.take count, check item = true) ∨
      ∀ item ∈ items.drop count, check item = false) :
    (items.filter check).take count = (items.take count).filter check := by
  rw [take_filter_eq]
  rcases even with all | none
  · rw [filter_eq_self.mpr all, length_take]
    by_cases short : items.length ≤ count
    · rw [drop_of_length_le short, filter_nil, take_nil, append_nil]
    · have full : count - min count items.length = 0 := by omega
      rw [full, take_zero, append_nil]
  · have nothing : (items.drop count).filter check = [] := by
      apply filter_eq_nil_iff.mpr
      intro item member
      rw [none item member]
      decide
    rw [nothing, take_nil, append_nil]

/-- As many items pass the check in both only then. -/
theorem of_length_take_filter {check : α → Bool} {count : Nat} {items : List α}
    (same : ((items.filter check).take count).length = ((items.take count).filter check).length) :
    (∀ item ∈ items.take count, check item = true) ∨
      ∀ item ∈ items.drop count, check item = false := by
  rw [take_filter_eq, length_append, length_take] at same
  by_cases all : ∀ item ∈ items.take count, check item = true
  · exact .inl all
  · right
    have fewer : ((items.take count).filter check).length < (items.take count).length := by
      apply Nat.lt_of_le_of_ne (length_filter_le _ _)
      intro whole
      exact all (length_filter_eq_length_iff.mp whole)
    have most := length_take_le count items
    have none : ((items.drop count).filter check).length = 0 := by omega
    intro item member
    have fails := filter_eq_nil_iff.mp (eq_nil_of_length_eq_zero none) item member
    rwa [Bool.not_eq_true] at fails

end Filtering

section Limits

variable {scopes : ScopeSet} {limit : Nat}

theorem lookupLoop_above (positive : 0 < limit) {number : Nat} (above : limit ≤ number)
    (services : List ServiceEntry) : lookupLoop scopes limit number services = [] := by
  induction services generalizing number with
  | nil => rfl
  | cons entry services ih =>
    unfold lookupLoop
    split
    · exact ih (by omega)
    · rw [if_pos (by omega)]

/-- The entries that are returned are among the first ones of all scopes. -/
theorem lookupLoop_limited (positive : 0 < limit) {number : Nat} (services : List ServiceEntry) :
    lookupLoop scopes limit number services =
      ((services.take (limit - number)).filter
        (fun entry => entry.scopes.intersects scopes)).map ServiceEntry.url := by
  induction services generalizing number with
  | nil => simp [lookupLoop]
  | cons entry services ih =>
    by_cases above : limit ≤ number
    · rw [lookupLoop_above positive above, Nat.sub_eq_zero_of_le above]
      rfl
    · have left : limit - number = limit - (number + 1) + 1 := by omega
      rw [left, take_succ_cons, lookupLoop]
      split
      · rename_i apart
        rw [filter_cons_of_neg (by rw [apart]; decide), ih]
      · rename_i meets
        rw [if_neg (by omega), filter_cons_of_pos (by simpa using meets), map_cons, ih]

end Limits

def liveEntries (store : SLPStore) (now : Int) (rawServiceType : List UInt8) : List ServiceEntry :=
  (StoreMemory.liveAt now store (slpGetCanonicalString rawServiceType)).getD []

theorem lookup_eq (store : SLPStore) (now : Int) (scopes : ScopeSet)
    (rawServiceType : List UInt8) (limit : Nat) :
    (store.lookup now scopes rawServiceType limit).2 =
      lookupLoop scopes limit 0 (liveEntries store now rawServiceType) := by
  unfold SLPStore.lookup liveEntries StoreMemory.liveAt
  dsimp only
  cases store.lists.lookup (slpGetCanonicalString rawServiceType) <;> rfl

/-- `Lookup` returns as many of the first live entries in the scopes as the limit says, exactly if the
entries up to the limit are all in the scopes or none behind them is. -/
theorem lookup_limit_iff (store : SLPStore) (now : Int) (scopes : ScopeSet)
    (rawServiceType : List UInt8) {limit : Nat} (positive : 0 < limit) :
    (store.lookup now scopes rawServiceType limit).2 =
        (((liveEntries store now rawServiceType).filter
          (fun entry => entry.scopes.intersects scopes)).take limit).map ServiceEntry.url ↔
      (∀ entry ∈ (liveEntries store now rawServiceType).take limit,
          entry.scopes.intersects scopes = true) ∨
        ∀ entry ∈ (liveEntries store now rawServiceType).drop limit,
          entry.scopes.intersects scopes = false := by
  rw [lookup_eq, lookupLoop_limited positive, Nat.sub_zero]
  constructor
  · intro same
    apply of_length_take_filter
    have lengths := congrArg List.length same
    rw [List.length_map, List.length_map] at lengths
    exact lengths.symm
  · intro even
    rw [take_filter_of even]

/-- `a://b` in the scope `d` and `a://c` in the scope `c`. -/
def twoScopes : SLPStore :=
  ((SLPStore.empty.insert 0 ⟨⟨[97, 58, 47, 47, 98], 60⟩, [97], .parse [100], true⟩ true).1.insert 0
    ⟨⟨[97, 58, 47, 47, 99], 60⟩, [97], .parse [99], true⟩ true).1

theorem lookup_limit_scopes :
    0 < 1 ∧ (twoScopes.lookup 0 (.parse [100]) [97] 1).2 =
      (((liveEntries twoScopes 0 [97]).filter
        (fun entry => entry.scopes.intersects (.parse [100]))).take 1).map ServiceEntry.url :=
  ⟨by decide, (@lookup_limit_iff twoScopes 0 (.parse [100]) [97] 1 (by decide)).mpr
    (.inl (by decide +kernel))⟩

/-- The entry in the other scope is counted: with a limit of one nothing is found. -/
theorem lookup_counts_other_scopes :
    (twoScopes.lookup 0 (.parse [99]) [97] 1).2 = [] ∧
      (twoScopes.lookup 0 (.parse [99]) [97] 1).2 ≠
        (((liveEntries twoScopes 0 [97]).filter
          (fun entry => entry.scopes.intersects (.parse [99]))).take 1).map ServiceEntry.url := by
  constructor <;> decide +kernel

end OpenLighting.Slp
