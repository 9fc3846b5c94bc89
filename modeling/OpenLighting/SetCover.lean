import Mathlib.Data.Finset.Card

/- Lists of parts that cover a set between them. -/
namespace SetCover

universe u v w

variable {ι : Type u} {κ : Type v} {α : Type w} [DecidableEq α]

variable (parts : ι → Finset α) {list : List ι} {wanted : Finset α}

end SetCover
