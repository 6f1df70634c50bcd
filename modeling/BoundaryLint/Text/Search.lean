import BoundaryLint.Text.Casing

/-!
# Finding a part of a text
-/
namespace BoundaryLint.Text

/-- Whether `front` stands at the front of a text, compared by `same`. -/
def leadsBy {α : Type} (same : α → α → Bool) : List α → List α → Bool
  | [], _ => true
  | _ :: _, [] => false
  | a :: as, b :: bs => same a b && leadsBy same as bs

/-- Whether `part` stands anywhere in a text, compared by `same`. -/
def holdsBy {α : Type} (same : α → α → Bool) (part : List α) : List α → Bool
  | [] => leadsBy same part []
  | b :: bs => leadsBy same part (b :: bs) || holdsBy same part bs

/-- Whether `part` stands anywhere in `s`. -/
def holds (part s : String) : Bool :=
  holdsBy (· == ·) part.toList s.toList

/-- Whether `part` stands anywhere in `s` when case is ignored. -/
def holdsIgnoringCase (part s : String) : Bool :=
  holdsBy (fun a b => sameLetter a.toNat b.toNat) part.toList s.toList

end BoundaryLint.Text
