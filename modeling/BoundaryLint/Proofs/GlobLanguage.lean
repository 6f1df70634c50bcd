import BoundaryLint.Proofs.ClassIntervals
import BoundaryLint.Proofs.GlobGrammar
import Mathlib.Computability.Language

/-!
# The language of a glob

What an expression denotes, as a set of paths: concatenation for pieces one after the other, union
for alternatives, and a star of segments for `**/`. A class holds characters, which are known if it is
plain.
-/
namespace BoundaryLint.Glob

open Computability

/-- A part of a path that ends in a slash and has no other. -/
def segments : Language Char := {w | ∃ name, '/' ∉ name ∧ w = name ++ ['/']}

/-- The characters of a plain class. -/
def charsOf (body : List Char) : Set Char := {c | (charsetOf body).holds .exact c = true}

namespace Expr
variable {κ : Type}

/-- The paths that an expression denotes, if the classes hold the given characters. -/
def language (inside : κ → Set Char) : Expr κ → Language Char
  | .nil => 1
  | .lit c => {[c]}
  | .one => {w | ∃ c, c ≠ '/' ∧ w = [c]}
  | .star => {w | '/' ∉ w}
  | .cls k => {w | ∃ c ∈ inside k, w = [c]}
  | .dirs => segments∗
  | .rest => Set.univ
  | .cat a b => a.language inside * b.language inside
  | .alt a b => a.language inside + b.language inside
  | .brace body => body.language inside

def plain : Expr (List Char) → Bool
  | .cls body => isPlain body
  | .cat a b => a.plain && b.plain
  | .alt a b => a.plain && b.plain
  | .brace body => body.plain
  | _ => true

/-- No interval of a class ends before it begins. -/
def Ascends : Expr (List Char) → Prop
  | .cls body => Ascending (unsigned body)
  | .cat a b => a.Ascends ∧ b.Ascends
  | .alt a b => a.Ascends ∧ b.Ascends
  | .brace body => body.Ascends
  | _ => True

/-! ### Expressions without classes -/

def classFree : Expr κ → Bool
  | .cls _ => false
  | .cat a b => a.classFree && b.classFree
  | .alt a b => a.classFree && b.classFree
  | .brace body => body.classFree
  | _ => true

theorem plain_of_classFree {e : Expr (List Char)} (h : e.classFree = true) :
    e.plain = true ∧ e.Ascends := by
  induction e with
  | cls => cases h
  | cat a b iha ihb | alt a b iha ihb =>
      simp only [classFree, Bool.and_eq_true] at h
      simp [plain, Ascends, iha h.1, ihb h.2]
  | brace body ih => exact ih h
  | _ => exact ⟨rfl, trivial⟩

theorem language_of_classFree {e : Expr κ} (h : e.classFree = true)
    (inside inside' : κ → Set Char) :
    e.language inside = e.language inside' := by
  induction e with
  | cls => cases h
  | cat a b iha ihb | alt a b iha ihb =>
      simp only [classFree, Bool.and_eq_true] at h
      rw [language, language, iha h.1, ihb h.2]
  | brace body ih => exact ih h
  | _ => rfl

end Expr

end BoundaryLint.Glob
