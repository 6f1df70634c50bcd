import BoundaryLint.Regex.Basic

/-!
# Widths

The least and the greatest number of characters an expression can match. A look-behind needs both
to agree.
-/
namespace BoundaryLint.Regex

/-- The least and the greatest number of characters. -/
structure Width where
  lo : Nat
  hi : Nat
  deriving DecidableEq, Repr

namespace Width

/-- The value that stands for "without bound". -/
def unbounded : Nat := Nat.pow 2 64

def cap (w : Width) : Width :=
  ⟨min w.lo unbounded, min w.hi unbounded⟩

def add (v w : Width) : Width :=
  cap ⟨v.lo + w.lo, v.hi + w.hi⟩

def either (v w : Width) : Width :=
  ⟨min v.lo w.lo, max v.hi w.hi⟩

def repeated (w : Width) (lo : Nat) (hi : Option Nat) : Width :=
  let top := match hi with
    | some n => w.hi * n
    | none => if w.hi == 0 then 0 else unbounded
  cap ⟨w.lo * lo, top⟩

end Width

/-- The width of an expression, given those of the groups that are closed. -/
def Node.width (groups : List (Nat × Width)) : Node → Width
  | .empty => ⟨0, 0⟩
  | .char _ _ => ⟨1, 1⟩
  | .set _ _ => ⟨1, 1⟩
  | .any _ => ⟨1, 1⟩
  | .anchor _ => ⟨0, 0⟩
  | .seq a b => (a.width groups).add (b.width groups)
  | .alt a b => (a.width groups).either (b.width groups)
  | .group body => body.width groups
  | .capture _ body => body.width groups
  | .loop lo hi _ body => (body.width groups).repeated lo hi
  | .atomic body => body.width groups
  | .backref i _ => (groups.lookup i).getD ⟨0, 0⟩
  | .ifGroup _ yes no => (yes.width groups).either (no.width groups)
  | .ahead _ _ => ⟨0, 0⟩
  | .behind _ _ _ => ⟨0, 0⟩

end BoundaryLint.Regex
