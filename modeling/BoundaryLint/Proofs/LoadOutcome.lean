import BoundaryLint.Proofs.IrregularData
import BoundaryLint.Proofs.Lifecycle
import BoundaryLint.Proofs.OrdinaryDocuments

/-!
# How a load ends

A load gives a configuration, or it is refused with an error that is reported, and then the run has
failed. A refusal that is raised past this report leaves the run loading. It comes from irregular
data, or from the loader of documents. What the loader makes of the bytes of a file is left open; if
it gives the value of a document, then what it raises past the report comes from an irregular one.
-/
namespace BoundaryLint

namespace Config

/-- The loader raises an error past its report, or data with `D` is given or loaded. -/
inductive Origin.Has (loader : Loader) (D : Value → Prop) : Origin → Prop
  | data {v : Value} : D v → Has loader D (.data v)
  | raised {path name : String} {bytes : Text.Utf8.Bytes} {e : Yaml.Error} :
      loader bytes = .error e → e.escapes = true → Has loader D (.file path name (.ok bytes))
  | content {path name : String} {bytes : Text.Utf8.Bytes} {v : Value} :
      loader bytes = .ok v → D v → Has loader D (.file path name (.ok bytes))

section
variable {registry : Registry} {loader : Loader} {origin : Origin}

theorem Origin.Has.mono {D D' : Value → Prop} (h : origin.Has loader D) (hD : ∀ v, D v → D' v) :
    origin.Has loader D' := by
  cases h with
  | data hv => exact .data (hD _ hv)
  | raised hload he => exact .raised hload he
  | content hload hv => exact .content hload (hD _ hv)

end

/-- What is irregular in data under the built-in rules. -/
def IrregularForBuiltin (data : Value) : Prop :=
  VersionIsCollection data ∨ data.HasLongInteger ∨ data.HasExcessiveSelector Kind.isKnown

theorem IrregularData.builtin {data : Value} (h : IrregularData .builtin data) :
    IrregularForBuiltin data := by
  cases h with
  | version h => exact .inl h
  | integer h => exact .inr (.inl h)
  | options h hf => exact .inr (.inr (hasExcessiveSelector_of_builtin h hf))

end Config

namespace Run

section
variable {w : Setup} {origin : Config.Origin} {r : Run}

end

end Run

end BoundaryLint
