import BoundaryLint.Glob.Set
import BoundaryLint.Rule.Basic

/-!
# Which rules apply to a path

A block binds globs to rule entries. A path that is ignored altogether has no blocks. Otherwise the
blocks that match apply in the order of their indices, and an entry that switches a rule off removes
the entries of that rule before it.
-/
namespace BoundaryLint

/-- A unit of the configuration: the globs of its files, its own ignores and its rule entries. -/
structure Block where
  index : Int
  name : String
  files : GlobSet
  ignores : GlobSet
  rules : List Entry
  deriving Repr

def Block.appliesTo (b : Block) (path : String) : Bool :=
  b.files.accepts path && !b.ignores.accepts path

/-- Blocks in the order of their indices, and what is ignored altogether. -/
structure Resolver where
  blocks : List Block
  ignores : GlobSet
  deriving Repr

namespace Resolver

/-- Ignored unless a configuration says otherwise. -/
def defaultIgnores : List String := ["**/node_modules/**", "**/.git/**"]

/-- Blocks with equal indices keep their order. -/
def ofBlocks (blocks : List Block) (ignores : GlobSet) : Resolver :=
  { blocks := blocks.mergeSort fun a b => a.index ≤ b.index, ignores }

def isIgnored (r : Resolver) (path : String) : Bool :=
  r.ignores.accepts path

/-- The blocks that apply to a path. -/
def resolve (r : Resolver) (path : String) : List Block :=
  if r.isIgnored path then [] else r.blocks.filter (·.appliesTo path)

/-- Takes one more entry into account. -/
def applyEntry (active : List (Block × Entry)) (p : Block × Entry) : List (Block × Entry) :=
  if p.2.severity == .off then active.filter fun q => q.2.ruleId != p.2.ruleId else active ++ [p]

/-- The entries in force for a path, each with its block, in block order and then rule order. -/
def active (r : Resolver) (path : String) : List (Block × Entry) :=
  ((r.resolve path).flatMap fun b => b.rules.map fun e => (b, e)).foldl applyEntry []

end Resolver

end BoundaryLint
