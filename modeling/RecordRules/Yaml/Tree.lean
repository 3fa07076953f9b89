/-!
# RecordRules.Yaml.Tree

YAML documents as trees: scalars, sequences and mappings. Plain scalars are kept apart from others,
since an empty plain scalar stands for nothing at all.

A node may stand for another one that carries an anchor. It refers to it by a number, and the
document says which node has that number.
-/

namespace RecordRules

inductive Yaml where
  | scalar (plain : Bool) (text : String)
  | reference (number : Nat)
  | sequence (items : List Yaml)
  | mapping (entries : List (Yaml × Yaml))

namespace Yaml

/-- The scalar that stands for nothing at all. -/
def nothing : Yaml :=
  .scalar true ""

/-- A document: its root and what its numbers refer to. -/
structure Document where
  root : Yaml
  anchored : List (Nat × Yaml)

def Document.empty : Document :=
  ⟨nothing, []⟩

/-- What a node stands for, where it refers to another one. -/
def Document.resolve? (d : Document) : Yaml → Option Yaml
  | .reference number => d.anchored.lookup number
  | v => some v

end Yaml
end RecordRules
