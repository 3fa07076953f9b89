import RecordRules.Proofs.Rule.Subrules
import RecordRules.Stored.Format

/-!
# RecordRules.Proofs.Stored.Part

A rule as the list of its parts, which is how it is stored: the operator that opens it, its
conditions, then the parts of the rules nested in it. Each part is written in a group of its own
(`groupsOf_eq`). Flattening a rule keeps its parts (`parts_flattened`), and a rule with one level
of nesting at most is made of conditions followed by sections, each with an opening of its own
(`parts_of_isFlat`).
-/

namespace RecordRules
namespace Stored

inductive Part where
  | opening (op : Operator)
  | condition (c : Condition)

namespace Part

def operator : Part → Operator
  | .opening op => op
  | .condition c => c.operator

/-- What stands between the brackets of the part's group. -/
def text : Part → List Char
  | .opening op => op.token.toList
  | .condition c => conditionText c

def mapCondition (g : Condition → Condition) : Part → Part
  | .opening op => .opening op
  | .condition c => .condition (g c)

end Part

/-- The opening of a rule and its own conditions. -/
def ownParts (r : Rule) : List Part :=
  .opening r.operator :: r.conditions.map .condition

/-- The parts of a rule and of all rules in it, in order. -/
def parts (r : Rule) : List Part :=
  r.subrules.flatMap ownParts

theorem forall_mem_parts {r : Rule} {P : Part → Prop} :
    (∀ p ∈ parts r, P p) ↔
      ∀ d ∈ r.subrules, P (.opening d.operator) ∧ ∀ c ∈ d.conditions, P (.condition c) := by
  rw [parts, List.forall_mem_flatMap]
  refine forall₂_congr fun d _ => ?_
  rw [ownParts, List.forall_mem_cons, List.forall_mem_map]

/-- A rule has no empty list of parts: it starts with its own opening. -/
theorem parts_eq_cons (r : Rule) :
    parts r = .opening r.operator ::
      (r.conditions.map .condition ++ r.descendants.flatMap ownParts) := by
  rw [parts, Rule.subrules_eq, List.flatMap_cons]
  rfl

theorem parts_flattened (r : Rule) : parts r.flattened = parts r := by
  have hn : r.flattened.descendants = r.descendants.map Rule.alone :=
    Rule.descendants_of_isFlat r.isFlat_flattened
  rw [parts_eq_cons, parts_eq_cons, hn, List.flatMap_map]
  rfl

theorem parts_mapConditions (g : Condition → Condition) (r : Rule) :
    parts (r.mapConditions g) = (parts r).map (Part.mapCondition g) := by
  rw [parts, parts, Rule.subrules_mapConditions, List.flatMap_map, List.map_flatMap]
  refine List.flatMap_congr fun d _ => ?_
  rw [ownParts, Rule.operator_mapConditions, Rule.conditions_mapConditions, ownParts,
    List.map_cons, List.map_map, List.map_map]
  rfl

/-! ## Groups -/

theorem groupsOfAll_eq (rs : List Rule) : groupsOfAll rs = rs.flatMap groupsOf := by
  induction rs with
  | nil => rfl
  | cons r rs ih => rw [groupsOfAll, ih, List.flatMap_cons]

/-- Every part of a rule is written in a group of its own. -/
theorem groupsOf_eq (r : Rule) : groupsOf r = (parts r).map Part.text := by
  induction r with
  | node op cs rs ih =>
    have hrs : rs.flatMap groupsOf = (rs.flatMap parts).map Part.text := by
      rw [List.map_flatMap]
      exact List.flatMap_congr ih
    have hd : (Rule.node op cs rs).descendants.flatMap ownParts = rs.flatMap parts :=
      List.flatMap_assoc
    rw [groupsOf, groupsOfAll_eq, hrs, parts_eq_cons, hd, List.map_cons, List.map_append,
      List.map_map]
    rfl

/-! ## Sections -/

/-- The parts of conditions followed by sections. -/
def sectionParts (cs : List Condition) (sections : List (Operator × List Condition)) : List Part :=
  cs.map .condition ++ sections.flatMap fun s => .opening s.1 :: s.2.map .condition

theorem sectionParts_cons (c : Condition) (cs : List Condition)
    (sections : List (Operator × List Condition)) :
    sectionParts (c :: cs) sections = .condition c :: sectionParts cs sections := rfl

theorem sectionParts_nil_cons (op : Operator) (cs : List Condition)
    (sections : List (Operator × List Condition)) :
    sectionParts [] ((op, cs) :: sections) = .opening op :: sectionParts cs sections := rfl

/-- Any list of parts is that of some conditions and sections. -/
theorem exists_sectionParts (ps : List Part) : ∃ cs sections, ps = sectionParts cs sections := by
  induction ps with
  | nil => exact ⟨[], [], rfl⟩
  | cons p ps ih =>
    obtain ⟨cs, sections, rfl⟩ := ih
    cases p with
    | opening op => exact ⟨[], (op, cs) :: sections, rfl⟩
    | condition c => exact ⟨c :: cs, sections, rfl⟩

theorem parts_of_isFlat {r : Rule} (h : r.IsFlat) :
    parts r = .opening r.operator ::
      sectionParts r.conditions (r.nested.map fun n => (n.operator, n.conditions)) := by
  rw [parts_eq_cons, Rule.descendants_of_isFlat h, sectionParts, List.flatMap_map]
  rfl

end Stored
end RecordRules
