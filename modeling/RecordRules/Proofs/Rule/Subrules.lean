import Mathlib.Data.List.Basic
import RecordRules.Rule

/-!
# RecordRules.Proofs.Rule.Subrules

A rule seen as the list of all rules in it, itself first and every rule before those nested in it.

* `Rule.subrules` is that list and `Rule.descendants` the same without the rule itself. What must
  hold of every condition at every depth is said of the members of `subrules`; `valid_iff` says it
  of `Valid`.
* `Rule.mapConditions` changes conditions and keeps the tree, so it commutes with both lists.
* `Rule.flattened` hangs every descendant directly below the root. A rule with one level of nesting
  or none is its own flattening (`flattened_eq_self`).
-/

namespace RecordRules

theorem map_eq_self_iff {α : Type} {g : α → α} {xs : List α} :
    xs.map g = xs ↔ ∀ x ∈ xs, g x = x := by
  conv => lhs; rhs; rw [← List.map_id xs]
  exact List.map_eq_map_iff

namespace Constant

def scalars : Constant → List Scalar
  | .single s => [s]
  | .array items => items
  | .pattern _ => []

/-- The texts that a constant is written with. -/
def texts : Constant → List (List Char)
  | .single s => [s.rendered]
  | .array items => items.map Scalar.rendered
  | .pattern p => [p.toList]

def mapScalars (g : Scalar → Scalar) : Constant → Constant
  | .single s => .single (g s)
  | .array items => .array (items.map g)
  | .pattern p => .pattern p

theorem fits_mapScalars (g : Scalar → Scalar) (v : Constant) (op : Operator) :
    (v.mapScalars g).fits op = v.fits op := by
  cases v <;> rfl

theorem mapScalars_eq_self_iff {g : Scalar → Scalar} {v : Constant} :
    v.mapScalars g = v ↔ ∀ s ∈ v.scalars, g s = s := by
  cases v with
  | single s => simp [mapScalars, scalars]
  | array items =>
    rw [mapScalars, scalars, Constant.array.injEq]
    exact map_eq_self_iff
  | pattern p => simp [mapScalars, scalars]

end Constant

namespace Rule

/-- Induction over rules: what holds of a rule as soon as it holds of the rules nested directly in
it, holds of every rule. -/
@[elab_as_elim, induction_eliminator]
theorem inductionOn {motive : Rule → Prop} (r : Rule)
    (node : ∀ op cs rs, (∀ n ∈ rs, motive n) → motive (.node op cs rs)) : motive r :=
  @Rule.rec motive (fun rs => ∀ n ∈ rs, motive n) node
    (fun _ hn => absurd hn List.not_mem_nil)
    (fun _ _ hr hrs n hn => by
      rcases List.mem_cons.mp hn with rfl | hn
      · exact hr
      · exact hrs n hn) r

mutual

/-- The rule and all rules in it at any depth, each before those nested in it. -/
def subrules : Rule → List Rule
  | .node op cs rs => .node op cs rs :: subrulesOfAll rs

def subrulesOfAll : List Rule → List Rule
  | [] => []
  | r :: rs => subrules r ++ subrulesOfAll rs

end

/-- The rules nested in a rule at any depth, each before those nested in it. -/
def descendants (r : Rule) : List Rule :=
  r.nested.flatMap subrules

theorem subrulesOfAll_eq (rs : List Rule) : subrulesOfAll rs = rs.flatMap subrules := by
  induction rs with
  | nil => rfl
  | cons r rs ih => rw [subrulesOfAll, ih, List.flatMap_cons]

theorem subrules_eq (r : Rule) : r.subrules = r :: r.descendants := by
  cases r with
  | node op cs rs => rw [subrules, subrulesOfAll_eq]; rfl

def IsFlat (r : Rule) : Prop :=
  ∀ n ∈ r.nested, n.nested = []

theorem descendants_of_nested_nil {r : Rule} (h : r.nested = []) : r.descendants = [] := by
  rw [descendants, h, List.flatMap_nil]

theorem descendants_of_isFlat {r : Rule} (h : r.IsFlat) : r.descendants = r.nested := by
  have hs : ∀ n ∈ r.nested, n.subrules = [n] := fun n hn => by
    rw [subrules_eq, descendants_of_nested_nil (h n hn)]
  rw [descendants, List.flatMap_congr hs, List.flatMap_singleton']

/-! ## Validity -/

/-- A rule is valid where each rule in it combines and has valid conditions. -/
theorem valid_iff {r : Rule} :
    r.Valid ↔ ∀ d ∈ r.subrules, d.operator.isLogical = true ∧ ∀ c ∈ d.conditions, c.Valid := by
  induction r with
  | node op cs rs ih =>
    rw [subrules_eq]
    constructor
    · intro h
      cases h with
      | node combines conditions_valid nested_valid =>
        intro d hd
        rcases List.mem_cons.mp hd with rfl | hd
        · exact ⟨combines, conditions_valid⟩
        · obtain ⟨n, hn, hdn⟩ := List.mem_flatMap.mp hd
          exact (ih n hn).mp (nested_valid n hn) d hdn
    · intro h
      have hroot := h _ List.mem_cons_self
      refine .node hroot.1 hroot.2 fun n hn => (ih n hn).mpr fun d hd => ?_
      exact h d (List.mem_cons_of_mem _ (List.mem_flatMap.mpr ⟨n, hn, hd⟩))

/-- What gives a rule a combining operator and valid conditions, and what is nested in it the same
property, makes it valid. -/
theorem valid_of_levels {P : Rule → Prop}
    (level : ∀ r, P r → r.operator.isLogical = true ∧ (∀ c ∈ r.conditions, c.Valid) ∧
      ∀ n ∈ r.nested, P n) {r : Rule} (h : P r) : r.Valid := by
  induction r with
  | node op cs rs ih =>
    obtain ⟨combines, conditions_valid, hnested⟩ := level _ h
    exact .node combines conditions_valid fun n hn => ih n hn (hnested n hn)

instance (c : Condition) : Decidable c.Valid :=
  decidable_of_iff (_ ∧ _ ∧ _) ⟨fun ⟨h, h', h''⟩ => ⟨h, h', h''⟩, fun ⟨h, h', h''⟩ => ⟨h, h', h''⟩⟩

instance (r : Rule) : Decidable r.Valid :=
  decidable_of_iff _ valid_iff.symm

/-! ## Changing conditions -/

mutual

def mapConditions (g : Condition → Condition) : Rule → Rule
  | .node op cs rs => .node op (cs.map g) (mapConditionsAll g rs)

def mapConditionsAll (g : Condition → Condition) : List Rule → List Rule
  | [] => []
  | r :: rs => mapConditions g r :: mapConditionsAll g rs

end

theorem mapConditionsAll_eq (g : Condition → Condition) (rs : List Rule) :
    mapConditionsAll g rs = rs.map (mapConditions g) := by
  induction rs with
  | nil => rfl
  | cons r rs ih => rw [mapConditionsAll, ih, List.map_cons]

@[simp] theorem operator_mapConditions (g : Condition → Condition) (r : Rule) :
    (r.mapConditions g).operator = r.operator := by
  cases r with
  | node op cs rs => rw [mapConditions]; rfl

@[simp] theorem conditions_mapConditions (g : Condition → Condition) (r : Rule) :
    (r.mapConditions g).conditions = r.conditions.map g := by
  cases r with
  | node op cs rs => rw [mapConditions]; rfl

@[simp] theorem nested_mapConditions (g : Condition → Condition) (r : Rule) :
    (r.mapConditions g).nested = r.nested.map (mapConditions g) := by
  cases r with
  | node op cs rs => rw [mapConditions, mapConditionsAll_eq]; rfl

theorem subrules_mapConditions (g : Condition → Condition) (r : Rule) :
    (r.mapConditions g).subrules = r.subrules.map (mapConditions g) := by
  induction r with
  | node op cs rs ih =>
    rw [subrules_eq, subrules_eq, List.map_cons, descendants, nested_mapConditions, descendants,
      List.flatMap_map, List.map_flatMap]
    exact congrArg _ (List.flatMap_congr ih)

theorem valid_mapConditions {g : Condition → Condition} {r : Rule} (hv : r.Valid)
    (hg : ∀ d ∈ r.subrules, ∀ c ∈ d.conditions, (g c).Valid) : (r.mapConditions g).Valid := by
  rw [valid_iff, subrules_mapConditions, List.forall_mem_map]
  intro d hd
  rw [operator_mapConditions, conditions_mapConditions, List.forall_mem_map]
  exact ⟨(valid_iff.mp hv d hd).1, hg d hd⟩

theorem IsFlat.mapConditions {r : Rule} (h : r.IsFlat) (g : Condition → Condition) :
    (r.mapConditions g).IsFlat := by
  intro n hn
  rw [nested_mapConditions] at hn
  obtain ⟨m, hm, rfl⟩ := List.mem_map.mp hn
  rw [nested_mapConditions, h m hm, List.map_nil]

/-- A change that leaves every condition alone leaves the rule alone, and no other does. -/
theorem mapConditions_eq_self_iff {g : Condition → Condition} {r : Rule} :
    r.mapConditions g = r ↔ ∀ d ∈ r.subrules, ∀ c ∈ d.conditions, g c = c := by
  induction r with
  | node op cs rs ih =>
    rw [mapConditions, mapConditionsAll_eq, Rule.node.injEq, map_eq_self_iff,
      map_eq_self_iff, subrules_eq]
    constructor
    · rintro ⟨-, hcs, hrs⟩ d hd
      rcases List.mem_cons.mp hd with rfl | hd
      · exact hcs
      · obtain ⟨n, hn, hdn⟩ := List.mem_flatMap.mp hd
        exact (ih n hn).mp (hrs n hn) d hdn
    · intro h
      refine ⟨rfl, h _ List.mem_cons_self, fun n hn => (ih n hn).mpr fun d hd => ?_⟩
      exact h d (List.mem_cons_of_mem _ (List.mem_flatMap.mpr ⟨n, hn, hd⟩))

/-! ## Flattening -/

/-- The rule without what is nested in it. -/
def alone (r : Rule) : Rule :=
  .node r.operator r.conditions []

/-- The root with every descendant directly below it, in order, each with its own operator and
conditions and nothing nested. -/
def flattened (r : Rule) : Rule :=
  .node r.operator r.conditions (r.descendants.map alone)

theorem alone_eq_self {r : Rule} (h : r.nested = []) : r.alone = r := by
  cases r with
  | node op cs rs =>
    have e : rs = [] := h
    rw [e]
    rfl

theorem flattened_eq_self {r : Rule} (h : r.IsFlat) : r.flattened = r := by
  rw [flattened, descendants_of_isFlat h]
  cases r with
  | node op cs rs =>
    have e : rs.map alone = rs := map_eq_self_iff.mpr fun n hn => alone_eq_self (h n hn)
    show Rule.node op cs (rs.map alone) = _
    rw [e]

theorem isFlat_flattened (r : Rule) : r.flattened.IsFlat := by
  intro n hn
  obtain ⟨d, _, rfl⟩ := List.mem_map.mp (show n ∈ r.descendants.map alone from hn)
  rfl

end Rule
end RecordRules
