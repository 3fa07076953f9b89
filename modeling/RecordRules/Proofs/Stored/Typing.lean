import RecordRules.Proofs.Rule.Subrules
import RecordRules.Stored.Format

/-!
# RecordRules.Proofs.Stored.Typing

How a stored rule types its values. Only the text of a value is written, so what is read is a
number under the numeric field and text everywhere else, whatever the value was before.

* `retyped` replaces every value by the one its text is read as; patterns are text already.
* `RendersNumbers` says that this is possible, `AsRead` that it changes nothing
  (`Rule.asRead_iff`).
-/

namespace RecordRules

namespace Scalar

/-- The value that the text of a value is read as. -/
def retyped (f : StoredFormat) (field : String) (s : Scalar) : Scalar :=
  if field = f.numericField then
    match Number.read? s.rendered with
    | some n => .number n
    | none => s
  else .text (String.ofList s.rendered)

/-- Off the numeric field a value keeps its text. -/
theorem rendered_retyped {f : StoredFormat} {field : String} (h : field ≠ f.numericField)
    (s : Scalar) : (s.retyped f field).rendered = s.rendered := by
  rw [retyped, if_neg h, rendered, String.toList_ofList]

/-- A text off the numeric field, or a number on it whose text stands for that very number. -/
def AsRead (f : StoredFormat) (field : String) : Scalar → Prop
  | .text _ => field ≠ f.numericField
  | .number n => field = f.numericField ∧ Number.read? n.text = some n
  | .bool _ => False

theorem asRead_iff {f : StoredFormat} {field : String} {s : Scalar} :
    s.AsRead f field ↔
      (field = f.numericField → (Number.read? s.rendered).isSome = true) ∧
        s.retyped f field = s := by
  by_cases hf : field = f.numericField
  · rw [retyped, if_pos hf]
    cases hn : Number.read? s.rendered with
    | none =>
      cases s with
      | text t => simp [AsRead, hf]
      | number n => simp_all [AsRead, rendered]
      | bool b => simp [AsRead, hf]
    | some m =>
      cases s with
      | text t => simp [AsRead, hf]
      | number n => simp_all [AsRead, rendered]
      | bool b => simp [AsRead]
  · rw [retyped, if_neg hf]
    cases s with
    | text t => simp [AsRead, hf, rendered]
    | number n => simp [AsRead, hf]
    | bool b => simp [AsRead]

end Scalar

namespace Condition

def retyped (f : StoredFormat) (c : Condition) : Condition :=
  { c with value := c.value.mapScalars (Scalar.retyped f c.field) }

theorem valid_retyped {f : StoredFormat} {c : Condition} (hv : c.Valid) : (c.retyped f).Valid :=
  ⟨hv.field_named, hv.operator_compares, by
    rw [retyped, Constant.fits_mapScalars]
    exact hv.value_fits⟩

/-- Every value under the numeric field has the text of a number. -/
def RendersNumbers (f : StoredFormat) (c : Condition) : Prop :=
  c.field = f.numericField → ∀ s ∈ c.value.scalars, (Number.read? s.rendered).isSome = true

theorem retyped_eq_self_iff {f : StoredFormat} {c : Condition} :
    c.retyped f = c ↔ ∀ s ∈ c.value.scalars, s.retyped f c.field = s := by
  rw [← Constant.mapScalars_eq_self_iff, retyped]
  constructor
  · intro h
    exact congrArg Condition.value h
  · intro h
    rw [h]

end Condition

namespace Rule

def retyped (f : StoredFormat) (r : Rule) : Rule :=
  r.mapConditions (Condition.retyped f)

def RendersNumbers (f : StoredFormat) (r : Rule) : Prop :=
  ∀ d ∈ r.subrules, ∀ c ∈ d.conditions, c.RendersNumbers f

def AsRead (f : StoredFormat) (r : Rule) : Prop :=
  ∀ d ∈ r.subrules, ∀ c ∈ d.conditions, ∀ s ∈ c.value.scalars, s.AsRead f c.field

theorem asRead_iff {f : StoredFormat} {r : Rule} :
    r.AsRead f ↔ r.RendersNumbers f ∧ r.retyped f = r := by
  rw [retyped, mapConditions_eq_self_iff]
  constructor
  · intro h
    constructor
    · intro d hd c hc hf s hs
      exact (Scalar.asRead_iff.mp (h d hd c hc s hs)).1 hf
    · intro d hd c hc
      exact Condition.retyped_eq_self_iff.mpr fun s hs =>
        (Scalar.asRead_iff.mp (h d hd c hc s hs)).2
  · rintro ⟨hn, hr⟩ d hd c hc s hs
    exact Scalar.asRead_iff.mpr ⟨fun hf => hn d hd c hc hf s hs,
      Condition.retyped_eq_self_iff.mp (hr d hd c hc) s hs⟩

end Rule
end RecordRules
