import RecordRules.Compile.Entity
import RecordRules.Compile.Owned
import RecordRules.Proofs.Text.Search

/-!
# RecordRules.Proofs.Compile.Route

Where the field of a condition leads. `Routed` says what is behind a leading text, and `AlongRoute`
puts together what is said of it and what is said of a field that leads nowhere. The compilers for
entities and for attributes take their conditions along the same routes (`leaf_of_routed`,
`leaf_of_unrouted`).
-/

namespace RecordRules

/-- A field name that leads on to another name, behind a leading text that is not empty. -/
def Routed (lead field name : String) : Prop :=
  lead ≠ "" ∧ field = lead ++ name

namespace Conventions

theorem route?_eq_some_iff {lead field name : String} :
    route? lead field = some name ↔ Routed lead field name := by
  have hcut : Text.stripLead? lead.toList field.toList = some name.toList ↔
      field = lead ++ name := by
    rw [Text.stripLead?_eq_some_iff, ← String.toList_append, String.toList_inj]
  rw [Routed, ← hcut, route?]
  by_cases hl : lead.isEmpty = true
  · have hl' : lead = "" := String.isEmpty_iff.mp hl
    simp [hl']
  · have hl' : lead ≠ "" := fun h => hl (String.isEmpty_iff.mpr h)
    rw [if_neg hl]
    cases Text.stripLead? lead.toList field.toList with
    | none => simp
    | some rest =>
      have hrest : String.ofList rest = name ↔ rest = name.toList := by
        rw [← String.toList_inj, String.toList_ofList]
      simp [hl', hrest]

theorem route?_eq_none_iff {lead field : String} :
    route? lead field = none ↔ ∀ name, ¬Routed lead field name := by
  rw [Option.eq_none_iff_forall_ne_some]
  exact forall_congr' fun name => not_congr route?_eq_some_iff

end Conventions

instance (lead field : String) : Decidable (∃ name, Routed lead field name) :=
  decidable_of_iff ((Conventions.route? lead field).isSome = true) <| by
    simp only [Option.isSome_iff_exists, Conventions.route?_eq_some_iff]

instance (lead field : String) (P : String → Prop) [DecidablePred P] :
    Decidable (∃ name, Routed lead field name ∧ P name) :=
  decidable_of_iff (∃ name ∈ Conventions.route? lead field, P name) <| by
    simp only [Option.mem_def, Conventions.route?_eq_some_iff]

section Routes

variable {lead field name : String} {behind : String → Prop} {own : Prop}

theorem Routed.unique {name' : String} (h : Routed lead field name)
    (h' : Routed lead field name') : name' = name := by
  rw [← Conventions.route?_eq_some_iff] at h h'
  rw [h] at h'
  exact (Option.some.inj h').symm

theorem routed_or_unrouted (lead field : String) :
    (∃ name, Routed lead field name) ∨ ∀ name, ¬Routed lead field name := by
  rw [← not_exists]
  exact Classical.em _

/-- What is said of the name behind the leading text where there is one, and of the field itself
otherwise. -/
def AlongRoute (lead field : String) (behind : String → Prop) (own : Prop) : Prop :=
  (∃ name, Routed lead field name ∧ behind name) ∨ ((∀ name, ¬Routed lead field name) ∧ own)

theorem alongRoute_of_routed (h : Routed lead field name) :
    AlongRoute lead field behind own ↔ behind name := by
  constructor
  · rintro (⟨name', route, hb⟩ | ⟨unrouted, -⟩)
    · obtain rfl := h.unique route
      exact hb
    · exact absurd h (unrouted name)
  · exact fun hb => .inl ⟨name, h, hb⟩

theorem alongRoute_of_unrouted (h : ∀ name, ¬Routed lead field name) :
    AlongRoute lead field behind own ↔ own := by
  constructor
  · rintro (⟨name, route, -⟩ | ⟨-, ho⟩)
    · exact absurd route (h name)
    · exact ho
  · exact fun ho => .inr ⟨h, ho⟩

end Routes

namespace Entities

variable {α : Type} {conventions : Conventions} {t : EntityType α} {c : Condition}

theorem leaf_of_routed {key : String} (h : Routed conventions.attributeLead c.field key) :
    leaf conventions t c = linkedLeaf key c := by
  have hkey : conventions.attributeKey? c.field = some key := Conventions.route?_eq_some_iff.mpr h
  rw [leaf, hkey]

theorem leaf_of_unrouted (h : ∀ key, ¬Routed conventions.attributeLead c.field key) :
    leaf conventions t c = (Flat.leaf t.toRecordType c).map .own := by
  have hkey : conventions.attributeKey? c.field = none := Conventions.route?_eq_none_iff.mpr h
  rw [leaf, hkey]
  cases Flat.leaf t.toRecordType c <;> rfl

theorem linkedLeaf_eq (key : String) (c : Condition) :
    linkedLeaf key c =
      if Text.allBlank key.toList then .error (.invalidArgument (.blankKey c.field))
      else (AttributeTest.make key c.operator c.value).map (.linked key) := by
  rw [linkedLeaf]
  cases AttributeTest.make key c.operator c.value <;> rfl

end Entities

namespace Owned

variable {α β : Type} {conventions : Conventions} {t : AttributeType α β} {c : Condition}

theorem leaf_of_routed {name : String} (h : Routed conventions.ownerLead c.field name) :
    leaf conventions t c = ownerLeaf t.ownerType name c := by
  have hname : conventions.ownerField? c.field = some name := Conventions.route?_eq_some_iff.mpr h
  rw [leaf, hname]

theorem leaf_of_unrouted (h : ∀ name, ¬Routed conventions.ownerLead c.field name) :
    leaf conventions t c = (Flat.leaf t.toRecordType c).map .own := by
  have hname : conventions.ownerField? c.field = none := Conventions.route?_eq_none_iff.mpr h
  rw [leaf, hname]
  cases Flat.leaf t.toRecordType c <;> rfl

theorem ownerLeaf_eq (owner : RecordType β) (name : String) (c : Condition) :
    ownerLeaf owner name c =
      if Text.allBlank name.toList then .error (.invalidArgument (.blankOwnerField c.field))
      else (owner.fieldTest name c.value c.operator).map .owner := by
  rw [ownerLeaf]
  cases owner.fieldTest name c.value c.operator <;> rfl

end Owned
end RecordRules
