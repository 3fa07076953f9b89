import RecordRules.Proofs.Registry.Tables
import Mathlib.Data.List.Nodup

/-!
# RecordRules.Proofs.Registry.Constants

When the constants of a registry have different names.

A registry makes sure that its query names differ, and of their constants only that each can be
made. Many names make one constant, so the constants differ exactly where no two of the names clash
(`nodup_constants_iff`). Names with the shape of a name clash where they have one screaming form,
and names in small letters never do.
-/

namespace RecordRules
namespace Registry

open Declaration (Field Item Shaped identifier?)

/-- Two query names that make one constant. -/
def Clash (x y : String) : Prop :=
  x ≠ y ∧ identifier? (screaming x.toList) = identifier? (screaming y.toList)

variable {fields : List Field} {r : Registry}

theorem exists_wellFormed_of_ofItem {item : Item} (h : ofItem item = .ok r) :
    ∃ fields, WellFormed fields r.accessors ∧ Aligned r := by
  cases item with
  | other => cases h
  | unnamed => cases h
  | record fields => exact ⟨fields, ofItem_record_eq_ok_iff.mp h⟩

theorem constants_eq_identifiers (h : Aligned r) :
    r.constants.map (fun k => some k.constant) =
      r.accessors.map fun a => identifier? (screaming a.name.toList) := by
  have hpairs := h.constants
  generalize r.constants = ks at hpairs ⊢
  generalize r.accessors = as at hpairs ⊢
  induction hpairs with
  | nil => rfl
  | cons hka _ ih => rw [List.map_cons, List.map_cons, hka.2, ih]

theorem nodup_constants_iff_identifiers (h : Aligned r) :
    (r.constants.map (·.constant)).Nodup ↔
      (r.accessors.map fun a => identifier? (screaming a.name.toList)).Nodup := by
  rw [← constants_eq_identifiers h, ← List.nodup_map_iff (fun _ _ => Option.some.inj),
    List.map_map]
  rfl

theorem nodup_constants_iff (hw : WellFormed fields r.accessors) (ha : Aligned r) :
    (r.constants.map (·.constant)).Nodup ↔
      ∀ a ∈ r.accessors, ∀ b ∈ r.accessors, ¬Clash a.name b.name := by
  rw [nodup_constants_iff_identifiers ha, List.nodup_map_iff_inj_on (hw.distinct.of_map _)]
  refine forall₂_congr fun a hma => forall₂_congr fun b hmb => ?_
  constructor
  · rintro hsame ⟨hne, hconstant⟩
    exact hne (congrArg Accessor.name (hsame hconstant))
  · intro hclash hconstant
    by_cases hname : a.name = b.name
    · exact List.inj_on_of_nodup_map hw.distinct hma hmb hname
    · exact absurd ⟨hname, hconstant⟩ hclash

theorem clash_iff_of_shaped {x y : String} (hx : Shaped x.toList) (hy : Shaped y.toList)
    (hread : (identifier? (screaming x.toList)).isSome = true) :
    Clash x y ↔ x ≠ y ∧ screaming x.toList = screaming y.toList := by
  refine and_congr_right fun _ => ⟨?_, congrArg identifier?⟩
  intro hsame
  obtain ⟨k, hk⟩ := Option.isSome_iff_exists.mp hread
  rw [← toList_of_identifier?_screaming hx hk, ← toList_of_identifier?_screaming hy (hsame ▸ hk)]

/-- The query names of a registry differ, and its constants do exactly where no two names make one
of them. For names of the usual shape that is where no two have one screaming form, which is so
wherever they are written in small letters. -/
theorem constants_of_ofItem {item : Item} (h : ofItem item = .ok r) :
    (r.accessors.map (·.name)).Nodup ∧
    ((r.constants.map (·.constant)).Nodup ↔
      ∀ a ∈ r.accessors, ∀ b ∈ r.accessors, ¬Clash a.name b.name) ∧
    ((∀ a ∈ r.accessors, Shaped a.name.toList) → ((r.constants.map (·.constant)).Nodup ↔
      ∀ a ∈ r.accessors, ∀ b ∈ r.accessors, a.name ≠ b.name →
        screaming a.name.toList ≠ screaming b.name.toList)) ∧
    ((∀ a ∈ r.accessors, IsSnake a.name.toList) → (r.constants.map (·.constant)).Nodup) := by
  obtain ⟨fields, hw, ha⟩ := exists_wellFormed_of_ofItem h
  have hiff := nodup_constants_iff hw ha
  have hshaped : (∀ a ∈ r.accessors, Shaped a.name.toList) →
      ((r.constants.map (·.constant)).Nodup ↔
        ∀ a ∈ r.accessors, ∀ b ∈ r.accessors, a.name ≠ b.name →
          screaming a.name.toList ≠ screaming b.name.toList) := by
    intro hs
    rw [hiff]
    refine forall₂_congr fun a hma => forall₂_congr fun b hmb => ?_
    rw [clash_iff_of_shaped (hs a hma) (hs b hmb) (hw.constants a hma), not_and]
  refine ⟨hw.distinct, hiff, hshaped, ?_⟩
  intro hsnake
  refine (hshaped fun a hma => (hsnake a hma).shaped).mpr ?_
  intro a hma b hmb hne hsame
  exact hne (String.toList_inj.mp (screaming_inj (hsnake a hma) (hsnake b hmb) hsame))

theorem exists_ok_of_map_toOption {ε β γ : Type} {x : Except ε β} {g : β → γ} {b : γ}
    (h : x.toOption.map g = some b) : ∃ y, x = .ok y ∧ g y = b := by
  cases x with
  | error e => cases h
  | ok y => exact ⟨y, rfl, Option.some.inj h⟩

def queriedNumber (name : String) : Field :=
  ⟨name, false, [⟨⟨false, ["query"]⟩, some [.path ⟨false, ["Number"]⟩]⟩]⟩

/-- Two names that differ in a digit, and one with letters beyond the alphabet. -/
def gauges : List Field :=
  [queriedNumber "unit_count", queriedNumber "unit_count2", queriedNumber "größe"]

theorem constants_of_ofItem_gauges :
    ∃ r, ofItem (.record gauges) = .ok r ∧ (∀ a ∈ r.accessors, IsSnake a.name.toList) ∧
      r.constants.map (·.constant) = ["UNIT_COUNT", "UNIT_COUNT2", "GRößE"] ∧
      (r.constants.map (·.constant)).Nodup := by
  have hread : ((ofItem (.record gauges)).toOption.map fun r =>
      (r.constants.map (·.constant), decide (∀ a ∈ r.accessors, IsSnake a.name.toList))) =
        some (["UNIT_COUNT", "UNIT_COUNT2", "GRößE"], true) := by decide +kernel
  obtain ⟨r, h, hr⟩ := exists_ok_of_map_toOption hread
  obtain ⟨hconstants, hsnake⟩ := Prod.mk.inj hr
  have hsmall := of_decide_eq_true hsnake
  exact ⟨r, h, hsmall, hconstants, (constants_of_ofItem h).2.2.2 hsmall⟩

/-- One name in two ways of writing. -/
def countedTwice : List Field :=
  [queriedNumber "unitCount", queriedNumber "unit_count"]

/-- A registry may have one constant for two names. -/
theorem not_nodup_constants_of_ofItem :
    ¬∀ (item : Item) (r : Registry), ofItem item = .ok r →
      (r.constants.map (·.constant)).Nodup := by
  intro hall
  have hread : ((ofItem (.record countedTwice)).toOption.map fun r =>
      r.constants.map (·.constant)) = some ["UNIT_COUNT", "UNIT_COUNT"] := by decide +kernel
  obtain ⟨r, h, hconstants⟩ := exists_ok_of_map_toOption hread
  have hnodup := hall _ r h
  rw [hconstants] at hnodup
  revert hnodup
  decide

end Registry
end RecordRules
