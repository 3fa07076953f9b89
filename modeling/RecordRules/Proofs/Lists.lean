import Mathlib.Data.List.Forall2

/-!
# RecordRules.Proofs.Lists

Lists that are related member by member, and lists cut at one of their members. What a scan comes to
is told by the member that decides it and by those before it; `exists_split_cons` is the step of an
induction that says so.
-/

namespace RecordRules

section Related

variable {α β γ : Type}

theorem exists_mem_of_forall₂ {R : α → β → Prop} {xs : List α} {ys : List β}
    (h : List.Forall₂ R xs ys) : ∀ x ∈ xs, ∃ y ∈ ys, R x y := by
  induction h with
  | nil => simp
  | cons hxy _ ih =>
    intro x hx
    rcases List.mem_cons.mp hx with rfl | hx
    · exact ⟨_, List.mem_cons_self, hxy⟩
    · obtain ⟨y, hy, hR⟩ := ih x hx
      exact ⟨y, List.mem_cons_of_mem _ hy, hR⟩

theorem map_eq_map_iff_forall₂ {a : α → γ} {b : β → γ} {xs : List α} {ys : List β} :
    xs.map a = ys.map b ↔ List.Forall₂ (fun x y => a x = b y) xs ys := by
  rw [← List.forall₂_eq_eq_eq, List.forall₂_map_left_iff, List.forall₂_map_right_iff]

/-- Where no two members share a key, a search by key finds the member it is the key of. -/
theorem find?_key_of_nodup {κ : Type} [DecidableEq κ] {key : α → κ} {xs : List α} {x : α}
    (hnodup : (xs.map key).Nodup) (hx : x ∈ xs) :
    xs.find? (fun y => key y == key x) = some x := by
  induction xs with
  | nil => cases hx
  | cons y ys ih =>
    obtain ⟨hnew, hnodup⟩ := List.nodup_cons.mp hnodup
    rcases List.mem_cons.mp hx with rfl | hx
    · simp
    · have hne : key y ≠ key x := fun h => hnew (h ▸ List.mem_map_of_mem hx)
      rw [List.find?_cons_of_neg (by simpa using hne)]
      exact ih hnodup hx

end Related

section Splits

variable {α : Type} {P : List α → α → Prop}

/-- The member is the first one, or one further on, and then the first stands before it. -/
theorem exists_split_cons {y : α} {ys : List α} :
    (∃ before x after, y :: ys = before ++ x :: after ∧ P before x) ↔
      P [] y ∨ ∃ before x after, ys = before ++ x :: after ∧ P (y :: before) x := by
  constructor
  · rintro ⟨before, x, after, h, hP⟩
    cases before with
    | nil =>
      rw [List.nil_append, List.cons.injEq] at h
      exact .inl (h.1 ▸ hP)
    | cons z before =>
      rw [List.cons_append, List.cons.injEq] at h
      exact .inr ⟨before, x, after, h.2, h.1 ▸ hP⟩
  · rintro (hP | ⟨before, x, after, rfl, hP⟩)
    · exact ⟨[], y, ys, rfl, hP⟩
    · exact ⟨y :: before, x, after, rfl, hP⟩

end Splits

end RecordRules
