import Mathlib.Tactic.Common
import RecordRules.Compile.Entity
import RecordRules.Compile.Owned

/-!
# RecordRules.Proofs.Predicate

What applying a predicate to records comes to, told by two positions: that of the first record on
which it fails and that of the first record that matches. Filtering and counting must get past every
record, so any failure is theirs; a search only meets the failures before the first match.

* `FirstAt` says where a property holds for the first time.
* `filter_eq_ok_iff`, `filter_eq_error_iff`, `find_eq_some_iff`, `find_eq_none_iff` and
  `find_eq_error_iff` give every outcome of the two loops.
* `applied_by_positions` says of all the ways to apply a predicate how they hang together.
-/

namespace RecordRules

section Positions

variable {α : Type} {P : α → Prop} {Q : Nat → α → Prop} {a b : α} {as : List α} {i : Nat}

/-- `a` stands at position `i`, and is the first with the property. -/
def FirstAt (P : α → Prop) (as : List α) (i : Nat) (a : α) : Prop :=
  as[i]? = some a ∧ P a ∧ ∀ b ∈ as.take i, ¬P b

@[simp] theorem not_firstAt_nil : ¬FirstAt P [] i a := by
  simp [FirstAt]

@[simp] theorem firstAt_cons_zero : FirstAt P (b :: as) 0 a ↔ b = a ∧ P b := by
  simp only [FirstAt, List.getElem?_cons_zero, Option.some.injEq, List.take_zero]
  constructor
  · rintro ⟨rfl, h, -⟩
    exact ⟨rfl, h⟩
  · rintro ⟨rfl, h⟩
    exact ⟨rfl, h, by simp⟩

@[simp] theorem firstAt_cons_succ :
    FirstAt P (b :: as) (i + 1) a ↔ ¬P b ∧ FirstAt P as i a := by
  simp only [FirstAt, List.getElem?_cons_succ, List.take_succ_cons, List.forall_mem_cons]
  tauto

theorem exists_firstAt_cons :
    (∃ i a, FirstAt P (b :: as) i a ∧ Q i a) ↔
      (P b ∧ Q 0 b) ∨ (¬P b ∧ ∃ i a, FirstAt P as i a ∧ Q (i + 1) a) := by
  rw [← Nat.or_exists_add_one]
  simp [and_assoc]

theorem forall_firstAt_cons :
    (∀ i a, FirstAt P (b :: as) i a → Q i a) ↔
      (P b → Q 0 b) ∧ (¬P b → ∀ i a, FirstAt P as i a → Q (i + 1) a) := by
  rw [← Nat.and_forall_add_one]
  simp only [firstAt_cons_zero, firstAt_cons_succ, and_imp, forall_eq']
  exact and_congr_right fun _ => ⟨fun h hb i a => h i a hb, fun h i a hb => h hb i a⟩

theorem forall_not_firstAt_iff : (∀ i a, ¬FirstAt P as i a) ↔ ∀ a ∈ as, ¬P a := by
  induction as with
  | nil => simp
  | cons b as ih =>
    rw [List.forall_mem_cons, ← ih]
    exact forall_firstAt_cons.trans (by tauto)

end Positions

namespace Predicate

variable {α : Type} {p : Predicate α} {as : List α}

def Fails (p : Predicate α) (a : α) : Prop :=
  ∃ e, p.evaluate a = .error e

def Matches (p : Predicate α) (a : α) : Prop :=
  p.evaluate a = .ok true

instance (p : Predicate α) (a : α) : Decidable (p.Matches a) :=
  inferInstanceAs (Decidable (_ = _))

theorem fails_of_error {a : α} {e : RuleError} (h : p.evaluate a = .error e) : p.Fails a :=
  ⟨e, h⟩

theorem not_fails_of_ok {a : α} {matched : Bool} (h : p.evaluate a = .ok matched) :
    ¬p.Fails a := by
  rintro ⟨e, he⟩
  rw [h] at he
  cases he

/-! ## Filtering and counting -/

theorem filter_of_forall (h : ∀ a ∈ as, ¬p.Fails a) : p.filter as = .ok (as.filter p.Matches) := by
  induction as with
  | nil => rfl
  | cons a as ih =>
    obtain ⟨ha, has⟩ := List.forall_mem_cons.mp h
    cases he : p.evaluate a with
    | error e => exact absurd (fails_of_error he) ha
    | ok matched =>
      rw [filter, he, ih has]
      cases matched <;> simp [Matches, he]

theorem filter_eq_error_iff {e : RuleError} :
    p.filter as = .error e ↔ ∃ f a, FirstAt p.Fails as f a ∧ p.evaluate a = .error e := by
  induction as with
  | nil => simp [filter]
  | cons a as ih =>
    rw [filter, exists_firstAt_cons]
    cases h : p.evaluate a with
    | error e' => simp [fails_of_error h]
    | ok matched =>
      rw [← ih]
      cases p.filter as <;> simp [not_fails_of_ok h]

theorem filter_eq_ok_iff {bs : List α} :
    p.filter as = .ok bs ↔ (∀ f a, ¬FirstAt p.Fails as f a) ∧ bs = as.filter p.Matches := by
  constructor
  · intro h
    have hnone : ∀ f a, ¬FirstAt p.Fails as f a := by
      intro f a hf
      obtain ⟨e, he⟩ := hf.2.1
      rw [filter_eq_error_iff.mpr ⟨f, a, hf, he⟩] at h
      cases h
    rw [filter_of_forall (forall_not_firstAt_iff.mp hnone)] at h
    exact ⟨hnone, (Except.ok.inj h).symm⟩
  · rintro ⟨hnone, rfl⟩
    exact filter_of_forall (forall_not_firstAt_iff.mp hnone)

theorem filterCopies_eq (copy : α → α) :
    p.filterCopies copy as = (p.filter as).map (List.map copy) := by
  rw [filterCopies]
  cases p.filter as <;> rfl

/-- Counting is filtering, but for what is kept. -/
theorem count_eq : p.count as = (p.filter as).map List.length := by
  induction as with
  | nil => rfl
  | cons a as ih =>
    rw [count, filter, ih]
    cases p.evaluate a with
    | error e => rfl
    | ok matched =>
      cases p.filter as with
      | error e => rfl
      | ok rest => cases matched <;> rfl

/-! ## Searching -/

-- In each of the three, the next record decides if it fails or matches; otherwise it moves both
-- positions on by one.

theorem find_eq_some_iff {a : α} :
    p.find as = .ok (some a) ↔
      ∃ k b, FirstAt p.Matches as k b ∧ b = a ∧ ∀ f c, FirstAt p.Fails as f c → k < f := by
  induction as with
  | nil => simp [find]
  | cons b as ih =>
    rw [find, exists_firstAt_cons]
    simp only [forall_firstAt_cons]
    cases h : p.evaluate b with
    | error e => simp [Matches, h, fails_of_error h]
    | ok matched =>
      cases matched with
      | true => simp [Matches, h, not_fails_of_ok h]
      | false => simp [Matches, h, not_fails_of_ok h, ih]

theorem find_eq_error_iff {e : RuleError} :
    p.find as = .error e ↔
      ∃ f a, FirstAt p.Fails as f a ∧ p.evaluate a = .error e ∧
        ∀ k b, FirstAt p.Matches as k b → f < k := by
  induction as with
  | nil => simp [find]
  | cons b as ih =>
    rw [find, exists_firstAt_cons]
    simp only [forall_firstAt_cons]
    cases h : p.evaluate b with
    | error e => simp [Matches, h, fails_of_error h]
    | ok matched =>
      cases matched with
      | true => simp [Matches, h, not_fails_of_ok h]
      | false => simp [Matches, h, not_fails_of_ok h, ih]

theorem find_eq_none_iff :
    p.find as = .ok none ↔
      (∀ f a, ¬FirstAt p.Fails as f a) ∧ ∀ k a, ¬FirstAt p.Matches as k a := by
  rw [forall_not_firstAt_iff, forall_not_firstAt_iff]
  induction as with
  | nil => simp [find]
  | cons b as ih =>
    rw [find, List.forall_mem_cons, List.forall_mem_cons]
    cases h : p.evaluate b with
    | error e => simp [fails_of_error h]
    | ok matched =>
      cases matched with
      | true => simp [Matches, h]
      | false => simp [Matches, h, not_fails_of_ok h, ih]

theorem any_eq : p.any as = (p.find as).map Option.isSome := by
  rw [any]
  cases p.find as <;> rfl

end Predicate

/-- **The ways to apply a predicate agree with each other, failures included.** Filtering gives the
matching records in order, each as often as it occurs, or the error of the first record on which the
predicate fails; so it is for any source of records and for copies of them, and counting gives the
length of that list. A search finds the first match unless a record before it fails, gives the error
of the first failure unless a record before it matches, and finds nothing where there is neither.
Whether any record matches is whether the search finds one. And filtering by a rule is compiling it
and filtering by what it compiles to. -/
theorem applied_by_positions :
    (∀ {α : Type} (p : Predicate α) (as : List α),
      (∀ bs, p.filter as = .ok bs ↔
        (∀ f a, ¬FirstAt p.Fails as f a) ∧ bs = as.filter p.Matches) ∧
      (∀ e, p.filter as = .error e ↔
        ∃ f a, FirstAt p.Fails as f a ∧ p.evaluate a = .error e) ∧
      (∀ {σ : Type} (yields : σ → List α) (source : σ),
        p.filterFrom yields source = p.filter (yields source)) ∧
      (∀ copy : α → α, p.filterCopies copy as = (p.filter as).map (List.map copy)) ∧
      p.count as = (p.filter as).map List.length ∧
      (∀ a, p.find as = .ok (some a) ↔
        ∃ k, FirstAt p.Matches as k a ∧ ∀ f b, FirstAt p.Fails as f b → k < f) ∧
      (∀ e, p.find as = .error e ↔
        ∃ f a, FirstAt p.Fails as f a ∧ p.evaluate a = .error e ∧
          ∀ k b, FirstAt p.Matches as k b → f < k) ∧
      (p.find as = .ok none ↔
        (∀ f a, ¬FirstAt p.Fails as f a) ∧ ∀ k a, ¬FirstAt p.Matches as k a) ∧
      (p.any as = .ok true ↔ ∃ a, p.find as = .ok (some a)) ∧
      (p.any as = .ok false ↔ p.find as = .ok none) ∧
      (∀ e, p.any as = .error e ↔ p.find as = .error e)) ∧
    (∀ {α : Type} (t : RecordType α) (r : Rule) (as : List α),
      Flat.filter t r as = (Flat.compile t r).bind fun p => p.filter as) ∧
    (∀ {α : Type} (conventions : Conventions) (t : EntityType α) (r : Rule) (as : List α),
      Entities.filter conventions t r as =
        (Entities.compile conventions t r).bind fun p => p.filter as) ∧
    (∀ {α β : Type} (conventions : Conventions) (t : AttributeType α β) (r : Rule) (as : List α),
      Owned.filter conventions t r as =
        (Owned.compile conventions t r).bind fun p => p.filter as) := by
  have hfilter : ∀ {α : Type} (compiled : Except RuleError (Predicate α)) (as : List α),
      Predicate.filterWith compiled as = compiled.bind fun p => p.filter as := by
    intro α compiled as
    cases compiled <;> rfl
  refine ⟨fun p as => ⟨fun _ => p.filter_eq_ok_iff, fun _ => p.filter_eq_error_iff,
    fun _ _ => rfl, fun _ => p.filterCopies_eq _, p.count_eq, fun a => ?_,
    fun _ => p.find_eq_error_iff, p.find_eq_none_iff, ?_, ?_, fun e => ?_⟩,
    fun _ _ _ => hfilter _ _, fun _ _ _ _ => hfilter _ _, fun _ _ _ _ => hfilter _ _⟩
  · rw [Predicate.find_eq_some_iff]
    simp
  · rw [Predicate.any_eq]
    rcases p.find as with _ | (_ | _) <;> simp [Except.map]
  · rw [Predicate.any_eq]
    rcases p.find as with _ | (_ | _) <;> simp [Except.map]
  · rw [Predicate.any_eq]
    cases p.find as <;> simp [Except.map]

end RecordRules
