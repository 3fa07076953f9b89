import RecordRules.Proofs.Compile.Meaning
import RecordRules.Proofs.Lists

/-!
# RecordRules.Proofs.Compile.Search

A condition on linked attributes searches one list, the values stored under its key, and looks at
nothing else.

* `Condition.Searches.eq_true_iff`, `eq_false_iff` and `eq_error_iff` place the outcome of a search
  in that list, by the values that can be read and those of which the condition holds.
* `linked_searches` says so of the compiled test. Only an order can fail; and two entities with the
  same values under the key get the same outcome, whatever links these values come from and whatever
  is stored under other keys.
-/

namespace RecordRules

/-- A stored value that is the text of a number. -/
def IsNumeric (stored : String) : Prop :=
  ∃ n, Number.read? stored.toList = some n

instance (stored : String) : Decidable (IsNumeric stored) :=
  decidable_of_iff _ Option.isSome_iff_exists

namespace Condition

variable {c : Condition}

theorem unreadable_iff (ho : c.operator.isOrdering = true) (stored : String) :
    c.Unreadable stored ↔ ¬IsNumeric stored := by
  rw [Unreadable, IsNumeric, ← Option.isSome_iff_exists, Option.isSome_iff_ne_none]
  simp [ho]

theorem not_unreadable (ho : c.operator.isOrdering = false) (stored : String) :
    ¬c.Unreadable stored := by
  intro h
  rw [h.1] at ho
  cases ho

namespace Searches

variable {v : String} {vs : List String} {out : Except RuleError Bool}

/-- A search succeeds where the condition holds of a value and all values up to it can be read. -/
theorem eq_true_iff (h : c.Searches vs out) :
    out = .ok true ↔ ∃ before v after, vs = before ++ v :: after ∧
      (∀ u ∈ before, ¬c.Unreadable u) ∧ ¬c.Unreadable v ∧ c.HoldsOfText v := by
  induction h with
  | nil => simp
  | unreadable fails =>
    rw [exists_split_cons]
    simp [fails]
  | found readable holds =>
    rw [exists_split_cons]
    simp [readable, holds]
  | next readable fails rest ih =>
    rw [exists_split_cons, ih]
    simp [readable, fails]

/-- A search fails at the first value that cannot be read, unless it has ended before. -/
theorem eq_error_iff (h : c.Searches vs out) {e : RuleError} :
    out = .error e ↔ ∃ before v after, vs = before ++ v :: after ∧
      (∀ u ∈ before, ¬c.Unreadable u ∧ ¬c.HoldsOfText u) ∧ c.Unreadable v ∧
        e = .numericParse v := by
  induction h with
  | nil => simp
  | unreadable fails =>
    rw [eq_comm, exists_split_cons]
    simp [fails]
  | found readable holds =>
    rw [exists_split_cons]
    simp [readable, holds]
  | next readable fails rest ih =>
    rw [exists_split_cons, ih]
    simp [readable, fails]

/-- A search comes to nothing where every value can be read and the condition holds of none. -/
theorem eq_false_iff (h : c.Searches vs out) :
    out = .ok false ↔ ∀ v ∈ vs, ¬c.Unreadable v ∧ ¬c.HoldsOfText v := by
  induction h with
  | nil => simp
  | unreadable fails => simp [fails]
  | found readable holds => simp [holds]
  | next readable fails rest ih => simp [readable, fails, ih]

end Searches
end Condition

/-! ## Attributes of an entity -/

/-- A condition on attributes scans the values under its key, one after the other. -/
theorem EntityTest.evaluate_linked {α : Type} (key : String) (test : AttributeTest)
    (t : EntityType α) (a : α) :
    (EntityTest.linked key test).evaluate t a =
      untilDecided true ((t.valuesOf a key).map test.evaluate) :=
  anyLink_eq (t.links a)

theorem Entities.searches_of_linkedLeaf {key : String} {c : Condition} (hv : c.Valid)
    {test : EntityTest} (h : linkedLeaf key c = .ok test) {α : Type} (t : EntityType α) (a : α) :
    c.Searches (t.valuesOf a key) (test.evaluate t a) := by
  rw [linkedLeaf_eq] at h
  split at h
  · cases h
  · obtain ⟨attributeTest, hmake, rfl⟩ := exists_of_map_eq_ok h
    rw [EntityTest.evaluate_linked]
    exact AttributeTest.searches_of_make hv hmake _

section Outcomes

variable {c : Condition} {vs : List String} {out : Except RuleError Bool}

theorem Condition.Searches.answers (h : c.Searches vs out)
    (ho : c.operator.isOrdering = false) : Answers out (∃ v ∈ vs, c.HoldsOfText v) := by
  refine answers_iff.mpr ⟨?_, h.agrees⟩
  cases out with
  | ok b => exact ⟨b, rfl⟩
  | error e =>
    obtain ⟨before, v, after, -, -, hu, -⟩ := h.eq_error_iff.mp rfl
    exact absurd hu (not_unreadable ho v)

end Outcomes

/-- **What a condition on linked attributes finds.** It searches the values under its key, link
after link. An order finds a number that satisfies it with nothing but numbers before it, or fails
at the first value that is none; every other operator finds any value that satisfies it and never
fails. Entities with the same values under the key are not told apart. -/
theorem linked_searches {key : String} {c : Condition} {test : EntityTest} (hv : c.Valid)
    (h : Entities.linkedLeaf key c = .ok test) :
    (∀ {α : Type} (t : EntityType α) (a : α), c.operator.isOrdering = false →
      Answers (test.evaluate t a) (∃ v ∈ t.valuesOf a key, c.HoldsOfText v)) ∧
    (∀ {α : Type} (t : EntityType α) (a : α), c.operator.isOrdering = true →
      (test.evaluate t a = .ok true ↔
        ∃ before v after, t.valuesOf a key = before ++ v :: after ∧
          (∀ u ∈ before, IsNumeric u) ∧ IsNumeric v ∧ c.HoldsOfText v) ∧
      (∀ e, test.evaluate t a = .error e ↔
        ∃ before v after, t.valuesOf a key = before ++ v :: after ∧
          (∀ u ∈ before, IsNumeric u ∧ ¬c.HoldsOfText u) ∧ ¬IsNumeric v ∧
            e = .numericParse v) ∧
      (test.evaluate t a = .ok false ↔
        ∀ v ∈ t.valuesOf a key, IsNumeric v ∧ ¬c.HoldsOfText v)) ∧
    (∀ {α β : Type} (t : EntityType α) (t' : EntityType β) (a : α) (b : β),
      t.valuesOf a key = t'.valuesOf b key → test.evaluate t a = test.evaluate t' b) := by
  refine ⟨fun t a ho => ?_, fun t a ho => ?_, fun t t' a b hvalues => ?_⟩
  · exact (Entities.searches_of_linkedLeaf hv h t a).answers ho
  · have hs := Entities.searches_of_linkedLeaf hv h t a
    have hu := Condition.unreadable_iff ho
    refine ⟨?_, fun e => ?_, ?_⟩
    · rw [hs.eq_true_iff]
      simp only [hu, not_not]
    · rw [hs.eq_error_iff]
      simp only [hu, not_not]
    · rw [hs.eq_false_iff]
      simp only [hu, not_not]
  · have hs := Entities.searches_of_linkedLeaf hv h t a
    rw [hvalues] at hs
    exact hs.unique (Entities.searches_of_linkedLeaf hv h t' b)

/-- Any level above 5, the number given as text. -/
def highLevelCondition : Condition :=
  ⟨"metadata.level", .gt, .single (.text " 5 ")⟩

/-- Any level but two of them. -/
def unlistedCondition : Condition :=
  ⟨"metadata.level", .absent, .array [.number (.signed 4), .text "high"]⟩

/-- Entities that are given by their links. -/
def badged : EntityType (List (List StoredAttribute)) :=
  { name := "badged", schema := [], read := fun _ _ => .none, links := id }

/-- A level that is no number stands between two that are. -/
def mixedLinks : List (List StoredAttribute) :=
  [[⟨"rank", "none"⟩, ⟨"level", "4"⟩], [], [⟨"level", "high"⟩, ⟨"level", "6"⟩]]

/-- The same levels along one link. -/
def gatheredLinks : List (List StoredAttribute) :=
  [[⟨"level", "4"⟩, ⟨"level", "high"⟩, ⟨"Level", "7"⟩, ⟨"level", "6"⟩]]

theorem linked_searches_mixedLinks :
    highLevelCondition.Valid ∧ unlistedCondition.Valid ∧
      (∃ test, Entities.linkedLeaf "level" highLevelCondition = .ok test ∧
        test.evaluate badged mixedLinks = .error (.numericParse "high") ∧
        test.evaluate badged gatheredLinks = test.evaluate badged mixedLinks) ∧
      ∃ test, Entities.linkedLeaf "level" unlistedCondition = .ok test ∧
        test.evaluate badged mixedLinks = .ok true := by
  have hv : highLevelCondition.Valid := by decide
  have hv' : unlistedCondition.Valid := by decide
  have h : Entities.linkedLeaf "level" highLevelCondition =
      .ok (.linked "level" (.order .gt (.signed 5))) := rfl
  have h' : Entities.linkedLeaf "level" unlistedCondition =
      .ok (.linked "level" (.member true ["4", "high"])) := rfl
  obtain ⟨-, horder, hsame⟩ := linked_searches hv h
  obtain ⟨hother, -, -⟩ := linked_searches hv' h'
  refine ⟨hv, hv', ⟨_, h, ?_, hsame badged badged _ _ rfl⟩, _, h', ?_⟩
  · -- the only value in front of the text is a number that is not above 5
    have hfour : ¬highLevelCondition.HoldsOfText "4" := by
      rintro ⟨n, bound, o, hn, hb, ho, hr⟩
      cases hn
      cases hb
      cases ho
      cases hr
    exact ((horder badged mixedLinks rfl).2.1 _).mpr
      ⟨["4"], "high", ["6"], rfl, List.forall_mem_singleton.mpr ⟨by decide, hfour⟩, by decide, rfl⟩
  · obtain ⟨b, hb, hfound⟩ := hother badged mixedLinks rfl
    have hsix : unlistedCondition.HoldsOfText "6" := by
      show ∀ s ∈ [Scalar.number (.signed 4), Scalar.text "high"], s.rendered ≠ "6".toList
      decide
    rw [hb, hfound.mpr ⟨"6", by decide, hsix⟩]

end RecordRules
