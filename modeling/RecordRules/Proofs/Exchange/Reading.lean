import RecordRules.Exchange
import RecordRules.Proofs.Rule.Subrules

/-!
# RecordRules.Proofs.Exchange.Reading

What comes out of a document. Lists of values, conditions and rules are read item by item
(`scalarsOf_eq_mapM` and its like). A condition and each level of a rule went through their checks
when their end was reached, whatever the keys and their order, so a rule that was read is valid
(`valid_of_ruleOf`). The induction is on the rule and not on the document: what is nested in a rule
came out of some document too (`level_of_ruleOf`).
-/

namespace RecordRules

section Results

variable {α β ε : Type} {g : α → Except ε β}

theorem mapM_cons_except (x : α) (xs : List α) :
    (x :: xs).mapM g =
      match g x with
      | .error e => .error e
      | .ok y =>
        match xs.mapM g with
        | .error e => .error e
        | .ok ys => .ok (y :: ys) := by
  rw [List.mapM_cons]
  cases g x with
  | error e => rfl
  | ok y => cases xs.mapM g <;> rfl

/-- Whatever is in the list of results is the result of something. -/
theorem exists_of_mem_mapM {xs : List α} {ys : List β} (h : xs.mapM g = .ok ys) :
    ∀ y ∈ ys, ∃ x ∈ xs, g x = .ok y := by
  induction xs generalizing ys with
  | nil =>
    cases h
    simp
  | cons x xs ih =>
    rw [mapM_cons_except] at h
    split at h
    · cases h
    · rename_i y hy
      split at h
      · cases h
      · rename_i ys' hys
        cases h
        intro z hz
        rcases List.mem_cons.mp hz with rfl | hz
        · exact ⟨x, List.mem_cons_self, hy⟩
        · obtain ⟨x', hx', he⟩ := ih hys z hz
          exact ⟨x', List.mem_cons_of_mem _ hx', he⟩

end Results

namespace Exchange

/-! ## Lists -/

theorem scalarsOf_eq_mapM (vs : List Json) : scalarsOf vs = vs.mapM scalarOf := by
  induction vs with
  | nil => rfl
  | cons v vs ih =>
    rw [scalarsOf, ih, mapM_cons_except]
    cases scalarOf v with
    | error e => rfl
    | ok x => cases vs.mapM scalarOf <;> rfl

theorem conditionsOf_eq_mapM (vs : List Json) : conditionsOf vs = vs.mapM conditionOf := by
  induction vs with
  | nil => rfl
  | cons v vs ih =>
    rw [conditionsOf, ih, mapM_cons_except]
    cases conditionOf v with
    | error e => rfl
    | ok x => cases vs.mapM conditionOf <;> rfl

theorem rulesOf_eq_mapM (vs : List Json) : rulesOf vs = vs.mapM ruleOf := by
  induction vs with
  | nil => rw [rulesOf]; rfl
  | cons v vs ih =>
    rw [rulesOf, ih, mapM_cons_except]
    cases ruleOf v with
    | error e => rfl
    | ok x => cases vs.mapM ruleOf <;> rfl

/-! ## Conditions -/

theorem valid_of_finish {p : ConditionParts} {c : Condition} (h : p.finish = .ok c) : c.Valid := by
  rw [ConditionParts.finish.eq_def] at h
  split at h
  · split at h
    · cases h
    · rename_i c' hmake
      cases h
      exact (Condition.make_eq_ok_iff.mp hmake).2
  · cases h

theorem valid_of_conditionOf {v : Json} {c : Condition} (h : conditionOf v = .ok c) : c.Valid := by
  rw [conditionOf.eq_def] at h
  split at h
  · split at h
    · cases h
    · exact valid_of_finish h
  · repeat' split at h
    all_goals first | exact valid_of_finish h | cases h
  · cases h

theorem valid_of_conditionListOf {v : Json} {cs : List Condition} (h : conditionListOf v = .ok cs) :
    ∀ c ∈ cs, c.Valid := by
  rw [conditionListOf.eq_def] at h
  split at h
  · rw [conditionsOf_eq_mapM] at h
    intro c hc
    obtain ⟨v, -, hv⟩ := exists_of_mem_mapM h c hc
    exact valid_of_conditionOf hv
  · cases h

/-! ## Rules -/

/-- The rules that documents stand for. -/
def Documented (r : Rule) : Prop :=
  ∃ v, ruleOf v = .ok r

theorem documented_of_ruleListOf {v : Json} {rs : List Rule} (h : ruleListOf v = .ok rs) :
    ∀ n ∈ rs, Documented n := by
  rw [ruleListOf.eq_def] at h
  split at h
  · rw [rulesOf_eq_mapM] at h
    intro n hn
    obtain ⟨v, -, hv⟩ := exists_of_mem_mapM h n hn
    exact ⟨v, hv⟩
  · cases h

/-- What the keys of a rule have given is what documents stand for. -/
structure RuleParts.Read (p : RuleParts) : Prop where
  conditions_valid : ∀ c ∈ p.conditions.getD [], c.Valid
  nested_documented : ∀ n ∈ p.nested.getD [], Documented n

theorem exists_of_filled {α : Type} {place filled' : Option α} {value : Except ExchangeFault α}
    (h : filled place value = .ok filled') : ∃ a, value = .ok a ∧ filled' = some a := by
  rw [filled.eq_def] at h
  split at h
  · cases h
  · split at h
    · cases h
    · rename_i a
      cases h
      exact ⟨a, rfl, rfl⟩

/-- Taking the entries of a rule keeps what the keys have given sound. -/
theorem read_of_ruleEntries {es : List (Option String × Json)} {p p' : RuleParts}
    (hp : p.Read) (h : ruleEntries p es = .ok p') : p'.Read := by
  induction es generalizing p with
  | nil =>
    rw [ruleEntries] at h
    cases h
    exact hp
  | cons entry es ih =>
    obtain ⟨key, v⟩ := entry
    rw [ruleEntries.eq_def] at h
    simp only [] at h
    split at h
    · cases h
    · split at h
      · -- the operator
        split at h
        · cases h
        · refine ih ?_ h
          exact ⟨hp.conditions_valid, hp.nested_documented⟩
      · split at h
        · -- the conditions
          split at h
          · cases h
          · rename_i hfilled
            obtain ⟨cs, hcs, rfl⟩ := exists_of_filled hfilled
            refine ih ?_ h
            exact ⟨valid_of_conditionListOf hcs, hp.nested_documented⟩
        · split at h
          · -- the nested rules
            split at h
            · cases h
            · rename_i hfilled
              obtain ⟨rs, hrs, rfl⟩ := exists_of_filled hfilled
              refine ih ?_ h
              exact ⟨hp.conditions_valid, documented_of_ruleListOf hrs⟩
          · split at h
            · exact ih hp h
            · cases h

theorem level_of_finish {p : RuleParts} {r : Rule} (hp : p.Read) (h : p.finish = .ok r) :
    r.operator.isLogical = true ∧ (∀ c ∈ r.conditions, c.Valid) ∧ ∀ n ∈ r.nested, Documented n := by
  rw [RuleParts.finish] at h
  split at h
  · cases h
  · split at h
    · cases h
    · rename_i hmake
      cases h
      obtain ⟨rfl, hl⟩ := Rule.make_eq_ok_iff.mp hmake
      exact ⟨hl, hp.conditions_valid, hp.nested_documented⟩

theorem level_of_ruleOf {v : Json} {r : Rule} (h : ruleOf v = .ok r) :
    r.operator.isLogical = true ∧ (∀ c ∈ r.conditions, c.Valid) ∧ ∀ n ∈ r.nested, Documented n := by
  rw [ruleOf.eq_def] at h
  split at h
  · split at h
    · cases h
    · rename_i hp
      exact level_of_finish (read_of_ruleEntries ⟨by simp, by simp⟩ hp) h
  · -- a list of the operator, the conditions and the nested rules, the last two left out or not
    split at h
    · cases h
    · split at h
      · cases h
      · split at h
        · exact level_of_finish ⟨by simp, by simp⟩ h
        · split at h
          · cases h
          · rename_i hcs
            split at h
            · exact level_of_finish ⟨valid_of_conditionListOf hcs, by simp⟩ h
            · split at h
              · cases h
              · rename_i hrs
                split at h
                · exact level_of_finish
                    ⟨valid_of_conditionListOf hcs, documented_of_ruleListOf hrs⟩ h
                · cases h
  · cases h

theorem valid_of_ruleOf {v : Json} {r : Rule} (h : ruleOf v = .ok r) : r.Valid :=
  Rule.valid_of_levels (P := Documented) (fun _ ⟨_, h⟩ => level_of_ruleOf h) ⟨v, h⟩

/-- What a text is read as, its document stands for. -/
theorem ruleOf_of_read {text : String} {r : Rule} (h : read text = .ok r) :
    ruleOf (Json.read text.toList).1 = .ok r := by
  simp only [read] at h
  split at h
  · cases h
  · rename_i hr
    split at h
    · cases h
      exact hr
    · cases h

end Exchange
end RecordRules
