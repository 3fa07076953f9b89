import RecordRules.Proofs.Rule.Outcome

/-!
# RecordRules.Proofs.Rule.Meaning

What a rule says, told without evaluating it.

* `Rule.Holds`: the rule as a proposition, given which conditions hold. An answer of the rule is the
  truth of that proposition (`outcome_agrees`), and where no condition fails there is an answer
  (`outcome_answers`).
* `Reads`: the rule read from left to right where conditions may fail, with the conditions met on
  the way. `readAs_outcome` shows that this comes to the outcome and to nothing else, and that it
  fails exactly where it meets a condition that does.
-/

namespace RecordRules

namespace Rule

mutual

/-- The rule as a proposition about conditions. -/
def Holds (holds : Condition → Prop) : Rule → Prop
  | .node .and cs rs => (∀ c ∈ cs, holds c) ∧ AllHold holds rs
  | .node .or cs rs => (cs = [] ∧ rs = []) ∨ (∃ c ∈ cs, holds c) ∨ SomeHolds holds rs
  | .node .not cs rs => (∀ c ∈ cs, ¬holds c) ∧ ¬SomeHolds holds rs
  | .node _ _ _ => False

def AllHold (holds : Condition → Prop) : List Rule → Prop
  | [] => True
  | r :: rs => Holds holds r ∧ AllHold holds rs

def SomeHolds (holds : Condition → Prop) : List Rule → Prop
  | [] => False
  | r :: rs => Holds holds r ∨ SomeHolds holds rs

end

theorem allHold_iff {holds : Condition → Prop} {rs : List Rule} :
    AllHold holds rs ↔ ∀ n ∈ rs, n.Holds holds := by
  induction rs with
  | nil => simp [AllHold]
  | cons r rs ih => rw [AllHold, ih, List.forall_mem_cons]

theorem someHolds_iff {holds : Condition → Prop} {rs : List Rule} :
    SomeHolds holds rs ↔ ∃ n ∈ rs, n.Holds holds := by
  induction rs with
  | nil => simp [SomeHolds]
  | cons r rs ih => simp only [SomeHolds, ih, List.mem_cons, exists_eq_or_imp]

end Rule

namespace Expression

def Holds (holds : Condition → Prop) : Expression → Prop
  | .condition c => holds c
  | .rule r => r.Holds holds

end Expression

namespace Rule

variable {holds : Condition → Prop} {r : Rule}

theorem exists_mem_expressions {P : Expression → Prop} :
    (∃ x ∈ r.expressions, P x) ↔
      (∃ c ∈ r.conditions, P (.condition c)) ∨ ∃ n ∈ r.nested, P (.rule n) := by
  simp only [expressions, List.mem_append, List.mem_map]
  constructor
  · rintro ⟨x, ⟨c, hc, rfl⟩ | ⟨n, hn, rfl⟩, hx⟩
    · exact .inl ⟨c, hc, hx⟩
    · exact .inr ⟨n, hn, hx⟩
  · rintro (⟨c, hc, hx⟩ | ⟨n, hn, hx⟩)
    · exact ⟨_, .inl ⟨c, hc, rfl⟩, hx⟩
    · exact ⟨_, .inr ⟨n, hn, rfl⟩, hx⟩

theorem holds_iff_of_and (h : r.operator = .and) :
    r.Holds holds ↔ ∀ x ∈ r.expressions, x.Holds holds := by
  cases r with
  | node op cs rs =>
    obtain rfl : op = .and := h
    rw [Holds, allHold_iff, forall_mem_expressions]
    rfl

theorem holds_iff_of_or (h : r.operator = .or) :
    r.Holds holds ↔ r.expressions = [] ∨ ∃ x ∈ r.expressions, x.Holds holds := by
  cases r with
  | node op cs rs =>
    obtain rfl : op = .or := h
    have hempty : (Rule.node .or cs rs).expressions = [] ↔ cs = [] ∧ rs = [] := by
      simp [expressions, conditions, nested]
    rw [Holds, someHolds_iff, exists_mem_expressions, hempty]
    rfl

theorem holds_iff_of_not (h : r.operator = .not) :
    r.Holds holds ↔ ¬∃ x ∈ r.expressions, x.Holds holds := by
  cases r with
  | node op cs rs =>
    obtain rfl : op = .not := h
    rw [Holds, someHolds_iff, exists_mem_expressions]
    simp only [not_or, not_exists, not_and]
    rfl

end Rule

/-! ## Answers -/

/-- If there is an answer, it is the truth of a proposition. -/
def Agrees {ε : Type} (x : Except ε Bool) (p : Prop) : Prop :=
  ∀ b, x = .ok b → (b = true ↔ p)

/-- There is an answer, and it is the truth of a proposition. -/
def Answers {ε : Type} (x : Except ε Bool) (p : Prop) : Prop :=
  ∃ b, x = .ok b ∧ (b = true ↔ p)

section Answers

variable {ε ι : Type} {x : Except ε Bool} {p : Prop}

theorem answers_iff : Answers x p ↔ (∃ b, x = .ok b) ∧ Agrees x p := by
  constructor
  · rintro ⟨b, rfl, hp⟩
    refine ⟨⟨b, rfl⟩, fun b' hb' => ?_⟩
    cases hb'
    exact hp
  · rintro ⟨⟨b, rfl⟩, hp⟩
    exact ⟨b, rfl, hp b rfl⟩

theorem Answers.agrees (h : Answers x p) : Agrees x p :=
  (answers_iff.mp h).2

theorem Answers.unique {x' : Except ε Bool} (h : Answers x p) (h' : Answers x' p) : x = x' := by
  obtain ⟨b, rfl, hp⟩ := h
  obtain ⟨b', rfl, hp'⟩ := h'
  rw [Bool.eq_iff_iff.mpr (hp.trans hp'.symm)]

theorem Agrees.map_not (h : Agrees x p) : Agrees (x.map (!·)) (¬p) := by
  intro b hb
  cases x with
  | error e => cases hb
  | ok c =>
    cases hb
    simp [← h c rfl]

variable {f : ι → Except ε Bool} {P : ι → Prop} {is : List ι}

theorem agrees_untilDecided_false (h : ∀ i ∈ is, Agrees (f i) (P i)) :
    Agrees (untilDecided false (is.map f)) (∀ i ∈ is, P i) := by
  intro b hb
  rcases untilDecided_eq_ok hb with ⟨rfl, hm⟩ | ⟨rfl, hall⟩
  · obtain ⟨i, hi, hfi⟩ := List.mem_map.mp hm
    have hp : ¬P i := (not_congr (h i hi false hfi)).mp (by simp)
    simp only [Bool.false_eq_true, false_iff]
    exact fun hP => hp (hP i hi)
  · simp only [Bool.not_false, true_iff]
    intro i hi
    exact (h i hi true (hall _ (List.mem_map_of_mem hi))).mp rfl

theorem agrees_untilDecided_true (h : ∀ i ∈ is, Agrees (f i) (P i)) :
    Agrees (untilDecided true (is.map f)) (∃ i ∈ is, P i) := by
  intro b hb
  rcases untilDecided_eq_ok hb with ⟨rfl, hm⟩ | ⟨rfl, hall⟩
  · obtain ⟨i, hi, hfi⟩ := List.mem_map.mp hm
    simp only [true_iff]
    exact ⟨i, hi, (h i hi true hfi).mp rfl⟩
  · simp only [Bool.not_true, Bool.false_eq_true, false_iff, not_exists, not_and]
    intro i hi hp
    have hfi := h i hi false (hall _ (List.mem_map_of_mem hi))
    simp [hp] at hfi

end Answers

namespace Rule

variable {ε : Type} {value : Condition → Except ε Bool} {holds : Condition → Prop}

/-- Where the answers of conditions are right, so is the answer of the rule. What is taken to hold
of conditions that fail makes no difference. -/
theorem outcome_agrees {r : Rule} (hv : r.Valid)
    (h : ∀ d ∈ r.subrules, ∀ c ∈ d.conditions, Agrees (value c) (holds c)) :
    Agrees (r.outcome value) (r.Holds holds) := by
  induction r with
  | node op cs rs ih =>
    cases hv with
    | node combines conditions_valid nested_valid =>
      rw [subrules_eq, List.forall_mem_cons, descendants, List.forall_mem_flatMap] at h
      have hx : ∀ x ∈ (Rule.node op cs rs).expressions,
          Agrees (x.outcome value) (x.Holds holds) :=
        forall_mem_expressions.mpr ⟨h.1, fun n hn => ih n hn (nested_valid n hn) (h.2 n hn)⟩
      rw [outcome_eq]
      cases op with
      | and =>
        rw [holds_iff_of_and rfl]
        exact agrees_untilDecided_false hx
      | or =>
        rw [holds_iff_of_or rfl]
        -- a scan of nothing would come to false, but an empty disjunction holds
        by_cases hxs : (Rule.node .or cs rs).expressions = []
        · rw [hxs]
          intro b hb
          cases hb
          simp
        · have hor := agrees_untilDecided_true hx
          rw [← joined_or_of_ne_nil (by simpa using hxs)] at hor
          simp only [hxs, false_or]
          exact hor
      | not =>
        rw [holds_iff_of_not rfl]
        exact (agrees_untilDecided_true hx).map_not
      | _ => cases combines

/-- A rule fails only where a condition does. -/
theorem outcome_isOk {r : Rule} (h : ∀ d ∈ r.subrules, ∀ c ∈ d.conditions, ∃ b, value c = .ok b) :
    ∃ b, r.outcome value = .ok b := by
  induction r with
  | node op cs rs ih =>
    rw [subrules_eq, List.forall_mem_cons, descendants, List.forall_mem_flatMap] at h
    have hx : ∀ x ∈ (Rule.node op cs rs).expressions, ∃ b, x.outcome value = .ok b :=
      forall_mem_expressions.mpr ⟨h.1, fun n hn => ih n hn (h.2 n hn)⟩
    rw [outcome_eq]
    exact joined_isOk (List.forall_mem_map.mpr hx)

theorem outcome_answers {r : Rule} (hv : r.Valid)
    (h : ∀ d ∈ r.subrules, ∀ c ∈ d.conditions, Answers (value c) (holds c)) :
    Answers (r.outcome value) (r.Holds holds) :=
  answers_iff.mpr
    ⟨outcome_isOk fun d hd c hc => (answers_iff.mp (h d hd c hc)).1,
      outcome_agrees hv fun d hd c hc => (h d hd c hc).agrees⟩

end Rule

/-! ## Reading -/

section Reading

variable {ε : Type}

mutual

/-- An expression is read from left to right: the conditions met on the way, and what it comes
to. -/
inductive Reads (gives : Condition → Except ε Bool → Prop) :
    Expression → List Condition → Except ε Bool → Prop where
  | condition {c : Condition} {out : Except ε Bool} (given : gives c out) :
      Reads gives (.condition c) [c] out
  | and {r : Rule} {read : List Condition} {out : Except ε Bool} (op : r.operator = .and)
      (parts : ReadsUntil gives false r.expressions read out) : Reads gives (.rule r) read out
  | or_empty {r : Rule} (op : r.operator = .or) (empty : r.expressions = []) :
      Reads gives (.rule r) [] (.ok true)
  | or {r : Rule} {read : List Condition} {out : Except ε Bool} (op : r.operator = .or)
      (inhabited : r.expressions ≠ []) (parts : ReadsUntil gives true r.expressions read out) :
      Reads gives (.rule r) read out
  | not {r : Rule} {x : Expression} {read : List Condition} {out : Except ε Bool}
      (op : r.operator = .not) (single : r.expressions = [x]) (part : Reads gives x read out) :
      Reads gives (.rule r) read (out.map (!·))

/-- Expressions are read in order, up to the first that fails or comes to `decisive`. -/
inductive ReadsUntil (gives : Condition → Except ε Bool → Prop) :
    (decisive : Bool) → List Expression → List Condition → Except ε Bool → Prop where
  | nil {d : Bool} : ReadsUntil gives d [] [] (.ok (!d))
  | fails {d : Bool} {x : Expression} {xs : List Expression} {read : List Condition} {e : ε}
      (first : Reads gives x read (.error e)) : ReadsUntil gives d (x :: xs) read (.error e)
  | decides {d : Bool} {x : Expression} {xs : List Expression} {read : List Condition}
      (first : Reads gives x read (.ok d)) : ReadsUntil gives d (x :: xs) read (.ok d)
  | goesOn {d : Bool} {x : Expression} {xs : List Expression} {read read' : List Condition}
      {out : Except ε Bool} (first : Reads gives x read (.ok (!d)))
      (rest : ReadsUntil gives d xs read' out) : ReadsUntil gives d (x :: xs) (read ++ read') out

end

variable {gives : Condition → Except ε Bool → Prop} {value : Condition → Except ε Bool}

theorem readsUntil_untilDecided {d : Bool} {xs : List Expression}
    (h : ∀ x ∈ xs, ∃ read, Reads gives x read (x.outcome value)) :
    ∃ read, ReadsUntil gives d xs read (untilDecided d (xs.map (Expression.outcome value))) := by
  induction xs with
  | nil => exact ⟨[], .nil⟩
  | cons x xs ih =>
    obtain ⟨⟨read, hx⟩, hxs⟩ := List.forall_mem_cons.mp h
    rw [List.map_cons]
    cases hout : x.outcome value with
    | error e =>
      rw [hout] at hx
      exact ⟨read, .fails hx⟩
    | ok b =>
      rw [hout] at hx
      rw [untilDecided]
      split
      · rename_i hb
        exact ⟨read, .decides (hb ▸ hx)⟩
      · rename_i hb
        obtain ⟨read', hrest⟩ := ih hxs
        have hb' : b = !d := Bool.eq_not.mpr hb
        exact ⟨read ++ read', .goesOn (hb' ▸ hx) hrest⟩

theorem eq_untilDecided_of_readsUntil {d : Bool} {xs : List Expression} {read : List Condition}
    {out : Except ε Bool}
    (hx : ∀ x ∈ xs, ∀ read out, Reads gives x read out → out = x.outcome value)
    (h : ReadsUntil gives d xs read out) :
    out = untilDecided d (xs.map (Expression.outcome value)) := by
  induction xs generalizing read with
  | nil => cases h; rfl
  | cons x xs ih =>
    obtain ⟨hx, hxs⟩ := List.forall_mem_cons.mp hx
    rw [List.map_cons]
    cases h with
    | fails first => rw [← hx _ _ first]; rfl
    | decides first => rw [← hx _ _ first, untilDecided, if_pos rfl]
    | goesOn first rest => rw [← hx _ _ first, untilDecided, if_neg (by simp), ← ih hxs rest]

theorem error_iff_of_readsUntil {d : Bool} {xs : List Expression} {read : List Condition}
    {out : Except ε Bool} {e : ε}
    (hx : ∀ x ∈ xs, ∀ read out, Reads gives x read out →
      (out = .error e ↔ ∃ c ∈ read, gives c (.error e)))
    (h : ReadsUntil gives d xs read out) : out = .error e ↔ ∃ c ∈ read, gives c (.error e) := by
  induction xs generalizing read with
  | nil => cases h; simp
  | cons x xs ih =>
    obtain ⟨hx, hxs⟩ := List.forall_mem_cons.mp hx
    cases h with
    | fails first => exact hx _ _ first
    | decides first => exact hx _ _ first
    | goesOn first rest =>
      -- what is read before the next expression has an answer, so no failure is among it
      have hnone : ¬∃ c ∈ _, gives c (.error e) := (not_congr (hx _ _ first)).mp (by simp)
      rw [ih hxs rest]
      simp only [List.mem_append, or_and_right, exists_or, hnone, false_or]

namespace Rule

theorem exists_expressions_eq_singleton {r : Rule} (h : r.arity = 1) :
    ∃ x, r.expressions = [x] := by
  rw [← length_expressions] at h
  exact List.length_eq_one_iff.mp h

/-- A rule whose negations have one expression each can be read, and comes to its outcome. -/
theorem reads_outcome {r : Rule} (hv : r.Valid)
    (harity : ∀ d ∈ r.subrules, d.operator = .not → d.arity = 1)
    (hgives : ∀ d ∈ r.subrules, ∀ c ∈ d.conditions, gives c (value c)) :
    ∃ read, Reads gives (.rule r) read (r.outcome value) := by
  induction r with
  | node op cs rs ih =>
    cases hv with
    | node combines conditions_valid nested_valid =>
      rw [subrules_eq, List.forall_mem_cons, descendants, List.forall_mem_flatMap] at harity hgives
      have hx : ∀ x ∈ (Rule.node op cs rs).expressions,
          ∃ read, Reads gives x read (x.outcome value) :=
        forall_mem_expressions.mpr
          ⟨fun c hc => ⟨[c], .condition (hgives.1 c hc)⟩,
            fun n hn => ih n hn (nested_valid n hn) (harity.2 n hn) (hgives.2 n hn)⟩
      rw [outcome_eq]
      cases op with
      | and =>
        obtain ⟨read, h⟩ := readsUntil_untilDecided hx
        exact ⟨read, .and rfl h⟩
      | or =>
        by_cases hxs : (Rule.node .or cs rs).expressions = []
        · rw [hxs]
          exact ⟨[], .or_empty rfl hxs⟩
        · obtain ⟨read, h⟩ := readsUntil_untilDecided hx
          rw [← joined_or_of_ne_nil (by simpa using hxs)] at h
          exact ⟨read, .or rfl hxs h⟩
      | not =>
        obtain ⟨x, hxs⟩ := exists_expressions_eq_singleton (harity.1 rfl)
        obtain ⟨read, h⟩ := hx x (by simp [hxs])
        rw [hxs, List.map_singleton]
        show ∃ read, Reads gives _ read (joined .not _)
        rw [joined_not_singleton]
        exact ⟨read, .not rfl hxs h⟩
      | _ => cases combines

theorem eq_outcome_of_reads {r : Rule} {read : List Condition} {out : Except ε Bool}
    (hgives : ∀ d ∈ r.subrules, ∀ c ∈ d.conditions, ∀ out, gives c out → out = value c)
    (h : Reads gives (.rule r) read out) : out = r.outcome value := by
  induction r generalizing read out with
  | node op cs rs ih =>
    rw [subrules_eq, List.forall_mem_cons, descendants, List.forall_mem_flatMap] at hgives
    have hx : ∀ x ∈ (Rule.node op cs rs).expressions, ∀ read out, Reads gives x read out →
        out = x.outcome value := by
      refine forall_mem_expressions.mpr ⟨fun c hc read out hr => ?_,
        fun n hn read out hr => ih n hn (hgives.2 n hn) hr⟩
      cases hr with
      | condition given => exact hgives.1 c hc out given
    rw [outcome_eq]
    cases h with
    | and op parts => rw [op, eq_untilDecided_of_readsUntil hx parts]; rfl
    | or_empty op empty => rw [op, empty]; rfl
    | or op inhabited parts =>
      rw [op, eq_untilDecided_of_readsUntil hx parts,
        joined_or_of_ne_nil (by simpa using inhabited)]
    | not op single part =>
      rw [op, single, List.map_singleton, joined_not_singleton,
        hx _ (by simp [single]) _ _ part]

/-- Where no condition gives two results, reading fails exactly where a condition met on the way
does. -/
theorem error_iff_of_reads {r : Rule} {read : List Condition} {out : Except ε Bool} {e : ε}
    (hunique : ∀ c out out', gives c out → gives c out' → out = out')
    (h : Reads gives (.rule r) read out) : out = .error e ↔ ∃ c ∈ read, gives c (.error e) := by
  induction r generalizing read out with
  | node op cs rs ih =>
    have hx : ∀ x ∈ (Rule.node op cs rs).expressions, ∀ read out, Reads gives x read out →
        (out = .error e ↔ ∃ c ∈ read, gives c (.error e)) := by
      refine forall_mem_expressions.mpr ⟨fun c hc read out hr => ?_,
        fun n hn read out hr => ih n hn hr⟩
      cases hr with
      | condition given =>
        simp only [List.mem_singleton, exists_eq_left]
        constructor
        · rintro rfl
          exact given
        · exact hunique c _ _ given
    cases h with
    | and op parts => exact error_iff_of_readsUntil hx parts
    | or_empty op empty => simp
    | or op inhabited parts => exact error_iff_of_readsUntil hx parts
    | not op single part =>
      rw [← hx _ (by simp [single]) _ _ part]
      cases ‹Except ε Bool› <;> simp [Except.map]

/-- A rule read from left to right comes to `out` and nothing else. It fails where it meets a
condition that fails, with that failure; otherwise it says what the rule means, whatever is taken to
hold of conditions that fail. -/
structure ReadAs (gives : Condition → Except ε Bool → Prop) (r : Rule) (out : Except ε Bool) :
    Prop where
  reads : ∃ read, Reads gives (.rule r) read out
  unique : ∀ read out', Reads gives (.rule r) read out' → out' = out
  error_iff : ∀ e, out = .error e ↔
    ∃ read, Reads gives (.rule r) read out ∧ ∃ c ∈ read, gives c (.error e)
  agrees : ∀ holds : Condition → Prop, (∀ c b, gives c (.ok b) → (b = true ↔ holds c)) →
    Agrees out (r.Holds holds)

theorem readAs_outcome {r : Rule} (hv : r.Valid)
    (harity : ∀ d ∈ r.subrules, d.operator = .not → d.arity = 1)
    (hunique : ∀ c out out', gives c out → gives c out' → out = out')
    (hgives : ∀ d ∈ r.subrules, ∀ c ∈ d.conditions, gives c (value c)) :
    r.ReadAs gives (r.outcome value) := by
  obtain ⟨read, h⟩ := reads_outcome hv harity hgives
  refine ⟨⟨read, h⟩, fun read out' h' => ?_, fun e => ⟨fun he => ?_, ?_⟩, fun holds hholds => ?_⟩
  · exact eq_outcome_of_reads (fun d hd c hc out hout => hunique c _ _ hout (hgives d hd c hc)) h'
  · exact ⟨read, h, (error_iff_of_reads hunique h).mp he⟩
  · rintro ⟨read', h', hc⟩
    exact (error_iff_of_reads hunique h').mpr hc
  · exact outcome_agrees hv fun d hd c hc b hb => hholds c b (hb ▸ hgives d hd c hc)

end Rule

end Reading

end RecordRules
