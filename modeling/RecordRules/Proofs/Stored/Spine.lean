import RecordRules.Proofs.Compile.Target
import RecordRules.Proofs.Stored.RoundTrip

/-!
# RecordRules.Proofs.Stored.Spine

Deep rules that keep their meaning when they are stored. Reading a stored rule flattens it, which
says something else in general. Where only conjunctions have rules nested in them, the rule is a
conjunction of the rules in it, each without what is nested in it: both what compiling checks
(`checks_of_isSpine`) and what a record gives (`outcome_of_isSpine`) depend on that list only, and
flattening keeps it (`alone_subrules_flattened`).
-/

namespace RecordRules

theorem untilDecided_cons_congr {ε : Type} {d : Bool} {x : Except ε Bool}
    {xs ys : List (Except ε Bool)} (h : untilDecided d xs = untilDecided d ys) :
    untilDecided d (x :: xs) = untilDecided d (x :: ys) := by
  cases x with
  | error e => rfl
  | ok b => rw [untilDecided, untilDecided, h]

namespace Rule

/-- Only conjunctions have rules nested in them. -/
def IsSpine (r : Rule) : Prop :=
  ∀ d ∈ r.subrules, d.nested ≠ [] → d.operator = .and

theorem isSpine_iff {r : Rule} :
    r.IsSpine ↔ (r.nested ≠ [] → r.operator = .and) ∧ ∀ n ∈ r.nested, n.IsSpine := by
  rw [IsSpine, subrules_eq, List.forall_mem_cons, descendants, List.forall_mem_flatMap]
  rfl

theorem subrules_flattened (r : Rule) :
    r.flattened.subrules = r.flattened :: r.descendants.map alone := by
  rw [subrules_eq, descendants_of_isFlat r.isFlat_flattened]
  rfl

/-- Flattening keeps the rules in a rule, but for what is nested in each. -/
theorem alone_subrules_flattened (r : Rule) :
    r.flattened.subrules.map alone = r.subrules.map alone := by
  rw [subrules_flattened, subrules_eq, List.map_cons, List.map_cons, List.map_map]
  rfl

theorem valid_flattened_iff {r : Rule} : r.flattened.Valid ↔ r.Valid := by
  have halone (r : Rule) : r.Valid ↔ ∀ d ∈ r.subrules.map alone,
      d.operator.isLogical = true ∧ ∀ c ∈ d.conditions, c.Valid := by
    rw [valid_iff, List.forall_mem_map]
    rfl
  rw [halone, alone_subrules_flattened, ← halone]

theorem IsSpine.flattened {r : Rule} (h : r.IsSpine) : r.flattened.IsSpine := by
  refine isSpine_iff.mpr ⟨fun hne => ?_, fun n hn => ?_⟩
  · refine (isSpine_iff.mp h).1 fun hnil => hne ?_
    show r.descendants.map alone = []
    rw [descendants_of_nested_nil hnil, List.map_nil]
  · have hnil := r.isFlat_flattened n hn
    refine isSpine_iff.mpr ⟨fun hne => absurd hnil hne, fun m hm => ?_⟩
    rw [hnil] at hm
    cases hm

theorem subrules_of_nested_nil {r : Rule} (h : r.nested = []) : r.subrules.map alone = [r] := by
  rw [subrules_eq, descendants_of_nested_nil h, List.map_singleton, alone_eq_self h]

/-- What is checked in such a rule is what is checked in the rules in it, one after the other. -/
theorem checks_of_isSpine {r : Rule} (h : r.IsSpine) :
    r.checks = (r.subrules.map alone).flatMap checks := by
  induction r with
  | node op cs rs ih =>
    obtain ⟨hop, hnested⟩ := isSpine_iff.mp h
    by_cases hrs : (Rule.node op cs rs).nested = []
    · rw [subrules_of_nested_nil hrs, List.flatMap_singleton]
    · obtain rfl : op = .and := hop hrs
      have hall : rs.flatMap checks = ((rs.flatMap subrules).map alone).flatMap checks := by
        rw [List.map_flatMap, List.flatMap_assoc]
        exact List.flatMap_congr fun n hn => ih n hn (hnested n hn)
      rw [subrules_eq, List.map_cons, List.flatMap_cons, checks_eq, checks_eq]
      -- a conjunction has no arity to check, with or without what is nested in it
      show cs.map .condition ++ (rs.flatMap checks ++ []) = cs.map .condition ++ ([] ++ []) ++ _
      rw [List.append_nil, List.append_nil, List.append_nil, hall]
      rfl

/-- Such a rule has the outcome of the rules in it, read one after the other. -/
theorem outcome_of_isSpine {ε : Type} {value : Condition → Except ε Bool} {r : Rule}
    (h : r.IsSpine) :
    r.outcome value = untilDecided false ((r.subrules.map alone).map (outcome value)) := by
  induction r with
  | node op cs rs ih =>
    obtain ⟨hop, hnested⟩ := isSpine_iff.mp h
    by_cases hrs : (Rule.node op cs rs).nested = []
    · rw [subrules_of_nested_nil hrs, List.map_singleton, untilDecided_singleton]
    · obtain rfl : op = .and := hop hrs
      have hall : untilDecided false (rs.map (outcome value)) =
          untilDecided false (((rs.flatMap subrules).map alone).map (outcome value)) := by
        rw [List.map_flatMap, List.map_flatMap, untilDecided_flatMap]
        exact congrArg _ (List.map_congr_left fun n hn => ih n hn (hnested n hn))
      have halone : (Rule.node .and cs rs).alone.outcome value =
          untilDecided false (cs.map value) := by
        rw [alone, outcome, outcomes, List.append_nil]
        rfl
      rw [subrules_eq, List.map_cons, List.map_cons, halone, outcome, outcomes_eq]
      show untilDecided false (cs.map value ++ rs.map (outcome value)) = _
      rw [untilDecided_append]
      exact untilDecided_cons_congr hall

theorem checks_flattened {r : Rule} (h : r.IsSpine) : r.flattened.checks = r.checks := by
  rw [checks_of_isSpine h.flattened, alone_subrules_flattened, ← checks_of_isSpine h]

theorem outcome_flattened {ε : Type} {value : Condition → Except ε Bool} {r : Rule}
    (h : r.IsSpine) : r.flattened.outcome value = r.outcome value := by
  rw [outcome_of_isSpine h.flattened, alone_subrules_flattened, ← outcome_of_isSpine h]

end Rule

theorem Target.compile_flattened {α L : Type} (T : Target α L) {r : Rule} (hv : r.Valid)
    (h : r.IsSpine) : T.compile r.flattened = T.compile r := by
  rw [T.compile_eq hv, T.compile_eq (Rule.valid_flattened_iff.mpr hv), Rule.checks_flattened h]
  simp only [Rule.outcome_flattened h]

namespace Stored

/-- **Deep rules that survive storing.** The text of a clean rule whose values are typed as the
reading types them, and in which only conjunctions have rules nested in them, is read as another
rule, which compiles to the same fault or the same predicate. -/
theorem compile_read_stored {f : StoredFormat} {r : Rule} (hv : r.Valid) (hspine : r.IsSpine)
    (hc : ∀ d ∈ r.subrules, ∀ c ∈ d.conditions, c.Clean) (hread : r.AsRead f)
    (hm : ¬f.marker.toList <:+: r.stored.toList) :
    ∃ r', f.read r.stored = .ok r' ∧ r' = r.flattened ∧
      (∀ {α : Type} (t : RecordType α), Flat.compile t r' = Flat.compile t r) ∧
      (∀ {α : Type} (conventions : Conventions) (t : EntityType α),
        Entities.compile conventions t r' = Entities.compile conventions t r) ∧
      (∀ {α β : Type} (conventions : Conventions) (t : AttributeType α β),
        Owned.compile conventions t r' = Owned.compile conventions t r) := by
  have hs : ∀ d ∈ r.subrules, ∀ c ∈ d.conditions, c.Storable :=
    fun d hd c hcd => storable_of_clean (hc d hd c hcd)
  obtain ⟨hn, hsame⟩ := Rule.asRead_iff.mp hread
  have hstored : r.stored.toList = write r := String.toList_ofList
  refine ⟨r.flattened, ?_, rfl, fun t => ?_, fun conventions t => ?_, fun conventions t => ?_⟩
  · rw [hstored] at hm
    rw [StoredFormat.read, hstored, read_write_of_storable hv hs hm hn, hsame]
  · rw [Flat.compile_eq_target, Flat.compile_eq_target, Target.compile_flattened _ hv hspine]
  · rw [Entities.compile_eq_target, Entities.compile_eq_target,
      Target.compile_flattened _ hv hspine]
  · rw [Owned.compile_eq_target, Owned.compile_eq_target, Target.compile_flattened _ hv hspine]

/-- Conjunctions down to a negation and a disjunction. -/
def spineRule : Rule :=
  .node .and [⟨"Experience", .gte, .single (.number (.signed 5))⟩]
    [.node .and []
      [.node .and [⟨"city", .absent, .array [.text "New York", .text "Oslo"]⟩]
          [.node .not [⟨"town", .like, .pattern "os"⟩] []],
        .node .or [⟨"active", .eq, .single (.text "true")⟩] []]]

theorem compile_read_stored_spineRule :
    spineRule.Valid ∧ spineRule.IsSpine ∧
      (∀ d ∈ spineRule.subrules, ∀ c ∈ d.conditions, c.Clean) ∧ spineRule.AsRead .standard ∧
      ¬StoredFormat.standard.marker.toList <:+: spineRule.stored.toList ∧
      ∃ r', StoredFormat.standard.read spineRule.stored = .ok r' ∧ r'.nested.length = 4 ∧
        spineRule.nested.length = 1 ∧
        ∀ {α : Type} (t : RecordType α), Flat.compile t r' = Flat.compile t spineRule := by
  have hv : spineRule.Valid := by decide
  have hspine : spineRule.IsSpine := by
    unfold Rule.IsSpine
    decide
  have hc : ∀ d ∈ spineRule.subrules, ∀ c ∈ d.conditions, c.Clean := by decide
  have hread : spineRule.AsRead .standard := by
    refine Rule.asRead_iff.mpr ⟨?_, rfl⟩
    unfold Rule.RendersNumbers Condition.RendersNumbers
    decide
  have hm : ¬StoredFormat.standard.marker.toList <:+: spineRule.stored.toList := by
    rw [← Text.occursIn_iff]
    decide
  obtain ⟨r', hr, rfl, hflat, -⟩ := compile_read_stored hv hspine hc hread hm
  exact ⟨hv, hspine, hc, hread, hm, _, hr, rfl, rfl, hflat⟩

end Stored
end RecordRules
