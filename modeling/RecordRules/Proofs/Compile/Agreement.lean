import RecordRules.Proofs.Compile.Target

/-!
# RecordRules.Proofs.Compile.Agreement

Two targets that make the same of the conditions in a rule, where the tests of one are those of the
other in another form. They compile the rule alike: with the same error
(`compile_eq_error_iff_of_map`) or to predicates that agree wherever the tests do
(`evaluate_of_map`), which need not be predicates on the same kind of records.
`compile_mapConditions` brings a rule whose conditions were changed under the same heading: it is
the rule itself, for a target that changes conditions first.
-/

namespace RecordRules
namespace Target

variable {α β L L' : Type} {r : Rule}

/-- The target that changes a condition before it looks at it. -/
def comap (T : Target α L) (g : Condition → Condition) : Target α L :=
  ⟨T.name, fun c => T.leaf (g c), T.holds⟩

theorem compile_mapConditions (T : Target α L) {g : Condition → Condition} (hv : r.Valid)
    (hg : (r.mapConditions g).Valid) :
    T.compile (r.mapConditions g) = (T.comap g).compile r := by
  have hrun : runAll T.check (r.checks.map (Check.mapCondition g)) =
      runAll (T.comap g).check r.checks := by
    rw [runAll_map]
    exact runAll_congr fun k _ => Check.run_mapCondition _ g k
  rw [T.compile_eq hg, (T.comap g).compile_eq hv, Rule.checks_mapConditions, hrun]
  simp only [Rule.outcome_mapConditions]
  rfl

section Agreement

variable {T : Target α L} {T' : Target β L'} {f : L' → L}

theorem value_of_map {a : α} {b : β} {c : Condition} (h : T.leaf c = (T'.leaf c).map f)
    (hf : ∀ l, T.holds a (f l) = T'.holds b l) : T.value a c = T'.value b c := by
  rw [value, value, Rule.tested, Rule.tested, h]
  cases T'.leaf c with
  | error e => rfl
  | ok l => exact hf l

theorem run_checks_of_map
    (h : ∀ d ∈ r.subrules, ∀ c ∈ d.conditions, T.leaf c = (T'.leaf c).map f) :
    runAll T.check r.checks = runAll T'.check r.checks := by
  refine runAll_congr (Rule.forall_mem_checks.mpr fun d hd => ⟨fun c hc => ?_, fun _ => rfl⟩)
  show verdict (T.leaf c) = verdict (T'.leaf c)
  rw [h d hd c hc, verdict_map]

theorem compile_eq_error_iff_of_map (hv : r.Valid)
    (h : ∀ d ∈ r.subrules, ∀ c ∈ d.conditions, T.leaf c = (T'.leaf c).map f) (e : RuleError) :
    T.compile r = .error e ↔ T'.compile r = .error e := by
  rw [T.compile_eq hv, T'.compile_eq hv, run_checks_of_map h]
  cases runAll T'.check r.checks <;> simp

theorem evaluate_of_map {p : Predicate α} {q : Predicate β} {a : α} {b : β} (hv : r.Valid)
    (hp : T.compile r = .ok p) (hq : T'.compile r = .ok q)
    (h : ∀ d ∈ r.subrules, ∀ c ∈ d.conditions, T.leaf c = (T'.leaf c).map f)
    (hf : ∀ l, T.holds a (f l) = T'.holds b l) : p.evaluate a = q.evaluate b := by
  obtain ⟨-, rfl⟩ := T.of_compile_eq_ok hv hp
  obtain ⟨-, rfl⟩ := T'.of_compile_eq_ok hv hq
  exact Rule.outcome_congr fun d hd c hc => value_of_map (h d hd c hc) hf

end Agreement

/-- Targets for the same records that agree on every condition of a rule compile it to the same. -/
theorem compile_of_map {T : Target α L} {T' : Target α L'} {f : L' → L} (hv : r.Valid)
    (hname : T.name = T'.name)
    (h : ∀ d ∈ r.subrules, ∀ c ∈ d.conditions, T.leaf c = (T'.leaf c).map f)
    (hf : ∀ a l, T.holds a (f l) = T'.holds a l) : T.compile r = T'.compile r := by
  have houtcome : (fun a => r.outcome (T.value a)) = fun a => r.outcome (T'.value a) :=
    funext fun a => Rule.outcome_congr fun d hd c hc => value_of_map (h d hd c hc) (hf a)
  rw [T.compile_eq hv, T'.compile_eq hv, run_checks_of_map h, hname, houtcome]

/-- A change of conditions that a target does not see in the tests it makes. -/
theorem compile_mapConditions_eq_self (T : Target α L) {g : Condition → Condition} (hv : r.Valid)
    (hg : (r.mapConditions g).Valid)
    (h : ∀ d ∈ r.subrules, ∀ c ∈ d.conditions, T.leaf (g c) = T.leaf c) :
    T.compile (r.mapConditions g) = T.compile r := by
  have hid : ∀ x : Except RuleError L, x = x.map id := fun x => by cases x <;> rfl
  rw [T.compile_mapConditions hv hg]
  exact compile_of_map (f := id) hv rfl (fun d hd c hc => (h d hd c hc).trans (hid _))
    fun a l => rfl

end Target
end RecordRules
