import RecordRules.Proofs.Exchange.Reading
import RecordRules.Proofs.Json.RoundTrip
import RecordRules.Proofs.Number.Integer

/-!
# RecordRules.Proofs.Exchange.RoundTrip

Rules that are written as documents and read back. A document has one kind of integer, so an
unsigned integer comes back as a signed one where that can hold it (`Rule.narrowed`), and it has no
word for a floating-point value that is not finite. Everything else comes back as it was.

Values, conditions and rules are read back by one law each, from the parts up, which covers the
document that cannot be read: `scalarOf_ofScalar`, `conditionOf_ofCondition`, `ruleOf_ofRule`. What
holds of documents holds of their texts where these are read as the documents that were written
(`ReadsBack`); `readsBack_ofRule` says for which rules that is known.
-/

namespace RecordRules

/-! ## What a document keeps -/

namespace Scalar

def narrowed : Scalar → Scalar
  | .number n => .number n.narrowed
  | s => s

/-- Documents have a word for the value. -/
def isFinite : Scalar → Bool
  | .number (.float x) => x.isFinite
  | _ => true

end Scalar

namespace Condition

def narrowed (c : Condition) : Condition :=
  { c with value := c.value.mapScalars Scalar.narrowed }

def isFinite (c : Condition) : Bool :=
  c.value.scalars.all Scalar.isFinite

theorem valid_narrowed {c : Condition} (hv : c.Valid) : c.narrowed.Valid :=
  ⟨hv.field_named, hv.operator_compares, by
    rw [narrowed, Constant.fits_mapScalars]
    exact hv.value_fits⟩

end Condition

namespace Rule

/-- The rule with every integer, at every depth, in the first representation that can hold it. -/
def narrowed (r : Rule) : Rule :=
  r.mapConditions Condition.narrowed

def isFinite (r : Rule) : Bool :=
  r.subrules.all fun d => d.conditions.all Condition.isFinite

theorem narrowed_node (op : Operator) (cs : List Condition) (rs : List Rule) :
    (node op cs rs).narrowed = node op (cs.map Condition.narrowed) (rs.map narrowed) := by
  rw [narrowed, mapConditions, mapConditionsAll_eq]
  rfl

theorem isFinite_node (op : Operator) (cs : List Condition) (rs : List Rule) :
    (node op cs rs).isFinite = (cs.all Condition.isFinite && rs.all isFinite) := by
  rw [isFinite, subrules_eq, List.all_cons, descendants, List.all_flatMap]
  rfl

theorem isFinite_iff {r : Rule} :
    r.isFinite = true ↔
      ∀ d ∈ r.subrules, ∀ c ∈ d.conditions, ∀ s ∈ c.value.scalars, s.isFinite = true := by
  simp only [isFinite, Condition.isFinite, List.all_eq_true]

mutual

/-- How many rules lie in each other, the rule itself included. -/
def levels : Rule → Nat
  | .node _ _ rs => levelsOfAll rs + 1

def levelsOfAll : List Rule → Nat
  | [] => 0
  | r :: rs => max (levels r) (levelsOfAll rs)

end

theorem levels_node_le_iff {k : Nat} {op : Operator} {cs : List Condition} {rs : List Rule} :
    (node op cs rs).levels ≤ k + 1 ↔ ∀ n ∈ rs, n.levels ≤ k := by
  rw [levels, Nat.add_le_add_iff_right]
  induction rs with
  | nil => simp [levelsOfAll]
  | cons r rs ih => rw [levelsOfAll, Nat.max_le, ih, List.forall_mem_cons]

end Rule

/-- Items that are read back, or else all fail in one way, are read back as a list, or else fail in
that way. -/
theorem mapM_map_eq_ite {α β γ ε : Type} {f : α → β} {g : β → Except ε γ} {p : α → Bool}
    {n : α → γ} {e : ε} {xs : List α}
    (h : ∀ x ∈ xs, g (f x) = if p x then .ok (n x) else .error e) :
    (xs.map f).mapM g = if xs.all p then .ok (xs.map n) else .error e := by
  induction xs with
  | nil => rfl
  | cons x xs ih =>
    obtain ⟨hx, hxs⟩ := List.forall_mem_cons.mp h
    rw [List.map_cons, mapM_cons_except, hx, ih hxs, List.all_cons, List.map_cons]
    cases p x <;> cases xs.all p <;> rfl

namespace Exchange

/-! ## Conditions -/

theorem scalarOf_integer {n : Int} {k : Number} (h : Number.ofInt? n = some k) :
    scalarOf (.integer n) = .ok (.number k) := by
  rw [scalarOf, h]

theorem scalarOf_ofScalar (s : Scalar) :
    scalarOf (ofScalar s) = if s.isFinite then .ok s.narrowed else .error .malformed := by
  cases s with
  | text s => rfl
  | bool b => rfl
  | number n =>
    cases n with
    | signed n => exact scalarOf_integer (Number.ofInt?_toInt n)
    | unsigned n => exact scalarOf_integer (Number.ofInt?_toNat n)
    | float x =>
      rw [ofScalar, Scalar.isFinite]
      cases x.isFinite <;> rfl

theorem constantOf_single (v : Json) :
    constantOf (.object [(some "single", v)]) = (scalarOf v).map .single := by
  rw [constantOf.eq_def]
  simp only [if_true]
  cases scalarOf v <;> rfl

theorem constantOf_array (items : List Json) :
    constantOf (.object [(some "array", .list items)]) = (items.mapM scalarOf).map .array := by
  rw [constantOf, if_neg (by decide), if_pos rfl, scalarsOf_eq_mapM]
  cases items.mapM scalarOf <;> rfl

theorem constantOf_ofConstant (v : Constant) :
    constantOf (ofConstant v) =
      if v.scalars.all Scalar.isFinite then .ok (v.mapScalars Scalar.narrowed)
      else .error .malformed := by
  cases v with
  | single s =>
    rw [ofConstant, constantOf_single, scalarOf_ofScalar, Constant.scalars, List.all_cons,
      List.all_nil, Bool.and_true]
    cases s.isFinite <;> rfl
  | array items =>
    rw [ofConstant, constantOf_array, mapM_map_eq_ite fun s _ => scalarOf_ofScalar s,
      Constant.scalars]
    cases items.all Scalar.isFinite <;> rfl
  | pattern p => rfl

theorem operatorOf_token (op : Operator) : operatorOf (.text op.token) = .ok op := by
  rw [operatorOf, Operator.ofToken?_token]

/-- The entries of a condition, in the order in which they are written. -/
theorem conditionOf_entries {op : Operator} (field : String) (value : Json) :
    conditionOf (.object [(some "field", .text field), (some "operator", .text op.token),
        (some "value", value)]) =
      match constantOf value with
      | .error e => .error e
      | .ok v => ConditionParts.finish ⟨some field, some op, some v⟩ := by
  simp only [conditionOf, conditionEntries, ConditionParts.take, filled, textOf, operatorOf_token]
  cases constantOf value <;> rfl

theorem conditionOf_ofCondition {c : Condition} (hv : c.Valid) :
    conditionOf (ofCondition c) =
      if c.isFinite then .ok c.narrowed else .error .malformed := by
  have hmake : Condition.make c.field c.operator (c.value.mapScalars Scalar.narrowed) =
      .ok c.narrowed := Condition.make_eq_ok_iff.mpr ⟨rfl, Condition.valid_narrowed hv⟩
  rw [ofCondition, conditionOf_entries, constantOf_ofConstant, Condition.isFinite]
  cases c.value.scalars.all Scalar.isFinite with
  | false => rfl
  | true =>
    simp only [if_true, ConditionParts.finish, hmake]

/-! ## Rules -/

theorem ofRules_eq_map (rs : List Rule) : ofRules rs = rs.map ofRule := by
  induction rs with
  | nil => rw [ofRules]; rfl
  | cons r rs ih => rw [ofRules, ih, List.map_cons]

section Entries

variable {p : RuleParts} (v : Json) (es : List (Option String × Json))

theorem ruleEntries_operator (hp : p.operator = none) (op : Operator) :
    ruleEntries p ((some "logical_operator", .text op.token) :: es) =
      ruleEntries { p with operator := some op } es := by
  rw [ruleEntries, operatorOf_token, filled, hp]
  rfl

theorem ruleEntries_conditions (hp : p.conditions = none) :
    ruleEntries p ((some "conditions", v) :: es) =
      match conditionListOf v with
      | .error e => .error e
      | .ok cs => ruleEntries { p with conditions := some cs } es := by
  rw [ruleEntries.eq_def]
  simp only [reduceIte, String.reduceEq, hp]
  cases conditionListOf v <;> rfl

theorem ruleEntries_nested (hp : p.nested = none) :
    ruleEntries p ((some "nested", v) :: es) =
      match ruleListOf v with
      | .error e => .error e
      | .ok rs => ruleEntries { p with nested := some rs } es := by
  rw [ruleEntries.eq_def]
  simp only [reduceIte, String.reduceEq, hp]
  cases ruleListOf v <;> rfl

end Entries

/-- The entries of a rule, in the order in which they are written. -/
theorem ruleOf_entries {op : Operator} (conditions nested : List Json) :
    ruleOf (.object [(some "logical_operator", .text op.token),
        (some "conditions", .list conditions), (some "nested", .list nested)]) =
      match conditions.mapM conditionOf with
      | .error e => .error e
      | .ok cs =>
        match nested.mapM ruleOf with
        | .error e => .error e
        | .ok rs => RuleParts.finish ⟨some op, some cs, some rs⟩ := by
  rw [← conditionsOf_eq_mapM, ← rulesOf_eq_mapM, ruleOf, ruleEntries_operator _ rfl,
    ruleEntries_conditions _ _ rfl, conditionListOf]
  cases conditionsOf conditions with
  | error e => rfl
  | ok cs =>
    simp only []
    rw [ruleEntries_nested _ _ rfl, ruleListOf]
    cases rulesOf nested with
    | error e => rfl
    | ok rs =>
      simp only []
      rw [ruleEntries]

/-- A rule is read back from its document with its integers narrowed, or not at all. -/
theorem ruleOf_ofRule {r : Rule} (hv : r.Valid) :
    ruleOf (ofRule r) = if r.isFinite then .ok r.narrowed else .error .malformed := by
  induction r with
  | node op cs rs ih =>
    cases hv with
    | node combines conditions_valid nested_valid =>
      have hmake : Rule.make op (cs.map Condition.narrowed) (rs.map Rule.narrowed) =
          .ok (Rule.node op cs rs).narrowed :=
        Rule.make_eq_ok_iff.mpr ⟨Rule.narrowed_node op cs rs, combines⟩
      rw [ofRule, ruleOf_entries, ofRules_eq_map,
        mapM_map_eq_ite fun c hc => conditionOf_ofCondition (conditions_valid c hc),
        mapM_map_eq_ite fun n hn => ih n hn (nested_valid n hn), Rule.isFinite_node]
      cases cs.all Condition.isFinite with
      | false => rfl
      | true =>
        cases rs.all Rule.isFinite with
        | false => rfl
        | true => simp only [if_true, Bool.and_true, RuleParts.finish, Option.getD_some, hmake]

/-! ## Texts -/

/-- The text of a document is read as that document again. -/
def ReadsBack (v : Json) : Prop :=
  Json.read v.write = (v, true)

theorem writable_ofScalar {s : Scalar}
    (h : ∀ x, s = .number (.float x) → x.isFinite = true → Json.FloatReadsBack x) (d : Nat) :
    Json.Writable d (ofScalar s) := by
  cases s with
  | text s => exact .text s
  | bool b => exact .bool b
  | number n =>
    cases n with
    | signed n =>
      have hlow := n.le_toInt
      have hhigh := n.toInt_lt
      exact .integer (by omega)
    | unsigned n =>
      have hhigh := n.toNat_lt
      exact .integer (by omega)
    | float x =>
      rw [ofScalar]
      split
      · rename_i hx
        exact .float (h x rfl hx)
      · exact .null

theorem writable_ofConstant {v : Constant}
    (h : ∀ s ∈ v.scalars, ∀ d, Json.Writable d (ofScalar s)) (d : Nat) :
    Json.Writable (d + 2) (ofConstant v) := by
  cases v with
  | single s =>
    exact .object (by simp) (List.forall_mem_singleton.mpr (h s List.mem_cons_self _))
  | array items =>
    have hitems : ∀ v ∈ items.map ofScalar, Json.Writable d v := by
      rw [List.forall_mem_map]
      exact fun s hs => h s hs d
    exact .object (by simp) (List.forall_mem_singleton.mpr (.list hitems))
  | pattern p => exact .object (by simp) (List.forall_mem_singleton.mpr (.text p))

theorem writable_ofCondition {c : Condition}
    (h : ∀ s ∈ c.value.scalars, ∀ d, Json.Writable d (ofScalar s)) (d : Nat) :
    Json.Writable (d + 3) (ofCondition c) := by
  refine .object (by simp) ?_
  simp only [List.forall_mem_cons]
  exact ⟨.text _, .text _, writable_ofConstant h d, by simp⟩

/-- Each level of a rule takes two containers, and the conditions of the last level three more. -/
theorem writable_ofRule {k : Nat} {r : Rule} (hk : r.levels ≤ k)
    (h : ∀ d ∈ r.subrules, ∀ c ∈ d.conditions, ∀ s ∈ c.value.scalars, ∀ d,
      Json.Writable d (ofScalar s)) : Json.Writable (2 * k + 3) (ofRule r) := by
  induction r generalizing k with
  | node op cs rs ih =>
    rw [Rule.subrules_eq] at h
    obtain ⟨hcs, hrs⟩ := List.forall_mem_cons.mp h
    obtain ⟨k, rfl⟩ : ∃ m, k = m + 1 := ⟨k - 1, by rw [Rule.levels] at hk; omega⟩
    have hlevels := Rule.levels_node_le_iff.mp hk
    have hconditions : ∀ v ∈ cs.map ofCondition, Json.Writable (2 * k + 3) v := by
      rw [List.forall_mem_map]
      exact fun c hc => writable_ofCondition (hcs c hc) _
    have hnested : ∀ v ∈ rs.map ofRule, Json.Writable (2 * k + 3) v := by
      rw [List.forall_mem_map]
      exact fun n hn => ih n hn (hlevels n hn) fun d hd => hrs d (List.mem_flatMap.mpr ⟨n, hn, hd⟩)
    rw [ofRule, ofRules_eq_map]
    refine .object (by simp) ?_
    simp only [List.forall_mem_cons]
    exact ⟨.text _, .list hconditions, .list hnested, by simp⟩

/-- A rule of at most 62 levels is read back from its text as soon as its floating-point values
are. -/
theorem readsBack_ofRule {r : Rule} (hk : r.levels ≤ 62)
    (h : ∀ d ∈ r.subrules, ∀ c ∈ d.conditions, ∀ x, .number (.float x) ∈ c.value.scalars →
      x.isFinite = true → Json.FloatReadsBack x) : ReadsBack (ofRule r) := by
  refine Json.read_write (writable_ofRule hk fun d hd c hc s hs => writable_ofScalar fun x hx => ?_)
  subst hx
  exact h d hd c hc x hs

theorem read_write_of_readsBack {r : Rule} (h : ReadsBack (ofRule r)) :
    read (write r) = ruleOf (ofRule r) := by
  have hread : Json.read (ofRule r).write = (ofRule r, true) := h
  simp only [read, write, String.toList_ofList, hread]
  cases ruleOf (ofRule r) <;> rfl

/-- **Documents keep everything but the representation of integers.** A valid rule of any depth is
read back with its integers narrowed and nothing else changed, unless there is a floating-point
value in it that is not finite; then it is not read back at all. For its text this holds as soon as
the text is read as the document that was written. -/
theorem read_write_narrowed {r : Rule} (hv : r.Valid) :
    ((∀ d ∈ r.subrules, ∀ c ∈ d.conditions, ∀ s ∈ c.value.scalars, s.isFinite = true) →
      ruleOf (ofRule r) = .ok r.narrowed ∧
        (ReadsBack (ofRule r) → read (write r) = .ok r.narrowed)) ∧
    ((∃ d ∈ r.subrules, ∃ c ∈ d.conditions, ∃ s ∈ c.value.scalars, s.isFinite = false) →
      ruleOf (ofRule r) = .error .malformed ∧
        (ReadsBack (ofRule r) → read (write r) = .error .malformed)) := by
  have hread := ruleOf_ofRule hv
  constructor
  · intro h
    rw [if_pos (Rule.isFinite_iff.mpr h)] at hread
    exact ⟨hread, fun hb => (read_write_of_readsBack hb).trans hread⟩
  · rintro ⟨d, hd, c, hc, s, hs, hfinite⟩
    have hr : r.isFinite ≠ true := fun h => by
      rw [Rule.isFinite_iff.mp h d hd c hc s hs] at hfinite
      cases hfinite
    rw [if_neg hr] at hread
    exact ⟨hread, fun hb => (read_write_of_readsBack hb).trans hread⟩

/-- Texts that look like numbers and truth values, unsigned integers that fit and that do not, and
a floating-point value two levels down. -/
def measuredRule (x : Binary64) : Rule :=
  .node .not [⟨"code", .member, .array [.text "5", .text "true",
      .number (.unsigned 7), .number (.unsigned 0xFFFFFFFFFFFFFFFF)]⟩]
    [.node .or [⟨"name", .like, .pattern "5"⟩]
      [.node .and [⟨"ratio", .eq, .single (.number (.float x))⟩] []]]

theorem readsBack_measuredRule {x : Binary64} (hx : x.isFinite = true → Json.FloatReadsBack x) :
    ReadsBack (ofRule (measuredRule x)) := by
  have hlevels : (measuredRule x).levels = 3 := rfl
  refine readsBack_ofRule (by omega) ?_
  simpa [measuredRule, Rule.subrules, Rule.subrulesOfAll, Rule.conditions, Constant.scalars]
    using hx

theorem read_write_measuredRule :
    read (write (measuredRule ⟨0x4014000000000000⟩)) = .ok (.node .not
      [⟨"code", .member, .array [.text "5", .text "true",
        .number (.signed 7), .number (.unsigned 0xFFFFFFFFFFFFFFFF)]⟩]
      [.node .or [⟨"name", .like, .pattern "5"⟩]
        [.node .and [⟨"ratio", .eq, .single (.number (.float ⟨0x4014000000000000⟩))⟩] []]]) ∧
    read (write (measuredRule ⟨0x7FF0000000000000⟩)) = .error .malformed := by
  have hback : ReadsBack (ofRule (measuredRule ⟨0x4014000000000000⟩)) :=
    readsBack_measuredRule fun _ => ⟨_, rfl, rfl⟩
  have hback' : ReadsBack (ofRule (measuredRule ⟨0x7FF0000000000000⟩)) :=
    readsBack_measuredRule fun h => by cases h
  exact ⟨((read_write_narrowed (by decide)).1 (by decide)).2 hback,
    ((read_write_narrowed (by decide)).2 (by decide)).2 hback'⟩

end Exchange
end RecordRules
