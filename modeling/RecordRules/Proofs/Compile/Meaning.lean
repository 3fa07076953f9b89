import RecordRules.Proofs.Compile.Route
import RecordRules.Proofs.Compile.Typing
import RecordRules.Proofs.Rule.Meaning
import RecordRules.Proofs.Text.Search

/-!
# RecordRules.Proofs.Compile.Meaning

What the predicate of a rule says of a record.

* `Condition.HoldsOf` gives the meaning of a condition on the value of a field, `Condition.Searches`
  on the values stored under a key, in order, one of which may not be the number that is needed.
* `HoldsFor` says for each way of compiling which conditions hold of a record, and
  `Entities.Gives` and `Owned.Gives` what they give, failures included.
* `compiled_means`: the predicate of a rule has the meaning that `Rule.Holds` and `Rule.ReadAs` give
  the tree.
-/

namespace RecordRules

/-! ## Conditions on a field -/

namespace Operator

/-- The orders of a value and a constant that an operator asks for. -/
def Relates : Operator → Ordering → Prop
  | .eq, o => o = .eq
  | .neq, o => o ≠ .eq
  | .gt, o => o = .gt
  | .gte, o => o ≠ .lt
  | .lt, o => o = .lt
  | .lte, o => o ≠ .gt
  | _, _ => False

theorem holds_iff {op : Operator} {o : Ordering} : op.holds o = true ↔ op.Relates o := by
  cases op <;> simp [holds, Relates]

end Operator

theorem containsText_false_iff {pattern text : List Char} :
    containsText false pattern text = true ↔ pattern <:+: text :=
  Text.occursIn_iff

theorem containsText_true_iff {pattern text : List Char} :
    containsText true pattern text = true ↔ Text.lower pattern <:+: Text.lower text :=
  Text.occursIn_iff

namespace Condition

/-- The condition holds of the value of its field. -/
def HoldsOf (c : Condition) (v : Value) : Prop :=
  match c.operator, c.value with
  | .like, .pattern p => ∃ s, v = .text s ∧ p.toList <:+: s.toList
  | .ilike, .pattern p => ∃ s, v = .text s ∧ Text.lower p.toList <:+: Text.lower s.toList
  | .member, .array items => v ≠ .none ∧ ∃ s ∈ items, v.order? s.toValue = some .eq
  | .absent, .array items => v ≠ .none ∧ ∀ s ∈ items, v.order? s.toValue ≠ some .eq
  | op, .single s => ∃ o, v.order? s.toValue = some o ∧ op.Relates o
  | _, _ => False

/-- Nothing holds of a missing value. -/
theorem not_holdsOf_none (c : Condition) : ¬c.HoldsOf .none := by
  obtain ⟨field, op, v⟩ := c
  cases v with
  | single s => cases op <;> simp [HoldsOf, Value.order?]
  | array items => cases op <;> simp [HoldsOf]
  | pattern p => cases op <;> simp [HoldsOf]

variable {c : Condition} {field : String} {type : ValueType} {test : ValueTest}

theorem contains_iff_holdsOf {p : String} (hk : c.operator.kind = .text)
    (hval : c.value = .pattern p) (v : Value) :
    (ValueTest.contains (c.operator == .ilike) p).holds v = true ↔ c.HoldsOf v := by
  obtain ⟨field, op, val⟩ := c
  obtain rfl : val = .pattern p := hval
  cases op with
  | like =>
    show (ValueTest.contains false p).holds v = true ↔ _
    cases v <;> simp [ValueTest.holds, HoldsOf, containsText_false_iff]
  | ilike =>
    show (ValueTest.contains true p).holds v = true ↔ _
    cases v <;> simp [ValueTest.holds, HoldsOf, containsText_true_iff]
  | _ => cases hk

theorem member_iff_holdsOf {items : List Scalar} (hm : c.operator.isMembership = true)
    (hval : c.value = .array items) (v : Value) :
    (ValueTest.member (c.operator == .absent) items).holds v = true ↔ c.HoldsOf v := by
  obtain ⟨field, op, val⟩ := c
  obtain rfl : val = .array items := hval
  cases op with
  | member =>
    show (ValueTest.member false items).holds v = true ↔ _
    cases v <;> simp [ValueTest.holds, HoldsOf]
  | absent =>
    show (ValueTest.member true items).holds v = true ↔ _
    cases v <;> simp [ValueTest.holds, HoldsOf]
  | _ => cases hm

theorem relation_iff_holdsOf {s : Scalar} (hval : c.value = .single s) (v : Value) :
    (ValueTest.relation c.operator s).holds v = true ↔ c.HoldsOf v := by
  obtain ⟨field, op, val⟩ := c
  obtain rfl : val = .single s := hval
  have hholds : HoldsOf ⟨field, op, .single s⟩ v ↔
      ∃ o, v.order? s.toValue = some o ∧ op.Relates o := by
    cases op <;> rfl
  rw [hholds, ValueTest.holds]
  cases v.order? s.toValue with
  | none => simp
  | some o => simp [Operator.holds_iff]

/-- The compiled test of a condition has its meaning. -/
theorem holds_iff_holdsOf (hv : c.Valid) (h : comparison field type c.value c.operator = .ok test)
    (v : Value) : test.holds v = true ↔ c.HoldsOf v := by
  obtain ⟨p, hval, hk⟩ | ⟨items, hval, hk, hm⟩ | ⟨s, hval, hk, hm⟩ := hv.shape
  · rw [hval, comparison_of_pattern hk] at h
    split at h
    · cases h
      exact contains_iff_holdsOf hk hval v
    · cases h
  · rw [hval, comparison_of_array hk hm] at h
    split at h
    · cases h
    · cases h
      exact member_iff_holdsOf hm hval v
  · rw [hval, comparison_of_single hk hm] at h
    split at h
    · cases h
    · split at h
      · cases h
      · cases h
        exact relation_iff_holdsOf hval v

end Condition

section Fields

variable {α : Type} {t : RecordType α} {name : String} {c : Condition} {f : FieldTest}

/-- A field of a record is read without failure, so the test of one has an answer. -/
theorem fieldTest_answers (hv : c.Valid) (h : t.fieldTest name c.value c.operator = .ok f) (a : α) :
    Answers (f.evaluate t a) (c.HoldsOf (t.read a name)) := by
  rw [RecordType.fieldTest] at h
  split at h
  · cases h
  · split at h
    · cases h
    · rename_i test htest
      cases h
      exact ⟨_, rfl, Condition.holds_iff_holdsOf hv htest _⟩

end Fields

/-! ## Conditions on stored values -/

namespace Condition

/-- The condition asks for an order, and the stored value is no number. -/
def Unreadable (c : Condition) (stored : String) : Prop :=
  c.operator.isOrdering = true ∧ Number.read? stored.toList = none

/-- The condition holds of a value that is stored as text: order is that of numbers, all else is
about the text of the constant. -/
def HoldsOfText (c : Condition) (stored : String) : Prop :=
  match c.operator, c.value with
  | .like, .pattern p => p.toList <:+: stored.toList
  | .ilike, .pattern p => Text.lower p.toList <:+: Text.lower stored.toList
  | .member, .array items => ∃ s ∈ items, s.rendered = stored.toList
  | .absent, .array items => ∀ s ∈ items, s.rendered ≠ stored.toList
  | .eq, .single s => s.rendered = stored.toList
  | .neq, .single s => s.rendered ≠ stored.toList
  | .gt, .single s | .gte, .single s | .lt, .single s | .lte, .single s =>
    ∃ n bound o, Number.read? stored.toList = some n ∧ Number.read? s.rendered = some bound ∧
      n.order? bound = some o ∧ c.operator.Relates o
  | _, _ => False

/-- Stored values are tried in order, up to the first of which the condition holds or that cannot be
read. -/
inductive Searches (c : Condition) : List String → Except RuleError Bool → Prop where
  | nil : Searches c [] (.ok false)
  | unreadable {v : String} {vs : List String} (fails : c.Unreadable v) :
      Searches c (v :: vs) (.error (.numericParse v))
  | found {v : String} {vs : List String} (readable : ¬c.Unreadable v) (holds : c.HoldsOfText v) :
      Searches c (v :: vs) (.ok true)
  | next {v : String} {vs : List String} {out : Except RuleError Bool} (readable : ¬c.Unreadable v)
      (fails : ¬c.HoldsOfText v) (rest : Searches c vs out) : Searches c (v :: vs) out

variable {c : Condition} {vs : List String} {out : Except RuleError Bool}

theorem Searches.unique {out' : Except RuleError Bool} (h : c.Searches vs out)
    (h' : c.Searches vs out') : out = out' := by
  induction h with
  | nil => cases h'; rfl
  | unreadable fails =>
    cases h' with
    | unreadable _ => rfl
    | found readable _ => exact absurd fails readable
    | next readable _ _ => exact absurd fails readable
  | found readable holds =>
    cases h' with
    | unreadable fails => exact absurd fails readable
    | found _ _ => rfl
    | next _ fails _ => exact absurd holds fails
  | next readable fails rest ih =>
    cases h' with
    | unreadable unread => exact absurd unread readable
    | found _ holds => exact absurd holds fails
    | next _ _ rest' => exact ih rest'

/-- A search that gives an answer tells whether the condition holds of some stored value. -/
theorem Searches.agrees (h : c.Searches vs out) : Agrees out (∃ v ∈ vs, c.HoldsOfText v) := by
  induction h with
  | nil =>
    intro b hb
    cases hb
    simp
  | unreadable fails =>
    intro b hb
    cases hb
  | found readable holds =>
    intro b hb
    cases hb
    simp [holds]
  | next readable fails rest ih => simpa [fails] using ih

end Condition

namespace AttributeTest

variable {c : Condition} {key : String} {test : AttributeTest}

theorem order_of_make {s : Scalar} (ho : c.operator.isOrdering = true) (hval : c.value = .single s)
    (h : make key c.operator c.value = .ok test) :
    ∃ bound, Number.read? s.rendered = some bound ∧ test = .order c.operator bound := by
  rw [hval, make_of_ordering ho] at h
  split at h
  · rename_i bound hb
    cases h
    exact ⟨bound, hb, rfl⟩
  · cases h

theorem holdsOfText_of_ordering {s : Scalar} (ho : c.operator.isOrdering = true)
    (hval : c.value = .single s) (stored : String) :
    c.HoldsOfText stored ↔ ∃ n bound o, Number.read? stored.toList = some n ∧
      Number.read? s.rendered = some bound ∧ n.order? bound = some o ∧ c.operator.Relates o := by
  obtain ⟨field, op, val⟩ := c
  obtain rfl : val = .single s := hval
  cases op <;> first | rfl | cases ho

theorem evaluate_of_ordering (hv : c.Valid) (ho : c.operator.isOrdering = true)
    (h : make key c.operator c.value = .ok test) {stored : String} {n : Number}
    (hn : Number.read? stored.toList = some n) :
    Answers (test.evaluate stored) (c.HoldsOfText stored) := by
  obtain ⟨hk, hm⟩ := Operator.comparison_of_isOrdering ho
  obtain ⟨s, hval⟩ := hv.single_of_comparison hk hm
  obtain ⟨bound, hb, rfl⟩ := order_of_make ho hval h
  rw [holdsOfText_of_ordering ho hval]
  simp only [evaluate, hn]
  cases hord : n.order? bound with
  | none => exact ⟨false, rfl, by simp [hb, hord]⟩
  | some o => exact ⟨_, rfl, by simp [hb, hord, Operator.holds_iff]⟩

theorem literal_eq_iff {s : Scalar} {stored : String} :
    literal s = stored ↔ s.rendered = stored.toList := by
  rw [literal, ← String.toList_inj, String.toList_ofList]

theorem evaluate_of_not_ordering (hv : c.Valid) (ho : c.operator.isOrdering = false)
    (h : make key c.operator c.value = .ok test) (stored : String) :
    Answers (test.evaluate stored) (c.HoldsOfText stored) := by
  obtain ⟨field, op, val⟩ := c
  cases op with
  | like =>
    obtain ⟨p, rfl⟩ : ∃ p, val = .pattern p := hv.pattern_of_text rfl
    cases h
    exact ⟨_, rfl, containsText_false_iff⟩
  | ilike =>
    obtain ⟨p, rfl⟩ : ∃ p, val = .pattern p := hv.pattern_of_text rfl
    cases h
    exact ⟨_, rfl, containsText_true_iff⟩
  | member =>
    obtain ⟨items, rfl⟩ : ∃ items, val = .array items := hv.array_of_membership rfl
    cases h
    refine ⟨_, rfl, ?_⟩
    show (((items.map literal).any fun t => t == stored) != false) = true ↔ ∃ s ∈ items, _
    simp [literal_eq_iff]
  | absent =>
    obtain ⟨items, rfl⟩ : ∃ items, val = .array items := hv.array_of_membership rfl
    cases h
    refine ⟨_, rfl, ?_⟩
    show (((items.map literal).any fun t => t == stored) != true) = true ↔ ∀ s ∈ items, _
    simp [literal_eq_iff]
  | eq =>
    obtain ⟨s, rfl⟩ : ∃ s, val = .single s := hv.single_of_comparison rfl rfl
    cases h
    refine ⟨_, rfl, ?_⟩
    show ((stored == literal s) != false) = true ↔ s.rendered = stored.toList
    rw [← literal_eq_iff]
    simpa using eq_comm
  | neq =>
    obtain ⟨s, rfl⟩ : ∃ s, val = .single s := hv.single_of_comparison rfl rfl
    cases h
    refine ⟨_, rfl, ?_⟩
    show ((stored == literal s) != true) = true ↔ s.rendered ≠ stored.toList
    rw [Ne, ← literal_eq_iff]
    simpa using not_congr eq_comm
  | gt => cases ho
  | lt => cases ho
  | gte => cases ho
  | lte => cases ho
  | and => cases h
  | or => cases h
  | not => cases h

/-- A test of a stored value fails where the value cannot be read, and says otherwise what the
condition means. -/
theorem evaluate_of_make (hv : c.Valid) (h : make key c.operator c.value = .ok test)
    (stored : String) :
    (c.Unreadable stored ∧ test.evaluate stored = .error (.numericParse stored)) ∨
      (¬c.Unreadable stored ∧ Answers (test.evaluate stored) (c.HoldsOfText stored)) := by
  cases ho : c.operator.isOrdering with
  | false =>
    refine .inr ⟨fun hu => ?_, evaluate_of_not_ordering hv ho h stored⟩
    rw [hu.1] at ho
    cases ho
  | true =>
    cases hn : Number.read? stored.toList with
    | none =>
      obtain ⟨hk, hm⟩ := Operator.comparison_of_isOrdering ho
      obtain ⟨s, hval⟩ := hv.single_of_comparison hk hm
      obtain ⟨bound, -, rfl⟩ := order_of_make ho hval h
      exact .inl ⟨⟨ho, hn⟩, by simp only [evaluate, hn]⟩
    | some n =>
      refine .inr ⟨fun hu => ?_, evaluate_of_ordering hv ho h hn⟩
      rw [hu.2] at hn
      cases hn

theorem searches_of_make (hv : c.Valid) (h : make key c.operator c.value = .ok test)
    (vs : List String) : c.Searches vs (untilDecided true (vs.map test.evaluate)) := by
  induction vs with
  | nil => exact .nil
  | cons v vs ih =>
    rw [List.map_cons]
    rcases evaluate_of_make hv h v with ⟨hu, he⟩ | ⟨hr, b, hb, hp⟩
    · rw [he]
      exact .unreadable hu
    · rw [hb, untilDecided]
      split
      · rename_i ht
        exact .found hr (hp.mp ht)
      · rename_i ht
        exact .next hr (fun hh => ht (hp.mpr hh)) ih

end AttributeTest

/-! ## Attributes of an entity -/

/-- The values stored under a key, link after link. -/
def EntityType.valuesOf {α : Type} (t : EntityType α) (a : α) (key : String) : List String :=
  ((t.links a).flatten.filter fun s => s.key = key).map StoredAttribute.value

namespace EntityTest

variable {key : String} {test : AttributeTest}

def answers (key : String) (test : AttributeTest) (as : List StoredAttribute) :
    List (Except RuleError Bool) :=
  ((as.filter fun s => s.key = key).map StoredAttribute.value).map test.evaluate

theorem anyAttribute_eq (as : List StoredAttribute) :
    anyAttribute key test as = untilDecided true (answers key test as) := by
  induction as with
  | nil => rfl
  | cons a as ih =>
    rw [anyAttribute, answers, List.filter_cons]
    split
    · rename_i hk
      rw [if_pos (by simpa using hk), List.map_cons, List.map_cons, untilDecided.eq_def]
      cases test.evaluate a.value with
      | error e => rfl
      | ok b =>
        cases b with
        | false => exact ih
        | true => rfl
    · rename_i hk
      rw [if_neg (by simpa using hk)]
      exact ih

theorem anyLink_eq (links : List (List StoredAttribute)) :
    anyLink key test links = untilDecided true (answers key test links.flatten) := by
  induction links with
  | nil => rfl
  | cons link links ih =>
    have happend : answers key test (link ++ links.flatten) =
        answers key test link ++ answers key test links.flatten := by
      simp only [answers, List.filter_append, List.map_append]
    rw [anyLink, List.flatten_cons, happend, untilDecided_append, ← anyAttribute_eq]
    cases anyAttribute key test link with
    | error e => rfl
    | ok b =>
      cases b with
      | false => exact ih
      | true => rfl

end EntityTest

/-! ## Conditions on records -/

namespace Flat

def HoldsFor {α : Type} (t : RecordType α) (a : α) (c : Condition) : Prop :=
  c.HoldsOf (t.read a c.field)

end Flat

namespace Entities

variable {α : Type} {conventions : Conventions} {t : EntityType α} {a : α} {c : Condition}
  {out out' : Except RuleError Bool}

/-- A condition holds of an entity by one of its attributes or by a field of its own. -/
def HoldsFor (conventions : Conventions) (t : EntityType α) (a : α) (c : Condition) : Prop :=
  AlongRoute conventions.attributeLead c.field
    (fun key => ∃ v ∈ t.valuesOf a key, c.HoldsOfText v) (Flat.HoldsFor t.toRecordType a c)

/-- What a condition gives on an entity. Only a search among its attributes may fail. -/
def Gives (conventions : Conventions) (t : EntityType α) (a : α) (c : Condition)
    (out : Except RuleError Bool) : Prop :=
  AlongRoute conventions.attributeLead c.field (fun key => c.Searches (t.valuesOf a key) out)
    (Answers out (Flat.HoldsFor t.toRecordType a c))

theorem Gives.unique (h : Gives conventions t a c out) (h' : Gives conventions t a c out') :
    out = out' := by
  rcases h with ⟨key, route, search⟩ | ⟨unrouted, answer⟩
  · exact search.unique ((alongRoute_of_routed route).mp h')
  · exact answer.unique ((alongRoute_of_unrouted unrouted).mp h')

theorem Gives.agrees (h : Gives conventions t a c out) :
    Agrees out (HoldsFor conventions t a c) := by
  rcases h with ⟨key, route, search⟩ | ⟨unrouted, answer⟩
  · rw [HoldsFor, alongRoute_of_routed route]
    exact search.agrees
  · rw [HoldsFor, alongRoute_of_unrouted unrouted]
    exact answer.agrees

theorem gives_of_leaf (hv : c.Valid) {test : EntityTest} (h : leaf conventions t c = .ok test)
    (a : α) : Gives conventions t a c (test.evaluate t a) := by
  obtain ⟨key, hr⟩ | hr := routed_or_unrouted conventions.attributeLead c.field
  · rw [leaf_of_routed hr, linkedLeaf_eq] at h
    rw [Gives, alongRoute_of_routed hr]
    split at h
    · cases h
    · obtain ⟨attributeTest, hmake, rfl⟩ := exists_of_map_eq_ok h
      rw [EntityTest.evaluate, EntityTest.anyLink_eq]
      exact AttributeTest.searches_of_make hv hmake _
  · rw [leaf_of_unrouted hr] at h
    rw [Gives, alongRoute_of_unrouted hr]
    obtain ⟨f, hf, rfl⟩ := exists_of_map_eq_ok h
    exact fieldTest_answers hv hf a

end Entities

namespace Owned

variable {α β : Type} {conventions : Conventions} {t : AttributeType α β} {a : α} {c : Condition}

/-- A condition holds of an attribute by a field of its owner, if it has one, or by a field of its
own. -/
def HoldsFor (conventions : Conventions) (t : AttributeType α β) (a : α) (c : Condition) : Prop :=
  AlongRoute conventions.ownerLead c.field
    (fun name => ∃ owner, t.owner a = some owner ∧ c.HoldsOf (t.ownerType.read owner name))
    (Flat.HoldsFor t.toRecordType a c)

def Gives (conventions : Conventions) (t : AttributeType α β) (a : α) (c : Condition)
    (out : Except RuleError Bool) : Prop :=
  Answers out (HoldsFor conventions t a c)

theorem gives_of_leaf (hv : c.Valid) {test : OwnedTest} (h : leaf conventions t c = .ok test)
    (a : α) : Gives conventions t a c (test.evaluate t a) := by
  obtain ⟨name, hr⟩ | hr := routed_or_unrouted conventions.ownerLead c.field
  · rw [leaf_of_routed hr, ownerLeaf_eq] at h
    rw [Gives, HoldsFor, alongRoute_of_routed hr]
    split at h
    · cases h
    · obtain ⟨f, hf, rfl⟩ := exists_of_map_eq_ok h
      rw [OwnedTest.evaluate]
      cases t.owner a with
      | none => exact ⟨false, rfl, by simp⟩
      | some owner => simpa using fieldTest_answers hv hf owner
  · rw [leaf_of_unrouted hr] at h
    rw [Gives, HoldsFor, alongRoute_of_unrouted hr]
    obtain ⟨f, hf, rfl⟩ := exists_of_map_eq_ok h
    exact fieldTest_answers hv hf a

end Owned

/-! ## Rules on records -/

namespace Target

variable {α L : Type} {T : Target α L} {r : Rule} {p : Predicate α}

theorem evaluate_answers (hv : r.Valid) (h : T.compile r = .ok p) {a : α} {holds : Condition → Prop}
    (hleaf : ∀ c : Condition, c.Valid → ∀ l, T.leaf c = .ok l → Answers (T.holds a l) (holds c)) :
    Answers (p.evaluate a) (r.Holds holds) := by
  obtain ⟨haccepted, rfl⟩ := T.of_compile_eq_ok hv h
  refine Rule.outcome_answers hv fun d hd c hc => ?_
  obtain ⟨l, hl⟩ := (haccepted d hd).1 c hc
  rw [T.value_of_leaf hl]
  exact hleaf c ((Rule.valid_iff.mp hv d hd).2 c hc) l hl

theorem evaluate_readAs (hv : r.Valid) (h : T.compile r = .ok p) {a : α}
    {gives : Condition → Except RuleError Bool → Prop}
    (hunique : ∀ c out out', gives c out → gives c out' → out = out')
    (hleaf : ∀ c : Condition, c.Valid → ∀ l, T.leaf c = .ok l → gives c (T.holds a l)) :
    r.ReadAs gives (p.evaluate a) := by
  obtain ⟨haccepted, rfl⟩ := T.of_compile_eq_ok hv h
  refine Rule.readAs_outcome hv (fun d hd => (haccepted d hd).2) hunique fun d hd c hc => ?_
  obtain ⟨l, hl⟩ := (haccepted d hd).1 c hc
  rw [T.value_of_leaf hl]
  exact hleaf c ((Rule.valid_iff.mp hv d hd).2 c hc) l hl

end Target

section Rules

variable {α β : Type} {conventions : Conventions} {r : Rule} {p : Predicate α}

theorem Flat.evaluate_answers {t : RecordType α} (hv : r.Valid) (h : Flat.compile t r = .ok p)
    (a : α) : Answers (p.evaluate a) (r.Holds (HoldsFor t a)) := by
  rw [compile_eq_target] at h
  exact Target.evaluate_answers hv h fun c hc l hl => fieldTest_answers hc hl a

theorem Entities.evaluate_readAs {t : EntityType α} (hv : r.Valid)
    (h : Entities.compile conventions t r = .ok p) (a : α) :
    r.ReadAs (Gives conventions t a) (p.evaluate a) := by
  rw [compile_eq_target] at h
  exact Target.evaluate_readAs hv h (fun c out out' => Gives.unique)
    fun c hc l hl => gives_of_leaf hc hl a

theorem Owned.evaluate_answers {t : AttributeType α β} (hv : r.Valid)
    (h : Owned.compile conventions t r = .ok p) (a : α) :
    Answers (p.evaluate a) (r.Holds (HoldsFor conventions t a)) := by
  rw [compile_eq_target] at h
  exact Target.evaluate_answers hv h fun c hc l hl => gives_of_leaf hc hl a

theorem Owned.evaluate_readAs {t : AttributeType α β} (hv : r.Valid)
    (h : Owned.compile conventions t r = .ok p) (a : α) :
    r.ReadAs (Gives conventions t a) (p.evaluate a) := by
  rw [compile_eq_target] at h
  exact Target.evaluate_readAs hv h (fun c out out' => Answers.unique)
    fun c hc l hl => gives_of_leaf hc hl a

end Rules

/-- **What a compiled rule means.** On records and their fields the predicate always answers, and
says whether the rule holds; no condition holds of a missing value. Where conditions can fail, the
predicate comes to what the rule comes to when it is read from left to right. -/
theorem compiled_means {r : Rule} (hv : r.Valid) :
    (∀ {α : Type} (t : RecordType α) (p : Predicate α), Flat.compile t r = .ok p →
      ∀ a, Answers (p.evaluate a) (r.Holds (Flat.HoldsFor t a)) ∧
        ∀ c : Condition, t.read a c.field = .none → ¬Flat.HoldsFor t a c) ∧
    (∀ {α : Type} (conventions : Conventions) (t : EntityType α) (p : Predicate α),
      Entities.compile conventions t r = .ok p →
      ∀ a, r.ReadAs (Entities.Gives conventions t a) (p.evaluate a)) ∧
    (∀ {α β : Type} (conventions : Conventions) (t : AttributeType α β) (p : Predicate α),
      Owned.compile conventions t r = .ok p →
      ∀ a, r.ReadAs (Owned.Gives conventions t a) (p.evaluate a)) := by
  refine ⟨fun t p h a => ⟨Flat.evaluate_answers hv h a, fun c hnone => ?_⟩,
    fun conventions t p h => Entities.evaluate_readAs hv h,
    fun conventions t p h => Owned.evaluate_readAs hv h⟩
  rw [Flat.HoldsFor, hnone]
  exact c.not_holdsOf_none

/-- Two searches, and behind them a negation. -/
def rankedRule : Rule :=
  .node .or [⟨"employee.city", .like, .pattern "slo"⟩,
      ⟨"metadata.level", .gt, .single (.number (.signed 5))⟩]
    [.node .not [⟨"age", .absent, .array [.number (.signed 41), .number (.signed 42)]⟩] []]

def ranked : RecordType Row :=
  Row.type "ranked" [⟨"age", .number⟩, ⟨"metadata.level", .number⟩, ⟨"employee.city", .text⟩]

def rankedEntities : EntityType Row :=
  { ranked with
    links := fun _ => [[⟨"rank", "9"⟩, ⟨"level", "4"⟩], [⟨"level", "high"⟩, ⟨"level", "6"⟩]] }

def rankedAttributes : AttributeType Row Row :=
  { ranked with
    ownerType := Row.type "owner" [⟨"city", .text⟩]
    link := fun _ => some ⟨some [("city", .text "Oslo")]⟩ }

/-- A number where the schema has a text, no level, and an age that is listed. -/
def rankedRow : Row :=
  [("employee.city", .number (.signed 7)), ("age", .number (.signed 42))]

theorem compiled_means_rankedRule :
    rankedRule.Valid ∧
      (∃ p, Flat.compile ranked rankedRule = .ok p ∧
        rankedRule.Holds (Flat.HoldsFor ranked rankedRow)) ∧
      (∃ p, Entities.compile .standard rankedEntities rankedRule = .ok p ∧
        rankedRule.ReadAs (Entities.Gives .standard rankedEntities rankedRow)
          (.error (.numericParse "high"))) ∧
      (∃ p, Owned.compile .standard rankedAttributes rankedRule = .ok p ∧
        rankedRule.ReadAs (Owned.Gives .standard rankedAttributes rankedRow) (.ok true)) := by
  have hv : rankedRule.Valid := by decide
  refine ⟨hv, ⟨_, rfl, ?_⟩, ⟨_, rfl, ?_⟩, ⟨_, rfl, ?_⟩⟩
  · obtain ⟨⟨b, hb, hholds⟩, -⟩ := (compiled_means hv).1 ranked _ rfl rankedRow
    cases hb
    exact hholds.mp rfl
  · exact (compiled_means hv).2.1 .standard rankedEntities _ rfl rankedRow
  · exact (compiled_means hv).2.2 .standard rankedAttributes _ rfl rankedRow

end RecordRules
