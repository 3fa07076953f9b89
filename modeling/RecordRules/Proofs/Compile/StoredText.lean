import RecordRules.Proofs.Compile.Typing

/-!
# RecordRules.Proofs.Compile.StoredText

A stored text against a field of a record. There are two families of tests, one on the texts of
attributes and one on the values of fields, and they are made of the same operators: the test on a
stored text is that on a text field which holds it, with every constant replaced by its text, and
under an order that on a number field whose content is read from it.
-/

namespace RecordRules

def Scalar.asText (s : Scalar) : Scalar :=
  .text (AttributeTest.literal s)

/-- What a number field holds where its content is stored as text. -/
def storedNumber (stored : String) : Except RuleError Value :=
  match Number.read? stored.toList with
  | some n => .ok (.number n)
  | none => .error (.numericParse stored)

/-! ## Tests -/

section Tests

variable {op : Operator} {stored : String}

theorem order?_text_eq_iff {a b : String} :
    (Value.text a).order? (.text b) = some .eq ↔ a = b := by
  rw [Value.order?, Option.some.injEq, Text.order_eq_iff, String.toList_inj]

theorem contains_evaluate (ignoreCase : Bool) (p : String) :
    (AttributeTest.contains ignoreCase p).evaluate stored =
      (ValueTest.contains ignoreCase p).evaluate (.ok (.text stored)) := rfl

theorem member_evaluate (negated : Bool) (items : List Scalar) :
    (AttributeTest.member negated (items.map AttributeTest.literal)).evaluate stored =
      (ValueTest.member negated (items.map Scalar.asText)).evaluate (.ok (.text stored)) := by
  have hitem : ∀ s : Scalar, (AttributeTest.literal s == stored) =
      ((Value.text stored).order? s.asText.toValue == some .eq) := by
    intro s
    rw [Bool.eq_iff_iff, beq_iff_eq, beq_iff_eq, Scalar.asText, Scalar.toValue,
      order?_text_eq_iff]
    exact eq_comm
  simp only [AttributeTest.evaluate, ValueTest.evaluate, ValueTest.holds, List.any_map,
    Function.comp_def, hitem]

theorem equals_evaluate (s : Scalar) (h : op = .eq ∨ op = .neq) :
    (AttributeTest.equals (op == .neq) (AttributeTest.literal s)).evaluate stored =
      (ValueTest.relation op s.asText).evaluate (.ok (.text stored)) := by
  have hsame : (stored == AttributeTest.literal s) =
      (Text.order stored.toList (AttributeTest.literal s).toList == .eq) := by
    rw [Bool.eq_iff_iff, beq_iff_eq, beq_iff_eq, Text.order_eq_iff, String.toList_inj]
  rw [AttributeTest.evaluate, hsame]
  rcases h with rfl | rfl
  · exact congrArg Except.ok (Bool.bne_false _)
  · exact congrArg Except.ok (Bool.bne_true _)

theorem order_evaluate (bound : Number) :
    (AttributeTest.order op bound).evaluate stored =
      (ValueTest.relation op (.number bound)).evaluate (storedNumber stored) := by
  simp only [AttributeTest.evaluate, storedNumber]
  cases Number.read? stored.toList with
  | none => rfl
  | some n =>
    simp only [ValueTest.evaluate, ValueTest.holds, Scalar.toValue, Value.order?]
    cases n.order? bound <;> rfl

end Tests

/-! ## Operators -/

section Operators

variable {op : Operator} {constant : Constant}

/-- Every operator but the orders compares the texts of values and constants. -/
theorem tests_of_not_ordering (hfits : constant.fits op = true) (ho : op.isOrdering = false)
    (key field : String) :
    ∃ test own, AttributeTest.make key op constant = .ok test ∧
      comparison field .text (constant.mapScalars Scalar.asText) op = .ok own ∧
      ∀ stored, test.evaluate stored = own.evaluate (.ok (.text stored)) := by
  cases constant with
  | pattern p =>
    have hk : op.kind = .text := by simpa [Constant.fits] using hfits
    refine ⟨.contains (op == .ilike) p, .contains (op == .ilike) p, ?_, ?_, fun stored => ?_⟩
    · cases op <;> first | rfl | cases hk
    · rw [Constant.mapScalars, comparison_of_pattern hk, if_pos rfl]
    · exact contains_evaluate _ p
  | array items =>
    have hm : op.isMembership = true := hfits
    have htypes : Comparison.checkTypes field .text (items.map Scalar.asText) = .ok () := by
      rw [Comparison.checkTypes_eq_ok_iff, List.forall_mem_map]
      intro s _
      rfl
    refine ⟨.member (op == .absent) (items.map AttributeTest.literal),
      .member (op == .absent) (items.map Scalar.asText), ?_, ?_, fun stored => ?_⟩
    · cases op <;> first | rfl | cases hm
    · rw [Constant.mapScalars, comparison_of_array (Operator.kind_of_isMembership hm) hm, htypes]
    · exact member_evaluate _ items
  | single s =>
    have hkm : op.kind = .comparison ∧ op.isMembership = false := by
      simpa [Constant.fits] using hfits
    have he := Operator.eq_or_neq hkm.1 hkm.2 ho
    have htypes : Comparison.checkTypes field .text [s.asText] = .ok () := by
      rw [Comparison.checkTypes_eq_ok_iff, List.forall_mem_singleton]
      rfl
    refine ⟨.equals (op == .neq) (AttributeTest.literal s), .relation op s.asText, ?_, ?_,
      fun stored => ?_⟩
    · rcases he with rfl | rfl
      · rfl
      · rfl
    · rw [Constant.mapScalars, comparison_of_single hkm.1 hkm.2, htypes, ho]
      rfl
    · exact equals_evaluate s he

/-- An order compares the numbers that values and constants are the texts of. -/
theorem tests_of_ordering (ho : op.isOrdering = true) (key field : String) {s : Scalar}
    {bound : Number} (hb : Number.read? s.rendered = some bound) :
    ∃ test own, AttributeTest.make key op (.single s) = .ok test ∧
      comparison field .number (.single (.number bound)) op = .ok own ∧
      ∀ stored, test.evaluate stored = own.evaluate (storedNumber stored) := by
  obtain ⟨hk, hm⟩ := Operator.comparison_of_isOrdering ho
  have htypes : Comparison.checkTypes field .number [.number bound] = .ok () := by
    rw [Comparison.checkTypes_eq_ok_iff, List.forall_mem_singleton]
    rfl
  refine ⟨.order op bound, .relation op (.number bound), ?_, ?_, fun stored => ?_⟩
  · rw [AttributeTest.make_of_ordering ho, hb]
  · rw [comparison_of_single hk hm, htypes, ho]
    rfl
  · exact order_evaluate bound

/-- **Both families of tests are made of the same operators.** Whatever constant stands beside an
operator, the test on a stored text gives what the test on a field gives: a text field with the
texts of the constants, or under an order a number field with the number of the constant. The order
fails where either is no number, and names the text. -/
theorem stored_compares_as_own (hfits : constant.fits op = true) (key field : String) :
    (op.isOrdering = false →
      ∃ test own, AttributeTest.make key op constant = .ok test ∧
        comparison field .text (constant.mapScalars Scalar.asText) op = .ok own ∧
        ∀ stored, test.evaluate stored = own.evaluate (.ok (.text stored))) ∧
    (op.isOrdering = true →
      ∃ s, constant = .single s ∧
        (Number.read? s.rendered = none →
          AttributeTest.make key op constant =
            .error (.numericParse (String.ofList s.rendered))) ∧
        ∀ bound, Number.read? s.rendered = some bound →
          ∃ test own, AttributeTest.make key op constant = .ok test ∧
            comparison field .number (.single (.number bound)) op = .ok own ∧
            ∀ stored, test.evaluate stored = own.evaluate (storedNumber stored)) := by
  refine ⟨fun ho => tests_of_not_ordering hfits ho key field, fun ho => ?_⟩
  obtain ⟨hk, hm⟩ := Operator.comparison_of_isOrdering ho
  obtain ⟨s, rfl⟩ : ∃ s, constant = .single s := by
    cases constant with
    | single s => exact ⟨s, rfl⟩
    | array items => rw [Constant.fits, hm] at hfits; cases hfits
    | pattern p => rw [Constant.fits, hk] at hfits; cases hfits
  refine ⟨s, rfl, fun hn => ?_, fun bound hb => tests_of_ordering ho key field hb⟩
  rw [AttributeTest.make_of_ordering ho, hn]

end Operators

/-- A list of a number, a truth value and a text, and a number that is given as text. -/
theorem stored_compares_as_own_mixed :
    (Constant.array [.number (.signed 5), .bool true, .text "x"]).fits .absent = true ∧
      (∃ test own,
        AttributeTest.make "level" .absent
          (.array [.number (.signed 5), .bool true, .text "x"]) = .ok test ∧
        comparison "level" .text (.array [.text "5", .text "true", .text "x"]) .absent = .ok own ∧
        ∀ stored, test.evaluate stored = own.evaluate (.ok (.text stored))) ∧
      (Constant.single (.text " 5 ")).fits .gte = true ∧
      (∃ test own,
        AttributeTest.make "level" .gte (.single (.text " 5 ")) = .ok test ∧
        comparison "level" .number (.single (.number (.signed 5))) .gte = .ok own ∧
        ∀ stored, test.evaluate stored = own.evaluate (storedNumber stored)) ∧
      (Constant.single (.bool true)).fits .lt = true ∧
      AttributeTest.make "level" .lt (.single (.bool true)) = .error (.numericParse "true") := by
  have hlist :
      (Constant.array [.number (.signed 5), .bool true, .text "x"]).fits .absent = true := by
    decide
  have hspaced : (Constant.single (.text " 5 ")).fits .gte = true := by decide
  have htruth : (Constant.single (.bool true)).fits .lt = true := by decide
  refine ⟨hlist, (stored_compares_as_own hlist "level" "level").1 rfl, hspaced, ?_, htruth, ?_⟩
  · obtain ⟨s, hs, -, hnumber⟩ := (stored_compares_as_own hspaced "level" "level").2 rfl
    cases hs
    exact hnumber _ rfl
  · obtain ⟨s, hs, hnone, -⟩ := (stored_compares_as_own htruth "level" "level").2 rfl
    cases hs
    exact hnone rfl

end RecordRules
