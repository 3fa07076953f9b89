import RecordRules.Compile.AttributeTest
import RecordRules.Proofs.Compile.Meaning
import RecordRules.Proofs.Text.Lower

/-!
# RecordRules.Proofs.Compile.IgnoringCase

Searches that ignore case beside searches that do not. Text and pattern are lower-cased apart from
each other, and the form of a capital sigma depends on the letters around it. So a search that
ignores case finds what the exact search finds, but for patterns with a capital sigma that is not
reshaped as the text's is (`found_ignoring_case`, `lost_ignoring_case`). Nothing is lost of a
pattern without capital sigmas, nor of one that stands between characters without case
(`containsText_ignoring_case_of_not_mem`, `containsText_ignoring_case_of_uncased`).
-/

namespace RecordRules

section Searches

variable {pattern text : List Char}

theorem containsText_ignoring_case (h : containsText false pattern text = true) :
    containsText true pattern text = true ∨ Text.ReshapedIn pattern text := by
  rw [containsText_false_iff] at h
  rw [containsText_true_iff]
  exact Text.infix_lower_or_reshaped h

theorem containsText_ignoring_case_of_not_mem (hp : Text.capitalSigma ∉ pattern)
    (h : containsText false pattern text = true) : containsText true pattern text = true := by
  rw [containsText_false_iff] at h
  obtain ⟨before, after, rfl⟩ := h
  rw [containsText_true_iff, List.append_assoc]
  exact Text.infix_lower (Text.sameForms_of_not_mem hp)

theorem containsText_ignoring_case_of_uncased {before after : List Char}
    (hbefore : Text.startsCased before.reverse = false) (hafter : Text.startsCased after = false) :
    containsText true pattern (before ++ (pattern ++ after)) = true :=
  containsText_true_iff.mpr (Text.infix_lower (Text.sameForms_of_uncased hbefore hafter))

end Searches

/-- **What searches find ignoring case.** A pattern that is found in a field's text, or in a value
that is stored as text, is found there ignoring case as well, unless at every place where it stands
one of its capital sigmas has another small form than in the pattern alone. -/
theorem found_ignoring_case (field key p s : String) :
    ∃ exact folded : ValueTest, ∃ exactStored foldedStored : AttributeTest,
      comparison field .text (.pattern p) .like = .ok exact ∧
      comparison field .text (.pattern p) .ilike = .ok folded ∧
      AttributeTest.make key .like (.pattern p) = .ok exactStored ∧
      AttributeTest.make key .ilike (.pattern p) = .ok foldedStored ∧
      (exact.holds (.text s) = true →
        folded.holds (.text s) = true ∨ Text.ReshapedIn p.toList s.toList) ∧
      (exactStored.evaluate s = .ok true →
        foldedStored.evaluate s = .ok true ∨ Text.ReshapedIn p.toList s.toList) := by
  refine ⟨.contains false p, .contains true p, .contains false p, .contains true p, rfl, rfl, rfl,
    rfl, containsText_ignoring_case, fun h => ?_⟩
  rcases containsText_ignoring_case (Except.ok.inj h) with hfound | hreshaped
  · exact .inl (congrArg Except.ok hfound)
  · exact .inr hreshaped

/-- The sigma that ends the pattern is followed by a letter in the text, where it does not end the
word. -/
theorem lost_ignoring_case :
    ∃ exact folded : ValueTest, ∃ exactStored foldedStored : AttributeTest,
      comparison "title" .text (.pattern "ΚΩΣ") .like = .ok exact ∧
      comparison "title" .text (.pattern "ΚΩΣ") .ilike = .ok folded ∧
      AttributeTest.make "title" .like (.pattern "ΚΩΣ") = .ok exactStored ∧
      AttributeTest.make "title" .ilike (.pattern "ΚΩΣ") = .ok foldedStored ∧
      exact.holds (.text "ΚΩΣΤΑΣ") = true ∧ folded.holds (.text "ΚΩΣΤΑΣ") = false ∧
      exactStored.evaluate "ΚΩΣΤΑΣ" = .ok true ∧ foldedStored.evaluate "ΚΩΣΤΑΣ" = .ok false := by
  have hexact : containsText false "ΚΩΣ".toList "ΚΩΣΤΑΣ".toList = true := by decide +kernel
  have hfolded : containsText true "ΚΩΣ".toList "ΚΩΣΤΑΣ".toList = false := by decide +kernel
  exact ⟨.contains false "ΚΩΣ", .contains true "ΚΩΣ", .contains false "ΚΩΣ", .contains true "ΚΩΣ",
    rfl, rfl, rfl, rfl, hexact, hfolded, congrArg Except.ok hexact, congrArg Except.ok hfolded⟩

end RecordRules
