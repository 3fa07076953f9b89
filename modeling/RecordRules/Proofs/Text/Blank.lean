import RecordRules.Text.Blank

/-!
# RecordRules.Proofs.Text.Blank

Laws of trimming. A text is its trimmed text between two blank texts (`exists_trim`); blank
characters at either end make no difference to it (`trim_blank_append`, `trim_append_blank`), and
a text whose ends are not blank is left as it is (`trim_eq_self`), so that a text without blank
characters is found between blank ones (`trim_between_blank`).
-/

namespace RecordRules
namespace Text

theorem allBlank_iff {cs : List Char} : allBlank cs = true ↔ ∀ c ∈ cs, isBlank c = true :=
  List.all_eq_true

theorem trimStart_blank_append {w : List Char} (h : allBlank w = true) (cs : List Char) :
    trimStart (w ++ cs) = trimStart cs := by
  induction w with
  | nil => rfl
  | cons c w ih =>
    simp only [allBlank, List.all_cons, Bool.and_eq_true] at h
    rw [List.cons_append, trimStart, List.dropWhile_cons, if_pos h.1]
    exact ih h.2

theorem trimEnd_append_blank {w : List Char} (h : allBlank w = true) (cs : List Char) :
    trimEnd (cs ++ w) = trimEnd cs := by
  have hr : allBlank w.reverse = true := by rw [allBlank, List.all_reverse]; exact h
  rw [trimEnd, List.reverse_append]
  exact congrArg List.reverse (trimStart_blank_append hr cs.reverse)

theorem exists_trimStart (cs : List Char) : ∃ w, allBlank w = true ∧ cs = w ++ trimStart cs :=
  ⟨cs.takeWhile isBlank, List.all_takeWhile, List.takeWhile_append_dropWhile.symm⟩

theorem exists_trimEnd (cs : List Char) : ∃ w, allBlank w = true ∧ cs = trimEnd cs ++ w := by
  obtain ⟨w, hw, e⟩ := exists_trimStart cs.reverse
  refine ⟨w.reverse, by rw [allBlank, List.all_reverse]; exact hw, ?_⟩
  have h := congrArg List.reverse e
  rw [List.reverse_reverse, List.reverse_append] at h
  exact h

/-- A text is its trimmed text between two blank texts. -/
theorem exists_trim (cs : List Char) :
    ∃ w w', allBlank w = true ∧ allBlank w' = true ∧ cs = w ++ (trim cs ++ w') := by
  obtain ⟨w, hw, e⟩ := exists_trimStart cs
  obtain ⟨w', hw', e'⟩ := exists_trimEnd (trimStart cs)
  exact ⟨w, w', hw, hw', by rw [trim, ← e', ← e]⟩

/-- Nothing blank stands first in a text that was trimmed. -/
theorem isBlank_head_trimStart {cs rest : List Char} {c : Char} (h : trimStart cs = c :: rest) :
    isBlank c = false := by
  have hd := List.head?_dropWhile_not isBlank cs
  rw [show cs.dropWhile isBlank = c :: rest from h] at hd
  simpa using hd

theorem trimStart_eq_self {c : Char} {cs : List Char} (h : isBlank c = false) :
    trimStart (c :: cs) = c :: cs := by
  rw [trimStart, List.dropWhile_cons, if_neg (by rw [h]; exact Bool.false_ne_true)]

theorem trimEnd_eq_self {c : Char} (cs : List Char) (h : isBlank c = false) :
    trimEnd (cs ++ [c]) = cs ++ [c] := by
  rw [trimEnd, List.reverse_append]
  show (trimStart (c :: cs.reverse)).reverse = _
  rw [trimStart_eq_self h]
  simp

/-- Trimming leaves a text alone whose first and last characters are not blank. -/
theorem trim_eq_self {cs : List Char} {c d : Char} {rest before : List Char}
    (hc : cs = c :: rest) (hcb : isBlank c = false) (hd : cs = before ++ [d])
    (hdb : isBlank d = false) : trim cs = cs := by
  have hs : trimStart cs = cs := by rw [hc]; exact trimStart_eq_self hcb
  rw [trim, hs, hd]
  exact trimEnd_eq_self before hdb

theorem trim_blank_append {w : List Char} (h : allBlank w = true) (cs : List Char) :
    trim (w ++ cs) = trim cs := by
  rw [trim, trimStart_blank_append h, trim]

theorem trim_eq_nil_of_blank {cs : List Char} (h : allBlank cs = true) : trim cs = [] := by
  have e := trim_blank_append h []
  rw [List.append_nil] at e
  exact e

theorem trim_append_blank {w : List Char} (h : allBlank w = true) (cs : List Char) :
    trim (cs ++ w) = trim cs := by
  obtain ⟨v, hv, e⟩ := exists_trimStart cs
  cases hs : trimStart cs with
  | nil =>
    -- everything is blank, so the text ends where its last blanks begin
    rw [hs, List.append_nil] at e
    rw [e, trim_blank_append hv, trim_eq_nil_of_blank h, trim_eq_nil_of_blank hv]
  | cons c rest =>
    have hc : isBlank c = false := isBlank_head_trimStart hs
    have hw : trimStart (cs ++ w) = trimStart cs ++ w := by
      conv => lhs; rw [e, List.append_assoc, trimStart_blank_append hv, hs, List.cons_append]
      rw [trimStart_eq_self hc, hs, List.cons_append]
    rw [trim, hw, trimEnd_append_blank h, trim]

theorem trim_trim (cs : List Char) : trim (trim cs) = trim cs := by
  obtain ⟨w, w', hw, hw', e⟩ := exists_trim cs
  conv => rhs; rw [e, trim_blank_append hw, trim_append_blank hw']

/-- Trimming takes a text without blank characters out from between blank ones. -/
theorem trim_between_blank {before cs after : List Char} (hb : allBlank before = true)
    (ha : allBlank after = true) (h : ∀ c ∈ cs, isBlank c = false) :
    trim (before ++ (cs ++ after)) = cs := by
  rw [trim_blank_append hb, trim_append_blank ha]
  by_cases hcs : cs = []
  · rw [hcs]
    rfl
  · have hlast := List.dropLast_concat_getLast hcs
    obtain ⟨first, rest, hcons⟩ := List.exists_cons_of_ne_nil hcs
    refine trim_eq_self hcons (h first ?_) hlast.symm (h _ (List.getLast_mem hcs))
    rw [hcons]
    exact List.mem_cons_self

end Text
end RecordRules
