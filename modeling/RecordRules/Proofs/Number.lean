import RecordRules.Number
import RecordRules.Proofs.Text.Blank

/-!
# RecordRules.Proofs.Number

The characters of numbers. `text_figures` says which the text of a number is made of, whatever the
number; `read?_figures` says that a text that is read as a number is made of the same ones, blank
characters around it aside. None of them has a meaning in a stored rule.
-/

namespace RecordRules

namespace Number

/-- A digit, a sign, a point, the mark of an exponent, or a letter of the words for the values that
are not finite. -/
def isFigure (c : Char) : Bool :=
  Decimal.isDigit c || ['+', '-', '.', 'e', 'E', 'N', 'a', 'i', 'n', 'f'].contains c

end Number

namespace Decimal

open Number (isFigure)

theorem isFigure_of_isDigit {c : Char} (h : isDigit c = true) : isFigure c = true := by
  rw [isFigure, h, Bool.true_or]

theorem figures_of_digits {cs : List Char} (h : cs.all isDigit = true) :
    cs.all isFigure = true :=
  List.all_eq_true.mpr fun c hc => isFigure_of_isDigit (List.all_eq_true.mp h c hc)

/-! ## Writing -/

theorem natDigits_digits (n : Nat) : (natDigits n).all isDigit = true := by
  refine List.all_eq_true.mpr fun c hc => ?_
  have h := Nat.isDigit_of_mem_toDigits (by decide) (by decide) hc
  rw [Char.isDigit_iff_toNat] at h
  rw [isDigit, Bool.and_eq_true, decide_eq_true_eq, decide_eq_true_eq]
  exact h

theorem natDigits_ne_nil (n : Nat) : natDigits n ≠ [] :=
  Nat.toDigits_ne_nil

theorem intDigits_figures (n : Int) : (intDigits n).all isFigure = true := by
  have hd := figures_of_digits (natDigits_digits n.natAbs)
  rw [intDigits]
  split
  · rw [List.all_cons, hd]
    rfl
  · exact hd

theorem intDigits_ne_nil (n : Int) : intDigits n ≠ [] := by
  rw [intDigits]
  split
  · exact List.cons_ne_nil _ _
  · exact natDigits_ne_nil _

/-! ## Reading -/

theorem figures_of_splitSign {cs : List Char} (h : (splitSign cs).2.all isFigure = true) :
    cs.all isFigure = true := by
  rw [splitSign.eq_def] at h
  split at h
  · rw [List.all_cons, h]
    rfl
  · rw [List.all_cons, h]
    rfl
  · exact h

theorem digits_of_readNat? {cs : List Char} {n : Nat} (h : readNat? cs = some n) :
    cs.all isDigit = true := by
  rw [readNat?] at h
  split at h
  · cases h
  · rename_i hd
    simp only [Bool.or_eq_true, not_or, Bool.not_eq_true', Bool.not_eq_false] at hd
    exact hd.2

theorem readInt?_figures {cs : List Char} {n : Int} (h : readInt? cs = some n) :
    cs.all isFigure = true := by
  simp only [readInt?, Option.map_eq_some_iff] at h
  obtain ⟨m, hm, -⟩ := h
  exact figures_of_splitSign (figures_of_digits (digits_of_readNat? hm))

theorem readExponent?_figures {cs : List Char} {n : Int} (h : readExponent? cs = some n) :
    cs.all isFigure = true := by
  cases cs with
  | nil => rfl
  | cons c cs =>
    simp only [readExponent?] at h
    split at h
    · rename_i hc
      rw [Bool.or_eq_true, decide_eq_true_eq, decide_eq_true_eq] at hc
      rw [List.all_cons, readInt?_figures h]
      rcases hc with rfl | rfl <;> rfl
    · cases h

theorem figures_of_dropWhile {cs : List Char} (h : (cs.dropWhile isDigit).all isFigure = true) :
    cs.all isFigure = true := by
  rw [← List.takeWhile_append_dropWhile (p := isDigit) (l := cs), List.all_append, h,
    figures_of_digits List.all_takeWhile]
  rfl

theorem read?_figures {cs : List Char} {d : Decimal} (h : read? cs = some d) :
    cs.all isFigure = true := by
  refine figures_of_splitSign (figures_of_dropWhile ?_)
  simp only [read?] at h
  split at h
  · -- the exponent part is what is behind the fraction
    rename_i rest hw
    split at h
    · cases h
    · split at h
      · cases h
      · rename_i he
        rw [hw, List.all_cons, figures_of_dropWhile (readExponent?_figures he)]
        rfl
  · split at h
    · cases h
    · split at h
      · cases h
      · rename_i he
        exact readExponent?_figures he

end Decimal

namespace Binary64

open Number (isFigure)

theorem Layout.inPlace_figures (l : Layout) {digits : List Char} (point : Int)
    (h : digits.all isFigure = true) : (l.inPlace digits point).all isFigure = true := by
  have hzero : ∀ n, (List.replicate n '0').all isFigure = true := fun n =>
    List.all_eq_true.mpr fun c hc => by
      rw [List.eq_of_mem_replicate hc]
      rfl
  have hmem := List.all_eq_true.mp h
  rw [inPlace]
  split
  · rw [List.all_cons, List.all_cons, List.all_append, hzero, h]
    rfl
  · split
    · rw [List.all_append, List.all_append, h, hzero]
      split <;> rfl
    · have htake : (digits.take point.toNat).all isFigure = true :=
        List.all_eq_true.mpr fun c hc => hmem c (List.mem_of_mem_take hc)
      have hdrop : (digits.drop point.toNat).all isFigure = true :=
        List.all_eq_true.mpr fun c hc => hmem c (List.mem_of_mem_drop hc)
      rw [List.all_append, List.all_cons, htake, hdrop]
      rfl

theorem Layout.inPlace_ne_nil (l : Layout) (digits : List Char) (point : Int) :
    l.inPlace digits point ≠ [] := by
  intro he
  have hlen := congrArg List.length he
  rw [inPlace] at hlen
  split at hlen
  · simp at hlen
  · split at hlen
    · simp only [List.length_append, List.length_replicate, List.length_nil] at hlen
      omega
    · simp at hlen

end Binary64

namespace Number

theorem layout_finite (x : Binary64) :
    ∃ sign rest, layout.finite x = sign ++ rest ∧ sign.all isFigure = true ∧
      rest.all isFigure = true ∧ rest ≠ [] := by
  rw [Binary64.Layout.finite]
  have hsign : (if x.isNegative then ['-'] else []).all isFigure = true := by
    split <;> rfl
  split
  · exact ⟨_, _, rfl, hsign, rfl, List.cons_ne_nil _ _⟩
  · refine ⟨_, _, rfl, hsign, layout.inPlace_figures _ ?_, layout.inPlace_ne_nil _ _⟩
    -- trailing zeros aside, these are the digits of a natural number
    refine List.all_eq_true.mpr fun c hc => ?_
    have hm := (List.dropWhile_sublist _).subset (List.mem_reverse.mp hc)
    exact Decimal.isFigure_of_isDigit
      (List.all_eq_true.mp (Decimal.natDigits_digits _) c (List.mem_reverse.mp hm))

theorem text_figures (n : Number) : n.text.all isFigure = true := by
  cases n with
  | signed n => exact Decimal.intDigits_figures _
  | unsigned n => exact Decimal.figures_of_digits (Decimal.natDigits_digits _)
  | float x =>
    rw [text]
    split
    · rfl
    · split
      · obtain ⟨sign, rest, e, hs, hr, -⟩ := layout_finite x
        rw [e, List.all_append, hs, hr]
        rfl
      · split <;> rfl

theorem text_ne_nil (n : Number) : n.text ≠ [] := by
  cases n with
  | signed n => exact Decimal.intDigits_ne_nil _
  | unsigned n => exact Decimal.natDigits_ne_nil _
  | float x =>
    rw [text]
    split
    · exact List.cons_ne_nil _ _
    · split
      · obtain ⟨sign, rest, e, -, -, hne⟩ := layout_finite x
        rw [e]
        exact List.append_ne_nil_of_right_ne_nil _ hne
      · split <;> exact List.cons_ne_nil _ _

theorem read?_figures {cs : List Char} {n : Number} (h : read? cs = some n) :
    (Text.trim cs).all isFigure = true := by
  simp only [read?] at h
  split at h
  · rename_i m hm
    obtain ⟨i, hi, -⟩ := Option.bind_eq_some_iff.mp hm
    exact Decimal.readInt?_figures hi
  · obtain ⟨d, hd, -⟩ := Option.bind_eq_some_iff.mp h
    exact Decimal.read?_figures hd

/-- No text is read as an infinite value or as one that is no number. -/
theorem isFinite_of_read? {cs : List Char} {x : Binary64} (h : read? cs = some (.float x)) :
    x.isFinite = true := by
  simp only [read?] at h
  split at h
  · rename_i n hn
    -- an integer is kept as one
    obtain ⟨i, -, hi⟩ := Option.bind_eq_some_iff.mp hn
    rw [h, ofInt?] at hi
    split at hi
    · cases hi
    · split at hi <;> cases hi
  · obtain ⟨d, -, hd⟩ := Option.bind_eq_some_iff.mp h
    simp only [ofDecimal?] at hd
    split at hd
    · rename_i hf
      cases hd
      exact hf
    · cases hd

theorem not_mem_text {c : Char} (h : isFigure c = false) (n : Number) : c ∉ n.text := by
  intro hm
  rw [List.all_eq_true.mp n.text_figures c hm] at h
  cases h

theorem not_mem_of_read? {cs : List Char} {n : Number} (h : read? cs = some n) {c : Char}
    (hf : isFigure c = false) (hb : Text.isBlank c = false) : c ∉ cs := by
  obtain ⟨w, w', hw, hw', e⟩ := Text.exists_trim cs
  intro hm
  rw [e, List.mem_append, List.mem_append] at hm
  rcases hm with hm | hm | hm
  · rw [Text.allBlank_iff.mp hw c hm] at hb
    cases hb
  · rw [List.all_eq_true.mp (read?_figures h) c hm] at hf
    cases hf
  · rw [Text.allBlank_iff.mp hw' c hm] at hb
    cases hb

end Number
end RecordRules
