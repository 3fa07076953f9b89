import RecordRules.Text.Lower

/-!
# RecordRules.Proofs.Text.Lower

Lower-casing of a part of a text. The small form of a character depends on what stands around it
only for the capital sigma, so a part that is lower-cased where it stands differs from the part
lower-cased alone exactly where one of its capital sigmas changes form (`lowerIn_eq_iff`).

A part of a text is therefore found again after both are lower-cased, unless every occurrence of it
changes the form of a capital sigma (`infix_lower_or_reshaped`). A part without capital sigmas, or
one that stands as a whole word, never does (`sameForms_of_not_mem`, `sameForms_of_uncased`).
-/

namespace RecordRules
namespace Text

/-- What stands around a part of a text: the characters before it, nearest first, and the characters
after it. -/
structure Setting where
  before : List Char
  after : List Char

namespace Setting

def alone : Setting :=
  ⟨[], []⟩

/-- A capital sigma in this setting ends a word, and takes the final form. -/
def endsWord (s : Setting) : Bool :=
  startsCased s.before && !startsCased s.after

/-- The setting of what stands between two parts of a part. -/
def inner (s : Setting) (before after : List Char) : Setting :=
  ⟨before.reverse ++ s.before, after ++ s.after⟩

theorem inner_cons (s : Setting) (c : Char) (before after : List Char) :
    s.inner (c :: before) after = Setting.inner ⟨c :: s.before, s.after⟩ before after := by
  simp [inner]

end Setting

/-- The small forms of a part of a text in its setting. -/
def lowerIn (s : Setting) : List Char → List Char
  | [] => []
  | c :: cs => lowerAt s.before c (cs ++ s.after) ++ lowerIn ⟨c :: s.before, s.after⟩ cs

/-- No capital sigma of the part ends a word in one setting only. -/
def SameForms (cs : List Char) (s s' : Setting) : Prop :=
  ∀ before after, cs = before ++ capitalSigma :: after →
    (s.inner before after).endsWord = (s'.inner before after).endsWord

/-- Wherever the part stands in the text, some capital sigma of it has another form there than in
the part alone. -/
def ReshapedIn (part text : List Char) : Prop :=
  ∀ before after, text = before ++ (part ++ after) →
    ¬SameForms part ⟨before.reverse, after⟩ .alone

section Characters

variable {before before' after after' : List Char} {c : Char}

theorem lowerAt_capitalSigma (before after : List Char) :
    lowerAt before capitalSigma after =
      [if Setting.endsWord ⟨before, after⟩ then finalSigma else smallSigma] := by
  rw [lowerAt, if_neg (by decide), if_pos rfl]
  rfl

theorem lowerAt_of_ne (hc : c ≠ capitalSigma) : lowerAt before c after = lowerAt before' c after' := by
  rw [lowerAt, lowerAt, if_neg hc, if_neg hc]

theorem lowerAt_eq_iff :
    lowerAt before c after = lowerAt before' c after' ↔
      (c = capitalSigma →
        Setting.endsWord ⟨before, after⟩ = Setting.endsWord ⟨before', after'⟩) := by
  by_cases hc : c = capitalSigma
  · subst hc
    have hforms : finalSigma ≠ smallSigma := by decide
    rw [lowerAt_capitalSigma, lowerAt_capitalSigma]
    cases Setting.endsWord ⟨before, after⟩ <;> cases Setting.endsWord ⟨before', after'⟩ <;>
      simp [hforms, hforms.symm]
  · exact iff_of_true (lowerAt_of_ne hc) fun h => absurd h hc

theorem length_lowerAt :
    (lowerAt before c after).length = (lowerAt before' c after').length := by
  by_cases hc : c = capitalSigma
  · rw [hc, lowerAt_capitalSigma, lowerAt_capitalSigma]
    rfl
  · rw [lowerAt_of_ne hc]

end Characters

section Parts

variable {s s' : Setting} {c : Char} {cs part text before after : List Char}

theorem sameForms_nil : SameForms [] s s' := by
  intro before after h
  cases before with
  | nil => cases h
  | cons c before => cases h

theorem sameForms_cons :
    SameForms (c :: cs) s s' ↔
      (c = capitalSigma →
        Setting.endsWord ⟨s.before, cs ++ s.after⟩ =
          Setting.endsWord ⟨s'.before, cs ++ s'.after⟩) ∧
      SameForms cs ⟨c :: s.before, s.after⟩ ⟨c :: s'.before, s'.after⟩ := by
  constructor
  · intro h
    constructor
    · intro hc
      exact h [] cs (by rw [hc, List.nil_append])
    · intro before after he
      have hcons := h (c :: before) after (by rw [he, List.cons_append])
      rwa [Setting.inner_cons, Setting.inner_cons] at hcons
  · rintro ⟨hhead, htail⟩ before after he
    cases before with
    | nil =>
      obtain ⟨hc, rfl⟩ := List.cons.inj he
      exact hhead hc
    | cons d before =>
      obtain ⟨rfl, rfl⟩ := List.cons.inj he
      rw [Setting.inner_cons, Setting.inner_cons]
      exact htail before after rfl

/-- A part has the same small forms in two settings exactly if its capital sigmas have. -/
theorem lowerIn_eq_iff : lowerIn s cs = lowerIn s' cs ↔ SameForms cs s s' := by
  induction cs generalizing s s' with
  | nil => exact iff_of_true rfl sameForms_nil
  | cons c cs ih =>
    rw [sameForms_cons, ← lowerAt_eq_iff, ← ih, lowerIn, lowerIn]
    constructor
    · intro h
      exact List.append_inj h length_lowerAt
    · rintro ⟨hhead, htail⟩
      rw [hhead, htail]

theorem lowerFrom_append (before cs after : List Char) :
    lowerFrom before (cs ++ after) =
      lowerIn ⟨before, after⟩ cs ++ lowerFrom (cs.reverse ++ before) after := by
  induction cs generalizing before with
  | nil => rfl
  | cons c cs ih =>
    rw [List.cons_append, lowerFrom, ih, lowerIn, List.append_assoc]
    simp

theorem lowerIn_alone (cs : List Char) : lowerIn .alone cs = lower cs := by
  have h := lowerFrom_append [] cs []
  rw [List.append_nil, lowerFrom, List.append_nil] at h
  exact h.symm

/-- A part that keeps its forms where it stands is found again. -/
theorem infix_lower (h : SameForms part ⟨before.reverse, after⟩ .alone) :
    lower part <:+: lower (before ++ (part ++ after)) := by
  refine ⟨lowerIn ⟨[], part ++ after⟩ before,
    lowerFrom (part.reverse ++ before.reverse) after, ?_⟩
  rw [← lowerIn_alone part, ← lowerIn_eq_iff.mpr h, lower, lowerFrom_append, lowerFrom_append,
    List.append_nil, List.append_assoc]

theorem infix_lower_or_reshaped (h : part <:+: text) :
    lower part <:+: lower text ∨ ReshapedIn part text := by
  by_cases hr : ReshapedIn part text
  · exact .inr hr
  · obtain ⟨before, after, rfl, hforms⟩ :
        ∃ before after, text = before ++ (part ++ after) ∧
          SameForms part ⟨before.reverse, after⟩ .alone := by
      simpa [ReshapedIn] using hr
    exact .inl (infix_lower hforms)

/-! ## Parts that keep their forms -/

theorem sameForms_of_not_mem (h : capitalSigma ∉ part) : SameForms part s s' := by
  rintro before after rfl
  exact absurd (by simp) h

theorem startsCased_append (cs ds : List Char) :
    startsCased (cs ++ ds) =
      if cs.all isCaseIgnorable then startsCased ds else startsCased cs := by
  induction cs with
  | nil => simp
  | cons c cs ih =>
    cases hc : isCaseIgnorable c with
    | true => simpa [startsCased, List.dropWhile_cons, hc] using ih
    | false => simp [startsCased, hc]

theorem startsCased_of_all (h : cs.all isCaseIgnorable = true) : startsCased cs = false := by
  have happend := startsCased_append cs []
  rwa [List.append_nil, if_pos h] at happend

theorem startsCased_append_of_uncased (h : startsCased after = false) :
    startsCased (cs ++ after) = startsCased cs := by
  rw [startsCased_append]
  split
  · rename_i hall
    rw [h, startsCased_of_all hall]
  · rfl

/-- A part between characters without case, which a whole word is, keeps its forms. -/
theorem sameForms_of_uncased (hbefore : startsCased s.before = false)
    (hafter : startsCased s.after = false) : SameForms part s .alone := by
  intro before after _
  rw [Setting.endsWord, Setting.endsWord, Setting.inner, Setting.inner,
    startsCased_append_of_uncased hbefore, startsCased_append_of_uncased hafter]
  simp [Setting.alone]

end Parts

end Text
end RecordRules
