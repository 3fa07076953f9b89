import RecordRules.Declaration.Grammar
import RecordRules.Proofs.Text.Search
import Mathlib.Data.List.TakeWhile

/-!
# RecordRules.Proofs.Declaration.Identifier

Which texts are read as one name. A plain identifier is read as it is written
(`identifier?_of_isIdentifier`), and what is read from a text that cannot hold a raw name is a plain
identifier, whatever blanks and comments stand around it (`isIdentifier_of_identifier?`).
-/

namespace RecordRules

namespace Text

theorem inRanges_eq_true_iff {ranges : List (Nat × Nat)} {c : Char} :
    inRanges ranges c = true ↔ ∃ r ∈ ranges, r.1 ≤ c.toNat ∧ c.toNat ≤ r.2 := by
  simp [inRanges]

/-- No range of one table meets a range of the other. -/
def areDisjoint (ranges others : List (Nat × Nat)) : Bool :=
  ranges.all fun r => others.all fun s => Nat.blt r.2 s.1 || Nat.blt s.2 r.1

theorem inRanges_of_areDisjoint {ranges others : List (Nat × Nat)} {c : Char}
    (hdisjoint : areDisjoint ranges others = true) (h : inRanges ranges c = true) :
    inRanges others c = false := by
  rw [Bool.eq_false_iff]
  intro hothers
  obtain ⟨r, hr, hlow, hhigh⟩ := inRanges_eq_true_iff.mp h
  obtain ⟨s, hs, hlow', hhigh'⟩ := inRanges_eq_true_iff.mp hothers
  have hapart := List.all_eq_true.mp (List.all_eq_true.mp hdisjoint r hr) s hs
  simp only [Nat.blt_eq, Bool.or_eq_true] at hapart
  omega

end Text

namespace Declaration

open Text (inRanges stripLead?)

variable {c : Char} {cs : List Char}

/-! ## Characters -/

/-- Blanks, quotes, signs, brackets and marks, all of which end a name. -/
def separatorRanges : List (Nat × Nat) :=
  Text.blankRanges ++ [(0x21, 0x2F), (0x3A, 0x40), (0x5B, 0x5E), (0x60, 0x60), (0x7B, 0x7E),
    (0x200E, 0x200F), (0xFEFF, 0xFEFF)]

def isSeparator (c : Char) : Bool :=
  inRanges separatorRanges c

theorem not_isSeparator_of_isNameStart (h : isNameStart c = true) : isSeparator c = false := by
  rw [isNameStart, Bool.or_eq_true] at h
  rcases h with hline | hstart
  · rw [of_decide_eq_true hline]
    decide
  · exact Text.inRanges_of_areDisjoint (by decide +kernel) hstart

theorem not_isSeparator_of_isNamePart (h : isNamePart c = true) : isSeparator c = false := by
  rw [isNamePart, Bool.or_eq_true] at h
  rcases h with hline | hpart
  · rw [of_decide_eq_true hline]
    decide
  · exact Text.inRanges_of_areDisjoint (by decide +kernel) hpart

theorem not_isDigit_of_isNameStart (h : isNameStart c = true) : Decimal.isDigit c = false := by
  rw [isNameStart, Bool.or_eq_true] at h
  rcases h with hline | hstart
  · rw [of_decide_eq_true hline]
    decide
  · have hdigits : inRanges [('0'.toNat, '9'.toNat)] c = false :=
      Text.inRanges_of_areDisjoint (by decide +kernel) hstart
    simpa [Decimal.isDigit, inRanges] using hdigits

theorem ne_of_not_isSeparator {d : Char} (h : isSeparator c = false) (hd : isSeparator d = true) :
    c ≠ d := by
  rintro rfl
  rw [h] at hd
  cases hd

theorem not_isGap (h : isSeparator c = false) : isGap c = false := by
  have hblank : Text.isBlank c = false := by
    rw [isSeparator, inRanges, separatorRanges, List.any_append, Bool.or_eq_false_iff] at h
    exact h.1
  have hleft := ne_of_not_isSeparator h (d := Char.ofNat 0x200E) (by decide)
  have hright := ne_of_not_isSeparator h (d := Char.ofNat 0x200F) (by decide)
  simp [isGap, hblank, hleft, hright]

theorem bracket?_eq_none (h : isSeparator c = false) : bracket? c = none := by
  have hall : "()[]\x7b\x7d".toList.all isSeparator = true := by decide
  have hne : ∀ d ∈ "()[]\x7b\x7d".toList, c ≠ d := fun d hd =>
    ne_of_not_isSeparator h (List.all_eq_true.mp hall d hd)
  simp only [bracket?]
  simp [hne]

/-! ## Plain identifiers are read as they are written -/

/-- Starts like a name and goes on like one, as keywords do too. -/
def Shaped (cs : List Char) : Prop :=
  ∃ c rest, cs = c :: rest ∧ isNameStart c = true ∧ ∀ d ∈ rest, isNamePart d = true

instance : ∀ cs, Decidable (Shaped cs)
  | [] => isFalse fun ⟨_, _, h, _⟩ => nomatch h
  | c :: rest =>
    decidable_of_iff (isNameStart c = true ∧ rest.all isNamePart = true)
      ⟨fun ⟨h, h'⟩ => ⟨c, rest, rfl, h, List.all_eq_true.mp h'⟩,
        fun ⟨_, _, e, h, h'⟩ => by cases e; exact ⟨h, List.all_eq_true.mpr h'⟩⟩

theorem Shaped.separate (h : Shaped cs) : ∀ d ∈ cs, isSeparator d = false := by
  obtain ⟨c, rest, rfl, hstart, hrest⟩ := h
  intro d hd
  rcases List.mem_cons.mp hd with rfl | hd
  · exact not_isSeparator_of_isNameStart hstart
  · exact not_isSeparator_of_isNamePart (hrest d hd)

/-- A name that may stand anywhere: it starts like a name, goes on like one and is no keyword. -/
structure IsIdentifier (cs : List Char) : Prop where
  starts : ∃ c rest, cs = c :: rest ∧ isNameStart c = true ∧ ∀ d ∈ rest, isNamePart d = true
  free : isKeyword (String.ofList cs) = false

theorem not_beginsWith (hcs : ∀ d ∈ cs, isSeparator d = false) (lead : String)
    (hlead : lead.toList.any isSeparator = true) : beginsWith lead cs = false := by
  obtain ⟨d, hd, hsep⟩ := List.any_eq_true.mp hlead
  rw [beginsWith, Option.isSome_eq_false_iff, Option.isNone_iff_eq_none,
    Option.eq_none_iff_forall_ne_some]
  intro rest hrest
  have hmem : d ∈ cs := by
    rw [Text.stripLead?_eq_some_iff.mp hrest]
    exact List.mem_append_left rest hd
  exact ne_of_not_isSeparator (hcs d hmem) hsep rfl

theorem rawText?_eq_none {charset : Charset} (hcs : ∀ d ∈ cs, isSeparator d = false) :
    rawText? charset cs = none := by
  cases cs with
  | nil => rfl
  | cons d cs =>
    have hd := hcs d List.mem_cons_self
    have hhash := ne_of_not_isSeparator hd (d := '#') (by decide)
    have hquote := ne_of_not_isSeparator hd (d := '"') (by decide)
    simp [rawText?, hhash, hquote]

/-- Every literal holds a quote or a hash sign, or starts with a digit. -/
theorem literal?_eq_none (hdigit : cs.head?.any Decimal.isDigit = false)
    (hcs : ∀ d ∈ cs, isSeparator d = false) : literal? cs = none := by
  have hne : ∀ d, isSeparator d = true → d ∉ cs := fun d hd hmem =>
    ne_of_not_isSeparator (hcs d hmem) hd rfl
  have hquote := hne '"' (by decide)
  have hhash := hne '#' (by decide)
  have hsingle := hne quoteChar (by decide)
  have hfloat : float? cs = none := by
    rw [float?, if_neg (by simp [hdigit])]
  have hinteger : integer? cs = none := by
    rw [integer?, if_neg (by simp [hdigit])]
  unfold literal?
  simp only []
  split
  · simp at hquote
  · simp at hquote
  · simp at hhash
  · simp at hquote
  · rw [rawText?_eq_none fun d hd => hcs d (by simp [hd])]
    rfl
  · simp at hquote
  · rw [rawText?_eq_none fun d hd => hcs d (by simp [hd])]
    rfl
  · rw [if_neg fun h => hsingle (by simp [h])]
  · rw [if_neg fun h => hsingle (by simp [h])]
    simp [hfloat, hinteger]
  · rfl

theorem startsLiteral_eq_false (hcs : ∀ d ∈ cs, isSeparator d = false) :
    startsLiteral cs = false := by
  rw [startsLiteral, List.any_eq_false]
  intro lead hlead
  have hsep : lead.toList.any isSeparator = true := by
    revert lead
    decide
  rw [not_beginsWith hcs lead hsep]
  exact Bool.false_ne_true

theorem not_startsComment (hcs : ∀ d ∈ cs, isSeparator d = false) : startsComment cs = false := by
  rw [startsComment, not_beginsWith hcs "//" (by decide), not_beginsWith hcs "/*" (by decide)]
  rfl

theorem not_startsPunct (hcs : ∀ d ∈ cs, isSeparator d = false) : startsPunct cs = false := by
  have hall : "~!@#$%^&*-=+|;:,<.>/?".toList.all isSeparator = true := by decide
  cases cs with
  | nil => rfl
  | cons c cs =>
    have hc := hcs c List.mem_cons_self
    have hsign : c ∉ "~!@#$%^&*-=+|;:,<.>/?".toList := fun hmem =>
      ne_of_not_isSeparator hc (List.all_eq_true.mp hall c hmem) rfl
    have hquote := ne_of_not_isSeparator hc (d := quoteChar) (by decide)
    rw [startsPunct, List.head?_cons, Option.any_some, decide_eq_false hquote, Bool.or_false,
      Bool.eq_false_iff.mpr (mt List.contains_iff_mem.mp hsign), Bool.and_false]

theorem name?_eq_plainName? (hcs : '#' ∉ cs) : name? cs = plainName? cs := by
  unfold name?
  split
  · simp at hcs
  · rfl

namespace IsIdentifier

theorem separate (h : IsIdentifier cs) : ∀ d ∈ cs, isSeparator d = false :=
  Shaped.separate h.starts

theorem plainName? (h : IsIdentifier cs) : plainName? cs = some (cs, []) := by
  obtain ⟨c, rest, rfl, hstart, hrest⟩ := h.starts
  rw [Declaration.plainName?, if_pos hstart, List.takeWhile_eq_self_iff.mpr hrest,
    List.dropWhile_eq_nil_iff.mpr hrest]

theorem token? (h : IsIdentifier cs) : token? cs = some (.name (String.ofList cs), []) := by
  have hhash : '#' ∉ cs := fun hmem => by
    have hsep := h.separate '#' hmem
    revert hsep
    decide
  have hname : name? cs = some (cs, []) := by
    rw [name?_eq_plainName? hhash, h.plainName?]
  obtain ⟨c, rest, hcs, hstart, -⟩ := h.starts
  have hdigit : cs.head?.any Decimal.isDigit = false := by
    simp [hcs, not_isDigit_of_isNameStart hstart]
  have hc : c ≠ quoteChar :=
    ne_of_not_isSeparator (not_isSeparator_of_isNameStart hstart) (by decide)
  unfold Declaration.token?
  rw [literal?_eq_none hdigit h.separate]
  subst hcs
  simp [hc, not_startsPunct h.separate, startsLiteral_eq_false h.separate, hname]

end IsIdentifier

theorem identifier?_of_isIdentifier (h : IsIdentifier cs) :
    identifier? cs = some (String.ofList cs) := by
  obtain ⟨c, rest, hcs, hstart, -⟩ := h.starts
  have hc := h.separate c (by simp [hcs])
  have hmark : withoutMark cs = cs := by
    have hlead : c ≠ Char.ofNat 0xFEFF := ne_of_not_isSeparator hc (by decide)
    simp [withoutMark, hcs, Text.stripLead?, hlead.symm]
  have hpieces : piecesOf (cs.length + 1) cs = some [.token (.name (String.ofList cs))] := by
    have hbroken := not_beginsWith h.separate brokenLiteral (by decide)
    have htoken := h.token?
    have hcomment := not_startsComment h.separate
    subst hcs
    rw [piecesOf, if_neg (by simp [not_isGap hc]), hcomment, hbroken, bracket?_eq_none hc, htoken]
    rfl
  have htokens : tokens? cs = some [.name (String.ofList cs)] := by
    rw [tokens?, hmark, hpieces]
    rfl
  rw [identifier?, htokens]
  simp [h.free]

/-! ## What is read is a name -/

/-- A group that is open or closed already is there in the end. -/
theorem group_mem_of_matched {open_ : OpenGroups} {tokens ts : List Token} {ps : List Piece}
    (h : matched open_ tokens ps = some ts)
    (hgroup : open_ ≠ [] ∨ ∃ b content, .group b content ∈ tokens) :
    ∃ b content, .group b content ∈ ts := by
  -- a group moves from the open ones to the tokens when it is closed, and never away from there
  induction ps generalizing open_ tokens with
  | nil =>
    cases open_ with
    | nil =>
      cases h
      obtain ⟨b, content, hmem⟩ := hgroup.resolve_left (by simp)
      exact ⟨b, content, List.mem_reverse.mpr hmem⟩
    | cons => cases h
  | cons p ps ih =>
    cases p with
    | token t =>
      rw [matched] at h
      exact ih h (hgroup.imp_right fun ⟨b, content, hmem⟩ => ⟨b, content, .tail t hmem⟩)
    | opening b =>
      rw [matched] at h
      exact ih h (.inl (by simp))
    | closing b =>
      cases open_ with
      | nil => cases h
      | cons o open_ =>
        rw [matched] at h
        split at h
        · exact ih h (.inr ⟨_, _, List.mem_cons_self⟩)
        · cases h

theorem pieces_of_matched {tokens ts : List Token} {ps : List Piece}
    (h : matched [] tokens ps = some ts) (hflat : ∀ b content, .group b content ∉ ts) :
    ∃ us, ps = us.map .token ∧ ts = tokens.reverse ++ us := by
  induction ps generalizing tokens with
  | nil =>
    cases h
    exact ⟨[], rfl, (List.append_nil _).symm⟩
  | cons p ps ih =>
    cases p with
    | token t =>
      rw [matched] at h
      obtain ⟨us, rfl, rfl⟩ := ih h
      exact ⟨t :: us, rfl, by simp⟩
    | opening b =>
      rw [matched] at h
      obtain ⟨b, content, hmem⟩ := group_mem_of_matched h (.inl (by simp))
      exact absurd hmem (hflat b content)
    | closing b => cases h

theorem eq_of_matched_name {ps : List Piece} {n : String}
    (h : matched [] [] ps = some [.name n]) : ps = [.token (.name n)] := by
  obtain ⟨us, rfl, hus⟩ := pieces_of_matched h (by simp)
  obtain rfl : us = [.name n] := by simpa using hus.symm
  rfl

theorem skipBlock_suffix {depth : Nat} {cs rest : List Char} (h : skipBlock depth cs = some rest) :
    rest <:+ cs := by
  induction depth, cs using skipBlock.induct with
  | case1 => cases h
  | case2 depth cs ih =>
    rw [skipBlock] at h
    exact (ih h).trans ⟨['/', '*'], rfl⟩
  | case3 cs =>
    rw [skipBlock] at h
    cases h
    exact ⟨['*', '/'], rfl⟩
  | case4 cs depth ih =>
    rw [skipBlock] at h
    exact (ih h).trans ⟨['*', '/'], rfl⟩
  | case5 depth c cs hopen hclose ih =>
    rw [skipBlock] at h
    · exact (ih h).trans (List.suffix_cons c cs)
    · exact hopen
    · exact hclose

theorem comment?_suffix {cs rest : List Char} {ts : List Token}
    (h : comment? cs = some (ts, rest)) :
    rest <:+ cs ∧ ∀ n, ts ≠ [.name n] := by
  have hdoc : ∀ kind content n, docAttribute kind content ≠ [.name n] := by
    rintro (_ | _) content n <;> simp [docAttribute]
  rw [comment?] at h
  split at h
  · have hsuffix : skipLine cs <:+ cs := List.dropWhile_suffix _
    simp only [] at h
    split at h
    · cases h
      exact ⟨hsuffix, by simp⟩
    · rw [Option.ite_none_left_eq_some] at h
      cases h.2
      exact ⟨hsuffix, hdoc _ _⟩
  · split at h
    · cases h
    · rename_i behind hskip
      have hsuffix : behind <:+ cs := (skipBlock_suffix hskip).trans (List.drop_suffix 2 cs)
      split at h
      · cases h
        exact ⟨hsuffix, by simp⟩
      · simp only [Option.ite_none_left_eq_some] at h
        cases h.2
        exact ⟨hsuffix, hdoc _ _⟩

theorem name?_of_token? {n : String} {rest : List Char}
    (h : token? cs = some (.name n, rest)) : name? cs = some (n.toList, rest) := by
  unfold token? at h
  split at h
  · cases h
  · split at h
    · cases h
    · rename_i c cs
      split at h
      · unfold quoted? at h
        split at h
        · cases h
        · split at h
          · cases h
          · split at h
            · cases h
            · split at h <;> cases h
      · split at h
        · cases h
        · split at h
          · cases h
          · obtain ⟨r, hr, heq⟩ := Option.map_eq_some_iff.mp h
            cases heq
            rw [hr, String.toList_ofList]

theorem bracket?_ne_token {t : Token} : bracket? c ≠ some (.token t) := by
  unfold bracket?
  repeat' split
  all_goals simp

/-- A text that comes to one name holds it behind blanks and comments. -/
theorem name?_of_piecesOf {bound : Nat} {n : String}
    (h : piecesOf bound cs = some [.token (.name n)]) :
    ∃ tail rest, tail <:+ cs ∧ name? tail = some (n.toList, rest) := by
  induction bound generalizing cs with
  | zero => cases h
  | succ bound ih =>
    cases cs with
    | nil => cases h
    | cons c cs =>
      rw [piecesOf] at h
      split at h
      · obtain ⟨tail, rest, htail, hname⟩ := ih h
        exact ⟨tail, rest, htail.trans (List.suffix_cons c cs), hname⟩
      · split at h
        · split at h
          · cases h
          · rename_i ts behind hcomment
            obtain ⟨hbehind, hts⟩ := comment?_suffix hcomment
            obtain ⟨ps, hps, heq⟩ := Option.map_eq_some_iff.mp h
            -- the name does not come from the comment, as documentation is more than one token
            cases ts with
            | nil =>
              obtain ⟨tail, rest, htail, hname⟩ := ih (hps.trans (congrArg some heq))
              exact ⟨tail, rest, htail.trans hbehind, hname⟩
            | cons t ts =>
              rw [List.map_cons, List.cons_append, List.cons.injEq, List.append_eq_nil_iff,
                List.map_eq_nil_iff] at heq
              obtain ⟨ht, rfl, -⟩ := heq
              cases ht
              exact absurd rfl (hts n)
        · split at h
          · obtain ⟨ps, hps, heq⟩ := Option.map_eq_some_iff.mp h
            cases heq
          · split at h
            · rename_i piece hpiece
              obtain ⟨ps, hps, heq⟩ := Option.map_eq_some_iff.mp h
              cases heq
              exact absurd hpiece bracket?_ne_token
            · split at h
              · cases h
              · rename_i t behind htoken
                obtain ⟨ps, hps, heq⟩ := Option.map_eq_some_iff.mp h
                cases heq
                exact ⟨c :: cs, behind, List.suffix_rfl, name?_of_token? htoken⟩

theorem withoutMark_suffix (cs : List Char) : withoutMark cs <:+ cs := by
  rw [withoutMark]
  cases hlead : stripLead? [Char.ofNat 0xFEFF] cs with
  | none => exact List.suffix_rfl
  | some rest => exact ⟨_, (Text.stripLead?_eq_some_iff.mp hlead).symm⟩

theorem starts_of_plainName? {n rest : List Char} (h : plainName? cs = some (n, rest)) :
    ∃ c ds, n = c :: ds ∧ isNameStart c = true ∧ ∀ d ∈ ds, isNamePart d = true := by
  cases cs with
  | nil => cases h
  | cons c cs =>
    rw [plainName?] at h
    split at h
    · rename_i hstart
      cases h
      exact ⟨c, _, rfl, hstart, fun d hd => List.mem_takeWhile_imp hd⟩
    · cases h

/-- A raw name holds a small letter. -/
theorem isIdentifier_of_identifier? {n : String} (h : identifier? cs = some n) (hraw : 'r' ∉ cs) :
    IsIdentifier n.toList := by
  unfold identifier? at h
  split at h
  · rename_i name htokens
    rw [Option.ite_none_left_eq_some] at h
    obtain ⟨hfree, hname⟩ := h
    cases hname
    rw [tokens?] at htokens
    split at htokens
    · cases htokens
    · rename_i ps hps
      obtain rfl := eq_of_matched_name htokens
      obtain ⟨tail, rest, htail, hname⟩ := name?_of_piecesOf hps
      have hplain : name? tail = plainName? tail := by
        unfold name?
        split
        · exact absurd ((htail.trans (withoutMark_suffix cs)).subset List.mem_cons_self) hraw
        · rfl
      rw [hplain] at hname
      exact ⟨starts_of_plainName? hname, by simpa using hfree⟩
  · cases h

end Declaration
end RecordRules
