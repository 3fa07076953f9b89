import Mathlib.Logic.IsEmpty.Basic
import RecordRules.Proofs.Stored.Offsets

/-!
# RecordRules.Proofs.Stored.Defects

What a text is cut into, and what is wrong with a text that cannot be cut.

* `Decomposition` is a text written as groups with blank characters before, between and behind
  them. There is one at most (`Decomposition.unique`), and the reader of groups finds it.
* `Defect` says which characters cannot stand where no group is open, and `FirstDefect` which of
  them comes first in a text. `judged_run` says that the loop of `scan` stops there and nowhere
  else.
* `groups_by_decomposition` puts both together.
-/

namespace RecordRules
namespace Stored

/-! ## Decompositions -/

/-- Groups, each with its content and with what stands behind it. -/
def spelled (parts : List (List Char × List Char)) : List Char :=
  parts.flatMap fun part => bracketed part.1 ++ part.2

/-- A text as groups with balanced contents, and blank characters before, between and behind
them. -/
@[ext]
structure Decomposition (cs : List Char) where
  lead : List Char
  parts : List (List Char × List Char)
  lead_blank : Text.allBlank lead = true
  balanced : ∀ part ∈ parts, Balanced part.1
  blank : ∀ part ∈ parts, Text.allBlank part.2 = true
  eq_spelled : cs = lead ++ spelled parts

def Decomposition.contents {cs : List Char} (d : Decomposition cs) : List (List Char) :=
  d.parts.map Prod.fst

theorem spelled_cons (g w : List Char) (parts : List (List Char × List Char)) :
    spelled ((g, w) :: parts) = bracketed g ++ (w ++ spelled parts) := by
  rw [spelled, List.flatMap_cons, List.append_assoc]
  rfl

theorem grouped_spelled {lead : List Char} {parts : List (List Char × List Char)}
    (hlead : Text.allBlank lead = true) (hbalanced : ∀ part ∈ parts, Balanced part.1)
    (hblank : ∀ part ∈ parts, Text.allBlank part.2 = true) :
    Grouped (parts.map Prod.fst) (lead ++ spelled parts) := by
  induction parts generalizing lead with
  | nil =>
    rw [spelled, List.flatMap_nil, List.append_nil]
    exact .nil hlead
  | cons part parts ih =>
    obtain ⟨hg, hbalanced⟩ := List.forall_mem_cons.mp hbalanced
    obtain ⟨hw, hblank⟩ := List.forall_mem_cons.mp hblank
    rw [spelled_cons]
    exact .cons hlead hg (ih hw hbalanced hblank)

theorem grouped_iff_decomposition {cs : List Char} {gs : List (List Char)} :
    Grouped gs cs ↔ ∃ d : Decomposition cs, d.contents = gs := by
  constructor
  · intro h
    induction h with
    | @nil w hw => exact ⟨⟨w, [], hw, by simp, by simp, (List.append_nil w).symm⟩, rfl⟩
    | @cons w g cs gs hw hg _ ih =>
      obtain ⟨d, rfl⟩ := ih
      refine ⟨⟨w, (g, d.lead) :: d.parts, hw, ?_, ?_, ?_⟩, rfl⟩
      · exact List.forall_mem_cons.mpr ⟨hg, d.balanced⟩
      · exact List.forall_mem_cons.mpr ⟨d.lead_blank, d.blank⟩
      · rw [spelled_cons, ← d.eq_spelled]
  · rintro ⟨⟨lead, parts, hlead, hbalanced, hblank, rfl⟩, rfl⟩
    exact grouped_spelled hlead hbalanced hblank

/-- Where the blank characters in front end, a group starts or nothing is left. -/
theorem takeWhile_blank_spelled {w : List Char} (hw : Text.allBlank w = true)
    (parts : List (List Char × List Char)) :
    (w ++ spelled parts).takeWhile Text.isBlank = w := by
  have hstop : (spelled parts).takeWhile Text.isBlank = [] := by
    cases parts with
    | nil => rfl
    | cons part parts => rfl
  rw [List.takeWhile_append_of_pos (Text.allBlank_iff.mp hw), hstop, List.append_nil]

/-- Blank characters and groups with known contents stand in a text in one way only. -/
theorem spelled_inj {parts parts' : List (List Char × List Char)} {w w' : List Char}
    (hw : Text.allBlank w = true) (hw' : Text.allBlank w' = true)
    (hblank : ∀ part ∈ parts, Text.allBlank part.2 = true)
    (hblank' : ∀ part ∈ parts', Text.allBlank part.2 = true)
    (hcontents : parts.map Prod.fst = parts'.map Prod.fst)
    (htext : w ++ spelled parts = w' ++ spelled parts') : w = w' ∧ parts = parts' := by
  induction parts generalizing parts' w w' with
  | nil =>
    rw [List.map_nil, eq_comm, List.map_eq_nil_iff] at hcontents
    subst hcontents
    exact ⟨List.append_cancel_right htext, rfl⟩
  | cons part parts ih =>
    obtain ⟨part', parts', rfl, hg, hcontents⟩ := List.map_eq_cons_iff.mp hcontents.symm
    obtain ⟨hv, hblank⟩ := List.forall_mem_cons.mp hblank
    obtain ⟨hv', hblank'⟩ := List.forall_mem_cons.mp hblank'
    -- the contents are known to agree, so what stands behind the first group agrees too
    have hlead : w = w' := by
      rw [← takeWhile_blank_spelled hw (part :: parts), htext, takeWhile_blank_spelled hw']
    rw [hlead, List.append_cancel_left_eq, spelled_cons, spelled_cons, hg,
      List.append_cancel_left_eq] at htext
    obtain ⟨hbehind, hparts⟩ := ih hv hv' hblank hblank' hcontents.symm htext
    exact ⟨hlead, by rw [hparts, Prod.ext hg.symm hbehind]⟩

theorem Decomposition.unique {cs : List Char} (d d' : Decomposition cs) : d = d' := by
  have hcontents : d.contents = d'.contents :=
    (grouped_iff_decomposition.mpr ⟨d, rfl⟩).unique (grouped_iff_decomposition.mpr ⟨d', rfl⟩)
  obtain ⟨hlead, hparts⟩ := spelled_inj d.lead_blank d'.lead_blank d.blank d'.blank hcontents
    (d.eq_spelled.symm.trans d'.eq_spelled)
  exact Decomposition.ext hlead hparts

/-! ## Defects -/

/-- Behind `before` no group is open, and the character is neither blank nor opens one. The fault
names the kind of the character and its offset. -/
inductive Defect (before : List Char) : Char → ParseFault → Prop where
  | closing (h : opened before = 0) : Defect before ']' (.unbalanced (Text.byteLength before))
  | stray {c : Char} (h : opened before = 0) (ho : c ≠ '[') (hc : c ≠ ']')
      (hb : Text.isBlank c = false) : Defect before c (.stray c (Text.byteLength before))

/-- No character of the text is a defect where it stands. -/
def Clean (cs : List Char) : Prop :=
  ∀ before c after, cs = before ++ c :: after → ∀ fault, ¬Defect before c fault

/-- The fault is that of a defect in the text, and nothing before it is one. What comes behind it is
left open. -/
def FirstDefect (cs : List Char) (fault : ParseFault) : Prop :=
  ∃ before c after, cs = before ++ c :: after ∧ Defect before c fault ∧ Clean before

theorem Defect.fault_unique {before : List Char} {c : Char} {fault fault' : ParseFault}
    (h : Defect before c fault) (h' : Defect before c fault') : fault = fault' := by
  cases h with
  | closing _ =>
    cases h' with
    | closing _ => rfl
    | stray _ _ hc _ => exact absurd rfl hc
  | stray _ _ hc _ =>
    cases h' with
    | closing _ => exact absurd rfl hc
    | stray _ _ _ _ => rfl

theorem clean_nil : Clean [] := by
  intro before c after h
  cases before <;> cases h

theorem Clean.concat {before : List Char} {c : Char} (h : Clean before)
    (hc : ∀ fault, ¬Defect before c fault) : Clean (before ++ [c]) := by
  intro earlier d later hsplit
  rcases List.eq_nil_or_concat later with rfl | ⟨later, d', rfl⟩
  · obtain ⟨rfl, hd⟩ := List.append_inj' hsplit rfl
    rwa [← (List.cons.inj hd).1]
  · rw [List.concat_eq_append, ← List.cons_append, ← List.append_assoc] at hsplit
    exact h earlier d later (List.append_inj' hsplit rfl).1

theorem FirstDefect.not_clean {cs : List Char} {fault : ParseFault} (h : FirstDefect cs fault) :
    ¬Clean cs := by
  obtain ⟨before, c, after, rfl, hdefect, -⟩ := h
  exact fun hclean => hclean before c after rfl fault hdefect

/-- A clean text that reaches up to a defect ends there. -/
theorem Defect.ends_clean {before between after after' : List Char} {c c' : Char}
    {fault : ParseFault} (h : Defect before c fault) (hclean : Clean (before ++ between))
    (hsplit : c :: after = between ++ c' :: after') : between = [] ∧ c' = c := by
  cases between with
  | nil => exact ⟨rfl, (List.cons.inj hsplit).1.symm⟩
  | cons d between =>
    obtain ⟨rfl, -⟩ := List.cons.inj hsplit
    exact absurd h (hclean before c between rfl fault)

/-- A first defect leaves no room for another one. -/
theorem FirstDefect.unique {cs : List Char} {fault fault' : ParseFault}
    (h : FirstDefect cs fault) (h' : FirstDefect cs fault') : fault = fault' := by
  obtain ⟨before, c, after, rfl, hdefect, hclean⟩ := h
  obtain ⟨before', c', after', hsplit, hdefect', hclean'⟩ := h'
  rcases List.append_eq_append_iff.mp hsplit with ⟨between, rfl, hrest⟩ | ⟨between, rfl, hrest⟩
  · obtain ⟨rfl, rfl⟩ := hdefect.ends_clean hclean' hrest
    rw [List.append_nil] at hdefect'
    exact hdefect.fault_unique hdefect'
  · obtain ⟨rfl, rfl⟩ := hdefect'.ends_clean hclean hrest
    rw [List.append_nil] at hdefect
    exact hdefect.fault_unique hdefect'

/-! ## The loop and the defects -/

theorem step_eq_error_iff {before : List Char} {s : Scan} (hdepth : s.depth = opened before)
    {c : Char} {fault : ParseFault} :
    s.step (Text.byteLength before) c = .error fault ↔ Defect before c fault := by
  constructor
  · -- of the ways through a step two are exits, each behind the checks that a defect names
    intro h
    rw [Scan.step] at h
    split at h
    · cases h
    · rename_i ho
      split at h
      · rename_i hc
        split at h
        · rename_i hzero
          cases h
          rw [hc]
          exact .closing (hdepth ▸ hzero)
        · split at h <;> cases h
      · rename_i hc
        split at h
        · rename_i hzero
          split at h
          · cases h
          · rename_i hb
            cases h
            exact .stray (hdepth ▸ hzero) ho hc (Bool.not_eq_true _ ▸ hb)
        · cases h
  · rintro (hzero | ⟨hzero, ho, hc, hb⟩)
    · rw [Scan.step, if_neg (by decide), if_pos rfl, if_pos (hdepth.trans hzero)]
    · rw [Scan.step, if_neg ho, if_neg hc, if_pos (hdepth.trans hzero),
        if_neg (by rw [hb]; exact Bool.false_ne_true)]

/-- The loop goes on where the character is no defect, and stops at the first that is one. -/
theorem judged_step {before : List Char} {s : Scan} (h : Followed before s ∧ Clean before)
    (c : Char) :
    Scan.Reaches (fun before s => Followed before s ∧ Clean before) FirstDefect (before ++ [c])
      (s.step (Text.byteLength before) c) := by
  obtain ⟨hfollowed, hclean⟩ := h
  have hleads := leads_step hfollowed c
  obtain ⟨state, gs, hfollows⟩ := hfollowed
  have hdefect : ∀ fault, s.step (Text.byteLength before) c = .error fault ↔
      Defect before c fault := fun fault => step_eq_error_iff hfollows.depth_eq_opened
  cases hs : s.step (Text.byteLength before) c with
  | error fault =>
    intro after
    exact ⟨before, c, after, (List.append_cons _ _ _).symm, (hdefect fault).mp hs, hclean⟩
  | ok s' =>
    rw [hs] at hleads hdefect
    refine ⟨hleads, hclean.concat fun fault hfault => ?_⟩
    cases (hdefect fault).mpr hfault

theorem judged_run (cs : List Char) :
    Scan.Reaches (fun before s => Followed before s ∧ Clean before) FirstDefect cs
      (Scan.initial.run 0 cs) :=
  Scan.reaches_run (fun _ _ c h => judged_step h c) ⟨⟨_, _, follows_initial⟩, clean_nil⟩ cs

/-- A text that the reader refuses has a first defect, or a group that is never closed. -/
theorem firstDefect_or_unclosed {cs : List Char} {fault : ParseFault}
    (h : groups cs = .error fault) :
    FirstDefect cs fault ∨ Clean cs ∧ fault = .unclosed := by
  have hleads := leads_run cs
  have hjudged := judged_run cs
  cases hrun : Scan.initial.run 0 cs with
  | error stop =>
    rw [hrun] at hleads hjudged
    have hrefused : groups (cs ++ []) = .error stop := hleads []
    have hfirst : FirstDefect (cs ++ []) stop := hjudged []
    rw [List.append_nil] at hrefused hfirst
    rw [hrefused] at h
    cases h
    exact .inl hfirst
  | ok s =>
    rw [hrun] at hjudged
    obtain ⟨⟨state, gs, hfollows⟩, hclean⟩ := hjudged
    rw [hfollows.groups_eq] at h
    split at h
    · cases h
    · cases h
      exact .inr ⟨hclean, rfl⟩

/-- **A text is cut into groups in at most one way, and refused at its first defect.** The groups
of a text that is read are those of its one decomposition. Where there is none, the fault is that of
the first defect, whatever comes behind it, and an unclosed group where there is no defect. The
loop over offsets comes to the same: its count is never below zero, and everything it cuts out lies
between characters. -/
theorem groups_by_decomposition (text : String) :
    (∀ gs, groups text.toList = .ok gs ↔ ∃ d : Decomposition text.toList, d.contents = gs) ∧
    (∀ d d' : Decomposition text.toList, d = d') ∧
    (∀ fault, groups text.toList = .error fault ↔ IsEmpty (Decomposition text.toList) ∧
      (FirstDefect text.toList fault ∨ Clean text.toList ∧ fault = .unclosed)) ∧
    (scan text.toList).map (List.map (Span.cut? text)) =
      (groups text.toList).map (List.map fun g => some (String.ofList g)) ∧
    ∀ before after s, text.toList = before ++ after → Scan.initial.run 0 before = .ok s →
      0 ≤ s.depth ∧ s.depth = opened before ∧
        ∀ span ∈ s.spans, ∃ g, span.cut? text = some g := by
  have hok : ∀ gs, groups text.toList = .ok gs ↔
      ∃ d : Decomposition text.toList, d.contents = gs :=
    fun gs => groups_eq_ok_iff.trans grouped_iff_decomposition
  refine ⟨hok, Decomposition.unique, fun fault => ?_, groups_eq_scan text,
    fun before after s => run_sound⟩
  constructor
  · intro h
    refine ⟨⟨fun d => ?_⟩, firstDefect_or_unclosed h⟩
    rw [(hok d.contents).mpr ⟨d, rfl⟩] at h
    cases h
  · rintro ⟨hempty, hfault⟩
    cases h : groups text.toList with
    | ok gs =>
      obtain ⟨d, -⟩ := (hok gs).mp h
      exact hempty.elim d
    | error stop =>
      congr 1
      rcases firstDefect_or_unclosed h with hstop | ⟨hclean, rfl⟩
      · rcases hfault with hfirst | ⟨hclean, -⟩
        · exact hstop.unique hfirst
        · exact absurd hclean hstop.not_clean
      · rcases hfault with hfirst | ⟨-, rfl⟩
        · exact absurd hclean hfirst.not_clean
        · rfl

/-- The second of two groups closes twice, behind a character of two bytes. The stray character
behind it is not reported. -/
example : groups "[é] [b]]x".toList = .error (.unbalanced 8) := by
  rfl

end Stored
end RecordRules
