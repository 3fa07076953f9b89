import RecordRules.Proofs.Stored.Grammar

/-!
# RecordRules.Proofs.Stored.Framing

What may stand around the groups of a stored text without a difference to what is read: a text in
front that ends with its first marker, and blank characters before, between and after the groups.

* `Text.BehindFirst.append`: a first marker stays the first one whatever follows it.
* `read_of_grouped`: of the rule text only its groups matter.
* `read_framed` puts both together.
-/

namespace RecordRules

namespace Text

/-- Where a text ends with its first marker, a text behind it brings no earlier one about, also if
the marker overlaps with itself. -/
theorem BehindFirst.append {mark text : List Char} (h : BehindFirst mark text [])
    (more : List Char) : BehindFirst mark (text ++ more) more := by
  obtain ⟨before, e, hfirst⟩ := h
  rw [List.append_nil] at e
  refine ⟨before, by rw [e, List.append_assoc], fun before' rest' e' => ?_⟩
  by_contra hlt
  -- an earlier marker would come to its end within the text
  have hearlier : before' ++ mark <+: text ++ more := ⟨rest', by rw [e', List.append_assoc]⟩
  have hwithin : before' ++ mark <+: text := by
    refine List.prefix_of_prefix_length_le hearlier (List.prefix_append _ _) ?_
    rw [e, List.length_append, List.length_append]
    omega
  obtain ⟨rest, e''⟩ := hwithin
  exact hlt (hfirst before' rest (by rw [← e'', List.append_assoc]))

end Text

namespace Stored

theorem body_of_behindFirst {f : StoredFormat} {text rest : List Char}
    (h : Text.BehindFirst f.marker.toList text rest) : body f text = Text.trim rest :=
  (isBody_iff.mp (.inl ⟨rest, h, rfl⟩)).symm

theorem body_of_unmarked {f : StoredFormat} {text : List Char}
    (h : ¬f.marker.toList <:+: text) : body f text = Text.trim text :=
  (isBody_iff.mp (.inr ⟨h, rfl⟩)).symm

theorem Grouped.balanced {gs : List (List Char)} {cs : List Char} (h : Grouped gs cs) :
    ∀ g ∈ gs, Balanced g := by
  induction h with
  | nil => simp
  | cons _ hg _ ih => exact List.forall_mem_cons.mpr ⟨hg, ih⟩

theorem grouped_flatMap_bracketed {gs : List (List Char)} (h : ∀ g ∈ gs, Balanced g) :
    Grouped gs (gs.flatMap bracketed) := by
  by_cases hne : gs = []
  · rw [hne]
    exact .nil rfl
  · exact (laid_flatMap_bracketed hne h).grouped

/-- What is read depends on the rule text through its groups alone. -/
theorem read_of_grouped {f : StoredFormat} {text cs : List Char} {gs : List (List Char)}
    (hbody : body f text = Text.trim cs) (h : Grouped gs cs) :
    read f text = if gs = [] then .error (.parse .emptyText) else readGroups f gs := by
  rw [read, hbody]
  by_cases hne : gs = []
  · rw [if_pos hne]
    subst hne
    cases h with
    | nil hw =>
      rw [Text.trim_eq_nil_of_blank hw]
      rfl
  · have hl : Laid gs (Text.trim cs) := (grouped_iff_laid_trim hne).mp h
    obtain ⟨rest, hs⟩ := hl.starts
    have he : (Text.trim cs).isEmpty = false := by rw [hs]; rfl
    simp only [he, groups_eq_ok_iff.mpr hl.grouped, if_neg hne, Bool.false_eq_true, if_false]

/-- **What frames the groups of a stored text is irrelevant.** Blank characters around and between
the groups, and a text in front that ends with its first marker, change nothing in what is read: be
it a rule or a fault of the text, it is that of the groups written one after the other. -/
theorem read_framed {f : StoredFormat} {gs : List (List Char)} {lead text : String}
    (hlead : Text.BehindFirst f.marker.toList (lead ++ f.marker).toList [])
    (htext : Grouped gs text.toList) (hunmarked : ¬f.marker.toList <:+: text.toList)
    (hbare : ¬f.marker.toList <:+: gs.flatMap bracketed) :
    f.read (lead ++ f.marker ++ text) = f.read (String.ofList (gs.flatMap bracketed)) ∧
      f.read text = f.read (String.ofList (gs.flatMap bracketed)) ∧
      ((∃ r, f.read (String.ofList (gs.flatMap bracketed)) = .ok r) ∨
        ∃ fault, f.read (String.ofList (gs.flatMap bracketed)) = .error (.parse fault)) := by
  have hgroups : Grouped gs (gs.flatMap bracketed) := grouped_flatMap_bracketed htext.balanced
  have hread : ∀ {s : String} {cs : List Char}, body f s.toList = Text.trim cs → Grouped gs cs →
      f.read s = if gs = [] then .error (.parse .emptyText) else readGroups f gs :=
    fun hbody h => read_of_grouped hbody h
  have hbehind : body f (lead ++ f.marker ++ text).toList = Text.trim text.toList := by
    rw [String.toList_append]
    exact body_of_behindFirst (hlead.append text.toList)
  have hgroupsBody : body f (String.ofList (gs.flatMap bracketed)).toList =
      Text.trim (gs.flatMap bracketed) := by
    rw [String.toList_ofList]
    exact body_of_unmarked hbare
  refine ⟨?_, ?_, ?_⟩
  · rw [hread hbehind htext, hread hgroupsBody hgroups]
  · rw [hread (body_of_unmarked hunmarked) htext, hread hgroupsBody hgroups]
  · cases h : f.read (String.ofList (gs.flatMap bracketed)) with
    | ok r => exact .inl ⟨r, rfl⟩
    | error e =>
      obtain ⟨fault, rfl⟩ := read_error h
      exact .inr ⟨fault, rfl⟩

/-- A marker that overlaps with itself. -/
def overlappingFormat : StoredFormat :=
  ⟨"Experience", "aba"⟩

theorem read_framed_overlappingFormat :
    Text.BehindFirst "aba".toList "rule abbaba".toList [] ∧
      Grouped ["_or".toList, "x[1]_eq_2".toList] " [_or]\u2003[x[1]_eq_2]\n".toList ∧
      ¬"aba".toList <:+: " [_or]\u2003[x[1]_eq_2]\n".toList ∧
      ¬"aba".toList <:+: "[_or][x[1]_eq_2]".toList ∧
      overlappingFormat.read "rule abbaba [_or]\u2003[x[1]_eq_2]\n" =
        overlappingFormat.read "[_or][x[1]_eq_2]" ∧
      overlappingFormat.read "[_or][x[1]_eq_2]" =
        .ok (.node .or [⟨"x[1]", .eq, .single (.text "2")⟩] []) := by
  have hlead : Text.BehindFirst "aba".toList ("rule abb" ++ "aba").toList [] :=
    Text.afterFirst?_eq_some_iff.mp (by rfl)
  have htext : Grouped ["_or".toList, "x[1]_eq_2".toList] " [_or]\u2003[x[1]_eq_2]\n".toList :=
    groups_eq_ok_iff.mp (by rfl)
  have hunmarked : ¬"aba".toList <:+: " [_or]\u2003[x[1]_eq_2]\n".toList :=
    mt Text.occursIn_iff.mpr (by decide)
  have hbare : ¬"aba".toList <:+: "[_or][x[1]_eq_2]".toList :=
    mt Text.occursIn_iff.mpr (by decide)
  obtain ⟨hframed, -, -⟩ := read_framed (f := overlappingFormat) hlead htext hunmarked hbare
  exact ⟨hlead, htext, hunmarked, hbare, hframed, by rfl⟩

end Stored
end RecordRules
