import RecordRules.Proofs.Number
import RecordRules.Proofs.Stored.RoundTrip

/-!
# RecordRules.Proofs.Stored.Resaving

Writing again what was read.

* `storable_of_readCondition`: what a group is read as can be written and read once more, because
  the reading leaves no underscore, no tilde and no bar where it would be misread, and the written
  condition has the brackets of the group it was read from.
* `read_write_ne_ok`: a marker in the text of a rule cuts off its first underscore or its first
  bracket, so that text is never read as the rule it was written for.
* `read_stored_of_read`: hence a rule that was read and is written again is read again, unless
  there is a marker in its text or a number whose text stands for another number.
-/

namespace RecordRules

/-- A number is the one that its own text is read as. -/
def Scalar.KeepsNumber : Scalar → Prop
  | .number n => Number.read? n.text = some n
  | _ => True

instance (s : Scalar) : Decidable s.KeepsNumber :=
  match s with
  | .number _ => inferInstanceAs (Decidable (_ = _))
  | .text _ => isTrue trivial
  | .bool _ => isTrue trivial

def Rule.KeepsNumbers (r : Rule) : Prop :=
  ∀ d ∈ r.subrules, ∀ c ∈ d.conditions, ∀ s ∈ c.value.scalars, s.KeepsNumber

namespace Stored

/-! ## Values that were read -/

section Scalar

variable {f : StoredFormat} {field raw : List Char} {s : Scalar}

/-- A character that is in no number gets into a value from its raw text only. -/
theorem not_mem_rendered (h : readScalar f field raw = .ok s) {c : Char}
    (hf : Number.isFigure c = false) (hr : c ∉ unescape raw) : c ∉ s.rendered := by
  have hs := readScalar_eq_ok_iff.mp h
  split at hs
  · obtain ⟨n, -, rfl⟩ := hs
    exact Number.not_mem_text hf n
  · rw [hs, Scalar.rendered, String.toList_ofList]
    exact hr

theorem brackets_rendered (h : readScalar f field raw = .ok s) :
    brackets s.rendered = brackets raw := by
  have hs := readScalar_eq_ok_iff.mp h
  rw [← brackets_unescape raw]
  split at hs
  · -- neither a number nor what is read as one has brackets
    obtain ⟨n, hn, rfl⟩ := hs
    have hraw : brackets (unescape raw) = [] := brackets_eq_nil_iff.mpr
      ⟨Number.not_mem_of_read? hn (by decide) (by decide),
        Number.not_mem_of_read? hn (by decide) (by decide)⟩
    have htext : brackets n.text = [] := brackets_eq_nil_iff.mpr
      ⟨Number.not_mem_text (by decide) n, Number.not_mem_text (by decide) n⟩
    rw [hraw]
    exact htext
  · rw [hs, Scalar.rendered, String.toList_ofList]

theorem rendered_ne_nil (h : readScalar f field raw = .ok s) (hr : raw ≠ []) :
    s.rendered ≠ [] := by
  have hs := readScalar_eq_ok_iff.mp h
  split at hs
  · obtain ⟨n, -, rfl⟩ := hs
    exact n.text_ne_nil
  · rw [hs, Scalar.rendered, String.toList_ofList]
    exact fun e => hr (Text.substitute_eq_nil_iff.mp e)

/-- Values are typed as the reading types them when they are read. Only the text of a number can
stand for something else. -/
theorem asRead_iff_of_readScalar (h : readScalar f field raw = .ok s) :
    s.AsRead f (String.ofList field) ↔ s.KeepsNumber := by
  have hfield : String.ofList field = f.numericField ↔ field = f.numericField.toList := by
    rw [← String.toList_inj, String.toList_ofList]
  have hs := readScalar_eq_ok_iff.mp h
  split at hs
  · rename_i hf
    obtain ⟨n, -, rfl⟩ := hs
    exact and_iff_right (hfield.mpr hf)
  · rename_i hf
    rw [hs]
    exact iff_of_true (fun e => hf (hfield.mp e)) trivial

end Scalar

section Constant

variable {f : StoredFormat} {field raw : List Char} {op : Operator} {v : Constant}

/-- The constants that are read: a pattern, one value, an empty list, or the values of the pieces
between bars. -/
theorem readConstant_cases (h : readConstant f field op raw = .ok v) :
    v = .pattern (String.ofList (unescape raw)) ∨
      (∃ s, readScalar f field raw = .ok s ∧ v = .single s) ∨ (raw = [] ∧ v = .array []) ∨
      ∃ items, raw ≠ [] ∧ (Text.pieces '|' raw).map (readScalar f field) = items.map .ok ∧
        v = .array items := by
  rw [readConstant] at h
  split at h
  · cases h
    exact .inl rfl
  · split at h
    · split at h
      · rename_i he
        cases h
        exact .inr (.inr (.inl ⟨List.isEmpty_iff.mp he, rfl⟩))
      · rename_i he
        split at h
        · cases h
        · rename_i items hs
          cases h
          exact .inr (.inr (.inr ⟨items, fun e => he (List.isEmpty_iff.mpr e),
            readScalars_eq_ok_iff.mp hs, rfl⟩))
    · split at h
      · cases h
      · rename_i s hs
        cases h
        exact .inr (.inl ⟨s, hs, rfl⟩)

/-- Every value in a constant was read from a stretch of its raw text. -/
theorem exists_piece_of_mem_scalars (h : readConstant f field op raw = .ok v) {s : Scalar}
    (hs : s ∈ v.scalars) : ∃ piece, readScalar f field piece = .ok s ∧ piece ⊆ raw := by
  rcases readConstant_cases h with rfl | ⟨s', hr, rfl⟩ | ⟨-, rfl⟩ | ⟨items, -, hr, rfl⟩
  · cases hs
  · rw [List.mem_singleton.mp hs]
    exact ⟨raw, hr, fun _ hc => hc⟩
  · cases hs
  · obtain ⟨piece, hp, hread⟩ := exists_of_mem_ok hr hs
    exact ⟨piece, hread, fun _ hc => Text.mem_of_mem_pieces hp hc⟩

theorem brackets_texts (h : readConstant f field op raw = .ok v) :
    v.texts.flatMap brackets = brackets raw := by
  rcases readConstant_cases h with rfl | ⟨s, hr, rfl⟩ | ⟨rfl, rfl⟩ | ⟨items, -, hr, rfl⟩
  · rw [Constant.texts, List.flatMap_singleton, String.toList_ofList, brackets_unescape]
  · rw [Constant.texts, List.flatMap_singleton, brackets_rendered hr]
  · rfl
  · have hsame := map_eq_of_map_eq_ok (b := fun s => brackets s.rendered)
      (fun _ _ hread => brackets_rendered hread) hr
    rw [Constant.texts, List.flatMap_map, List.flatMap_def, hsame, ← List.flatMap_def,
      ← brackets_joined, Text.joined_pieces]

/-- The texts of a constant have no underscores and no tildes in them. -/
theorem texts_of_readConstant (h : readConstant f field op raw = .ok v) (hu : '_' ∉ raw) :
    ∀ t ∈ v.texts, '_' ∉ t ∧ '~' ∉ t := by
  have hplain : ∀ piece : List Char, piece ⊆ raw → '_' ∉ unescape piece ∧ '~' ∉ unescape piece := by
    intro piece hp
    constructor
    · exact fun hm => hu (hp ((Text.mem_substitute_iff (by decide) (by decide)).mp hm))
    · exact Text.not_mem_substitute (by decide) piece
  have hscalars : ∀ s ∈ v.scalars, '_' ∉ s.rendered ∧ '~' ∉ s.rendered := by
    intro s hs
    obtain ⟨piece, hread, hp⟩ := exists_piece_of_mem_scalars h hs
    exact ⟨not_mem_rendered hread (by decide) (hplain piece hp).1,
      not_mem_rendered hread (by decide) (hplain piece hp).2⟩
  cases v with
  | single s => exact List.forall_mem_singleton.mpr (hscalars s List.mem_cons_self)
  | array items => exact List.forall_mem_map.mpr hscalars
  | pattern p =>
    rcases readConstant_cases h with e | ⟨s, -, e⟩ | ⟨-, e⟩ | ⟨items, -, -, e⟩
    · cases e
      rw [Constant.texts, List.forall_mem_singleton, String.toList_ofList]
      exact hplain raw fun _ hc => hc
    · cases e
    · cases e
    · cases e

theorem listPlain_of_readConstant (h : readConstant f field op raw = .ok v) : v.ListPlain := by
  rcases readConstant_cases h with rfl | ⟨s, hr, rfl⟩ | ⟨-, rfl⟩ | ⟨items, hne, hr, rfl⟩
  · trivial
  · trivial
  · exact ⟨List.forall_mem_nil _, by simp⟩
  · constructor
    · intro s hs
      obtain ⟨piece, hp, hread⟩ := exists_of_mem_ok hr hs
      refine not_mem_rendered hread (by decide) fun hm => ?_
      exact Text.not_mem_of_mem_pieces hp ((Text.mem_substitute_iff (by decide) (by decide)).mp hm)
    · intro he
      -- one item only, so its raw text is all there was
      have hlen : (Text.pieces '|' raw).length = 1 := by
        have hi := congrArg List.length hr
        rw [List.length_map, List.length_map] at hi
        rw [hi, ← List.length_map (f := Scalar.rendered), he]
        rfl
      obtain ⟨piece, hp⟩ := List.length_eq_one_iff.mp hlen
      have hpiece : piece = raw := by rw [← Text.joined_pieces '|' raw, hp, Text.joined_singleton]
      rw [hp, hpiece] at hr
      cases items with
      | nil => cases he
      | cons s items =>
        rw [List.map_cons, List.map_cons, List.cons.injEq] at hr
        rw [List.map_cons, List.cons.injEq] at he
        exact rendered_ne_nil hr.1 hne he.1

end Constant

/-! ## Conditions and rules that were read -/

section Read

variable {f : StoredFormat} {g : List Char} {c : Condition}

/-- The field and the texts of a condition that was read have no underscores in them. -/
theorem plain_of_readCondition (h : readCondition f g = .ok c) :
    '_' ∉ c.field.toList ∧ ∀ t ∈ c.value.texts, '_' ∉ t ∧ '~' ∉ t := by
  obtain ⟨field, op, raw, value, hp, _, _, hr, rfl⟩ := readCondition_eq_ok_iff.mp h
  obtain ⟨-, hf, -, hu⟩ := pieces_eq_three_iff.mp hp
  rw [String.toList_ofList]
  exact ⟨hf, texts_of_readConstant hr hu⟩

/-- A condition that was read is written with the brackets it was read from. -/
theorem brackets_of_readCondition (h : readCondition f g = .ok c) :
    brackets (conditionText c) = brackets g := by
  obtain ⟨field, op, raw, value, hp, _, _, hr, rfl⟩ := readCondition_eq_ok_iff.mp h
  obtain ⟨rfl, -⟩ := pieces_eq_three_iff.mp hp
  rw [brackets_conditionText, brackets_texts hr, String.toList_ofList, brackets_parts]

theorem storable_of_readCondition (hg : Balanced g) (h : readCondition f g = .ok c) :
    c.Storable := by
  obtain ⟨hf, ht⟩ := plain_of_readCondition h
  refine ⟨hf, ht, ?_, hg.of_brackets_eq (brackets_of_readCondition h)⟩
  obtain ⟨field, op, raw, value, _, _, _, hr, rfl⟩ := readCondition_eq_ok_iff.mp h
  exact listPlain_of_readConstant hr

end Read

/-- Every condition of a rule that was read is read from a balanced group. -/
theorem exists_group_of_read {f : StoredFormat} {text : List Char} {r : Rule}
    (h : read f text = .ok r) : ∀ d ∈ r.subrules, ∀ c ∈ d.conditions,
      ∃ g, Balanced g ∧ readCondition f g = .ok c := by
  intro d hd c hc
  obtain ⟨gs, hl, hr⟩ := read_eq_ok_iff.mp h
  have hread : ∀ p ∈ parts r, ∃ g ∈ gs, readPart f g = .ok p :=
    fun p hp => exists_group_of_mem_parts hr hp
  obtain ⟨g, hg, hp⟩ := (forall_mem_parts.mp hread d hd).2 c hc
  exact ⟨g, hl.balanced g hg, readPart_eq_condition_iff.mp hp⟩

theorem asRead_iff_of_read {f : StoredFormat} {text : List Char} {r : Rule}
    (h : read f text = .ok r) : r.AsRead f ↔ r.KeepsNumbers := by
  rw [Rule.AsRead, Rule.KeepsNumbers]
  refine forall₂_congr fun d hd => forall₂_congr fun c hc => forall₂_congr fun s hs => ?_
  obtain ⟨g, -, hg⟩ := exists_group_of_read h d hd c hc
  obtain ⟨field, op, raw, value, _, _, _, hr, rfl⟩ := readCondition_eq_ok_iff.mp hg
  obtain ⟨piece, hread, -⟩ := exists_piece_of_mem_scalars hr hs
  exact asRead_iff_of_readScalar hread

/-! ## Markers -/

/-- Parts have the underscores of the groups they were read from: one for an opening, two for a
condition. -/
theorem count_text_of_readPart {f : StoredFormat} {g : List Char} {p : Part}
    (h : readPart f g = .ok p) : p.text.count '_' = g.count '_' := by
  cases p with
  | opening op =>
    rw [(combining?_eq_some_iff.mp (readPart_eq_opening_iff.mp h)).1]
    rfl
  | condition c =>
    have hc := readPart_eq_condition_iff.mp h
    obtain ⟨hf, ht⟩ := plain_of_readCondition hc
    obtain ⟨field, op, raw, value, hp, _⟩ := readCondition_eq_ok_iff.mp hc
    have hg := Text.length_pieces '_' g
    have hw := Text.length_pieces '_' (conditionText c)
    rw [hp] at hg
    rw [pieces_conditionText hf fun t hm => (ht t hm).1] at hw
    exact Nat.succ.inj (hw.symm.trans hg)

theorem count_flatten_congr {c : Char} {gs gs' : List (List Char)}
    (h : gs.map (List.count c) = gs'.map (List.count c)) :
    gs.flatten.count c = gs'.flatten.count c := by
  rw [List.count_flatten, List.count_flatten, h]

/-- As many underscores are written for a rule as stand in the groups it was read from. -/
theorem count_write {f : StoredFormat} {gs : List (List Char)} {r : Rule}
    (h : readGroups f gs = .ok r) : (write r).count '_' = gs.flatten.count '_' := by
  have hpart : ∀ (g : List Char) (p : Part), readPart f g = .ok p →
      (bracketed p.text).count '_' = g.count '_' := by
    intro g p hread
    rw [← count_text_of_readPart hread]
    simp [bracketed]
  rw [write, groupsOf_eq, List.flatMap_def]
  refine count_flatten_congr ?_
  rw [List.map_map, List.map_map]
  exact map_eq_of_map_eq_ok hpart (readGroups_eq_ok_iff.mp h).2

/-- **A rule with a marker in its text is not read back.** What stands behind the marker would need
all underscores of the text, and the first of them is the second character. -/
theorem read_write_ne_ok {f : StoredFormat} {r : Rule} (hne : f.marker ≠ "")
    (hm : f.marker.toList <:+: write r) : read f (write r) ≠ .ok r := by
  intro h
  obtain ⟨gs, hl, hr⟩ := read_eq_ok_iff.mp h
  obtain ⟨rest, ha⟩ := Option.isSome_iff_exists.mp (Text.occursIn_iff.mpr hm)
  obtain ⟨before, e, -⟩ := Text.afterFirst?_eq_some_iff.mp ha
  rw [body, ha, Option.getD_some] at hl
  have hgr : Grouped gs rest := (grouped_iff_laid_trim hl.ne_nil).mpr hl
  have hcount : (before ++ f.marker.toList).count '_' = 0 := by
    have hrest := hgr.count_eq (c := '_') (by decide) (by decide) (by decide)
    have hall := count_write hr
    rw [e, ← List.append_assoc, List.count_append, ← hrest] at hall
    omega
  obtain ⟨more, hw⟩ := write_starts r
  rw [e, ← List.append_assoc] at hw
  cases hcut : before ++ f.marker.toList with
  | nil => exact hne (String.toList_eq_nil_iff.mp (List.append_eq_nil_iff.mp hcut).2)
  | cons b cut =>
    rw [hcut] at hw hcount
    cases cut with
    | nil =>
      -- only the first bracket is cut off, and no group starts with an underscore
      have hstart : rest = '_' :: more := (List.cons.inj hw).2
      rw [hstart] at hgr
      rcases hgr.starts rfl with hb | hb
      · exact absurd hb (by decide)
      · exact absurd hb (by decide)
    | cons b' cut =>
      have hb' : b' = '_' := (List.cons.inj (List.cons.inj hw).2).1
      rw [hb'] at hcount
      exact List.count_eq_zero.mp hcount (by simp)

/-! ## Writing again -/

/-- **Writing again what was read.** Whatever text a rule was read from, the rule is read again
from the text that is written for it, exactly when no marker is in that text and the numbers in the
rule are those that their texts stand for. -/
theorem read_stored_of_read {f : StoredFormat} {text : String} {r : Rule} (hne : f.marker ≠ "")
    (h : f.read text = .ok r) :
    f.read r.stored = .ok r ↔ ¬f.marker.toList <:+: r.stored.toList ∧ r.KeepsNumbers := by
  have hs : ∀ d ∈ r.subrules, ∀ c ∈ d.conditions, c.Storable := fun d hd c hc => by
    obtain ⟨g, hg, hread⟩ := exists_group_of_read h d hd c hc
    exact storable_of_readCondition hg hread
  obtain ⟨gs, -, hr⟩ := read_eq_ok_iff.mp h
  have hv := valid_of_readGroups hr
  have hflat := (readGroups_eq_ok_iff.mp hr).1
  rw [StoredFormat.read, Rule.stored, String.toList_ofList, ← asRead_iff_of_read h,
    Rule.asRead_iff]
  constructor
  · intro hread
    have hm : ¬f.marker.toList <:+: write r := fun hm => read_write_ne_ok hne hm hread
    have hn : r.RendersNumbers f := by
      by_cases hn : r.RendersNumbers f
      · exact hn
      · obtain ⟨fault, he⟩ := read_write_error_of_storable hv hs hm hn
        rw [he] at hread
        cases hread
    rw [read_write_of_storable hv hs hm hn] at hread
    have hret : (r.retyped f).IsFlat := hflat.mapConditions _
    rw [Rule.flattened_eq_self hret] at hread
    exact ⟨hm, hn, Except.ok.inj hread⟩
  · rintro ⟨hm, hn, hsame⟩
    rw [read_write_of_storable hv hs hm hn, hsame, Rule.flattened_eq_self hflat]

/-- Brackets in a field and in an item, an empty item and blanks between groups stay as they are.
A whole number with a point is written without it, and so read as another number. -/
theorem read_stored_of_read_standard :
    StoredFormat.standard.marker ≠ "" ∧
      (∃ r, StoredFormat.standard.read
        "old query: [_or] [a[b]_in_x~y||[z]] [_not][Experience_gt_-5]" = .ok r ∧
          StoredFormat.standard.read r.stored = .ok r) ∧
      ∃ r, StoredFormat.standard.read "[_and][Experience_gt_5.0]" = .ok r ∧
        StoredFormat.standard.read r.stored ≠ .ok r := by
  have hne : StoredFormat.standard.marker ≠ "" := by decide
  have hkept : StoredFormat.standard.read
      "old query: [_or] [a[b]_in_x~y||[z]] [_not][Experience_gt_-5]" = .ok (.node .or
        [⟨"a[b]", .member, .array [.text "x y", .text "", .text "[z]"]⟩]
        [.node .not [⟨"Experience", .gt, .single (.number (.signed (-5)))⟩] []]) := by rfl
  have hlost : StoredFormat.standard.read "[_and][Experience_gt_5.0]" = .ok (.node .and
      [⟨"Experience", .gt, .single (.number (.float ⟨0x4014000000000000⟩))⟩] []) := by rfl
  refine ⟨hne, ⟨_, hkept, (read_stored_of_read hne hkept).mpr ⟨?_, ?_⟩⟩,
    _, hlost, fun h => ?_⟩
  · rw [← Text.occursIn_iff]
    decide
  · unfold Rule.KeepsNumbers
    decide
  · have hk := ((read_stored_of_read hne hlost).mp h).2
    unfold Rule.KeepsNumbers at hk
    revert hk
    decide

end Stored
end RecordRules
