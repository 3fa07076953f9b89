import RecordRules.Proofs.Stored.Reading

/-!
# RecordRules.Proofs.Stored.Grammar

The grammar of stored rules, and that the reading accepts exactly its texts.

* `IsBody` says which part of a text is the rule text, `IsOpening` and `IsCondition` which groups
  may stand in it.
* `read_isOk_iff_grammar`: a text is read as a rule exactly when its rule text is a run of groups,
  the first an opening and every later one an opening or a condition. All other texts give a parse
  fault, and the checks of `Condition.make` and `Rule.make` let everything pass that the reading
  hands them.
-/

namespace RecordRules
namespace Stored

/-- The rule text of a text: what stands behind the first marker, or all of it where there is no
marker, without the blank characters around it. -/
def IsBody (f : StoredFormat) (text b : List Char) : Prop :=
  (∃ rest, Text.BehindFirst f.marker.toList text rest ∧ b = Text.trim rest) ∨
    (¬f.marker.toList <:+: text ∧ b = Text.trim text)

def IsOpening (g : List Char) : Prop :=
  g = "_and".toList ∨ g = "_or".toList ∨ g = "_not".toList

/-- The written value of an operator holds numbers: every item of a list, which may be empty, and
the whole of any other value. Tildes stand for spaces. -/
def HoldsNumbers (op : Operator) (raw : List Char) : Prop :=
  if op.isMembership then
    raw = [] ∨ ∀ item ∈ Text.pieces '|' raw, (Number.read? (unescape item)).isSome = true
  else (Number.read? (unescape raw)).isSome = true

/-- A field, the suffix of an operator that compares, and a value, with underscores between them
and nowhere else. -/
def IsCondition (f : StoredFormat) (g : List Char) : Prop :=
  ∃ field suffix raw op, g = field ++ '_' :: (suffix ++ '_' :: raw) ∧
    '_' ∉ field ∧ '_' ∉ suffix ∧ '_' ∉ raw ∧ Text.allBlank field = false ∧
    op.token.toList = '_' :: suffix ∧ op.isLogical = false ∧
    (field = f.numericField.toList → op.kind ≠ .text → HoldsNumbers op raw)

theorem isBody_iff {f : StoredFormat} {text b : List Char} :
    IsBody f text b ↔ b = body f text := by
  rw [body]
  cases ha : Text.afterFirst? f.marker.toList text with
  | some rest =>
    have hb := Text.afterFirst?_eq_some_iff.mp ha
    constructor
    · rintro (⟨rest', hr, e⟩ | ⟨hn, _⟩)
      · rw [e, hr.unique hb, Option.getD_some]
      · exact absurd (Text.occursIn_iff.mp (by rw [Text.occursIn, ha]; rfl)) hn
    · intro e
      exact .inl ⟨rest, hb, e⟩
  | none =>
    constructor
    · rintro (⟨rest, hr, _⟩ | ⟨_, e⟩)
      · rw [Text.afterFirst?_eq_some_iff.mpr hr] at ha
        cases ha
      · exact e
    · intro e
      refine .inr ⟨fun h => ?_, e⟩
      have hs := Text.occursIn_iff.mpr h
      rw [Text.occursIn, ha] at hs
      cases hs

theorem isOpening_iff {g : List Char} : IsOpening g ↔ ∃ op, combining? g = some op := by
  constructor
  · rintro (rfl | rfl | rfl)
    · exact ⟨.and, combining?_eq_some_iff.mpr ⟨rfl, rfl⟩⟩
    · exact ⟨.or, combining?_eq_some_iff.mpr ⟨rfl, rfl⟩⟩
    · exact ⟨.not, combining?_eq_some_iff.mpr ⟨rfl, rfl⟩⟩
  · rintro ⟨op, h⟩
    obtain ⟨rfl, hl⟩ := combining?_eq_some_iff.mp h
    cases op with
    | and => exact .inl rfl
    | or => exact .inr (.inl rfl)
    | not => exact .inr (.inr rfl)
    | _ => cases hl

/-! ## Conditions -/

theorem readConstant_ok_iff {f : StoredFormat} {field raw : List Char} {op : Operator} :
    (∃ value, readConstant f field op raw = .ok value) ↔
      (field = f.numericField.toList → op.kind ≠ .text → HoldsNumbers op raw) := by
  rw [readConstant]
  by_cases hk : op.kind = .text
  · simp [hk]
  · rw [if_neg hk]
    by_cases hm : op.isMembership = true
    · have hn : HoldsNumbers op raw ↔ raw = [] ∨
          ∀ item ∈ Text.pieces '|' raw, (Number.read? (unescape item)).isSome = true := by
        rw [HoldsNumbers, if_pos hm]
      rw [if_pos hm, hn]
      by_cases he : raw = []
      · simp [he]
      · have hitems : (∃ ss, readScalars f field (Text.pieces '|' raw) = .ok ss) ↔
            ∀ item ∈ Text.pieces '|' raw, ∃ s, readScalar f field item = .ok s :=
          readScalars_ok_iff
        rw [if_neg (by simpa using he)]
        constructor
        · rintro ⟨value, h⟩ hf _
          refine .inr fun item hi => ?_
          cases hs : readScalars f field (Text.pieces '|' raw) with
          | error e => rw [hs] at h; cases h
          | ok ss => exact readScalar_ok_iff.mp (hitems.mp ⟨ss, hs⟩ item hi) hf
        · intro h
          obtain ⟨ss, hs⟩ := hitems.mpr fun item hi => readScalar_ok_iff.mpr fun hf =>
            (h hf hk).resolve_left he item hi
          exact ⟨.array ss, by rw [hs]⟩
    · have hn : HoldsNumbers op raw ↔ (Number.read? (unescape raw)).isSome = true := by
        rw [HoldsNumbers, if_neg hm]
      rw [if_neg hm, hn]
      have hone : (∃ s, readScalar f field raw = .ok s) ↔
          (field = f.numericField.toList → (Number.read? (unescape raw)).isSome = true) :=
        readScalar_ok_iff
      constructor
      · rintro ⟨value, h⟩ hf _
        cases hs : readScalar f field raw with
        | error e => rw [hs] at h; cases h
        | ok s => exact hone.mp ⟨s, hs⟩ hf
      · intro h
        obtain ⟨s, hs⟩ := hone.mpr fun hf => h hf hk
        exact ⟨.single s, by rw [hs]⟩

theorem pieces_eq_three_iff {g a b c : List Char} :
    Text.pieces '_' g = [a, b, c] ↔
      g = a ++ '_' :: (b ++ '_' :: c) ∧ '_' ∉ a ∧ '_' ∉ b ∧ '_' ∉ c := by
  constructor
  · intro h
    have hmem : ∀ p ∈ [a, b, c], '_' ∉ p := fun p hp =>
      Text.not_mem_of_mem_pieces (h ▸ hp)
    refine ⟨?_, hmem a (by simp), hmem b (by simp), hmem c (by simp)⟩
    rw [← Text.joined_pieces '_' g, h, Text.joined_cons_cons, Text.joined_cons_cons,
      Text.joined_singleton]
  · rintro ⟨rfl, ha, hb, hc⟩
    rw [Text.pieces_append_cons ha, Text.pieces_append_cons hb, Text.pieces_of_not_mem hc]

theorem isCondition_iff {f : StoredFormat} {g : List Char} :
    IsCondition f g ↔ ∃ c, readCondition f g = .ok c := by
  constructor
  · rintro ⟨field, suffix, raw, op, e, hf, hs, hr, hb, ht, hl, hn⟩
    rw [Operator.toList_token] at ht
    have hp := pieces_eq_three_iff.mpr ⟨e, hf, hs, hr⟩
    rw [← (List.cons.inj ht).2] at hp
    obtain ⟨value, hv⟩ := readConstant_ok_iff.mpr hn
    exact ⟨_, readCondition_eq_ok_iff.mpr ⟨field, op, raw, value, hp, hb, hl, hv, rfl⟩⟩
  · rintro ⟨c, h⟩
    obtain ⟨field, op, raw, value, hp, hb, hl, hv, _⟩ := readCondition_eq_ok_iff.mp h
    obtain ⟨e, hf, hs, hr⟩ := pieces_eq_three_iff.mp hp
    exact ⟨field, _, raw, op, e, hf, hs, hr, hb, Operator.toList_token op, hl,
      readConstant_ok_iff.mp ⟨value, hv⟩⟩

/-! ## Texts -/

/-- The reading succeeds on groups that are an opening and then openings and conditions. -/
theorem readGroups_ok_iff {f : StoredFormat} {gs : List (List Char)} :
    (∃ r, readGroups f gs = .ok r) ↔
      ∃ opening later, gs = opening :: later ∧ IsOpening opening ∧
        ∀ g ∈ later, IsOpening g ∨ IsCondition f g := by
  have hpart : ∀ g, (∃ p, readPart f g = .ok p) ↔ IsOpening g ∨ IsCondition f g := by
    intro g
    rw [isOpening_iff, isCondition_iff]
    constructor
    · rintro ⟨p, hp⟩
      cases p with
      | opening op => exact .inl ⟨op, readPart_eq_opening_iff.mp hp⟩
      | condition c => exact .inr ⟨c, readPart_eq_condition_iff.mp hp⟩
    · rintro (⟨op, h⟩ | ⟨c, h⟩)
      · exact ⟨_, readPart_eq_opening_iff.mpr h⟩
      · exact ⟨_, readPart_eq_condition_iff.mpr h⟩
  constructor
  · rintro ⟨r, h⟩
    obtain ⟨hflat, hps⟩ := readGroups_eq_ok_iff.mp h
    rw [parts_of_isFlat hflat] at hps
    cases gs with
    | nil => cases hps
    | cons opening later =>
      rw [List.map_cons, List.map_cons, List.cons.injEq] at hps
      refine ⟨opening, later, rfl, ?_, fun g hg => (hpart g).mp ?_⟩
      · exact isOpening_iff.mpr ⟨_, readPart_eq_opening_iff.mp hps.1⟩
      · exact exists_part_of_mem_groups h (List.mem_cons_of_mem _ hg)
  · rintro ⟨opening, later, rfl, ho, hlater⟩
    obtain ⟨op, hop⟩ := isOpening_iff.mp ho
    have hall : ∃ ps : List Part, later.map (readPart f) = ps.map .ok := by
      clear ho hop
      induction later with
      | nil => exact ⟨[], rfl⟩
      | cons g later ih =>
        obtain ⟨p, hp⟩ := (hpart g).mpr (hlater g List.mem_cons_self)
        obtain ⟨ps, hps⟩ := ih fun g' hg' => hlater g' (List.mem_cons_of_mem _ hg')
        exact ⟨p :: ps, by rw [List.map_cons, hp, hps, List.map_cons]⟩
    obtain ⟨ps, hps⟩ := hall
    obtain ⟨cs, sections, rfl⟩ := exists_sectionParts ps
    have hs := readSections_of_parts hps
    refine ⟨.node op cs (sections.map fun s => .node s.1 s.2 []), ?_⟩
    simp only [readGroups, hop, hs]
    rw [sectionRules_eq (logical_of_readSections hs)]
    exact make_of_isLogical (combining?_eq_some_iff.mp hop).2 _ _

/-- Reading a text is reading the groups of its rule text, of which there is at least one. -/
theorem read_eq_ok_iff {f : StoredFormat} {text : List Char} {r : Rule} :
    read f text = .ok r ↔ ∃ gs, Laid gs (body f text) ∧ readGroups f gs = .ok r := by
  have hbody : Text.trim (body f text) = body f text := Text.trim_trim _
  simp only [read]
  constructor
  · intro h
    split at h
    · cases h
    · split at h
      · cases h
      · rename_i gs hg
        have hne : gs ≠ [] := by
          rintro rfl
          cases h
        have hl := (grouped_iff_laid_trim hne).mp (groups_eq_ok_iff.mp hg)
        rw [hbody] at hl
        exact ⟨gs, hl, h⟩
  · rintro ⟨gs, hl, h⟩
    obtain ⟨rest, hs⟩ := hl.starts
    have he : (body f text).isEmpty = false := by rw [hs]; rfl
    rw [groups_eq_ok_iff.mpr hl.grouped, he]
    exact h

theorem read_error {f : StoredFormat} {text : List Char} {e : RuleError}
    (h : read f text = .error e) : ∃ fault, e = .parse fault := by
  simp only [read] at h
  split at h
  · cases h; exact ⟨_, rfl⟩
  · split at h
    · cases h; exact ⟨_, rfl⟩
    · exact readGroups_error h

/-- **A text is read as a rule exactly when its rule text is one of the grammar; every other text
gives a parse fault, and no check behind the reading ever turns down what was read.** -/
theorem read_isOk_iff_grammar (f : StoredFormat) (text : String) :
    ((∃ r, f.read text = .ok r) ↔
      ∃ b opening later, IsBody f text.toList b ∧ Laid (opening :: later) b ∧
        IsOpening opening ∧ ∀ g ∈ later, IsOpening g ∨ IsCondition f g) ∧
    (∀ e, f.read text = .error e → ∃ fault, e = .parse fault) ∧
    (∀ field suffix raw op value, Text.allBlank field = false → comparing? suffix = some op →
      readConstant f field op raw = .ok value →
      Condition.make (String.ofList field) op value = .ok ⟨String.ofList field, op, value⟩) ∧
    (∀ g op cs rs, combining? g = some op → Rule.make op cs rs = .ok (.node op cs rs)) := by
  refine ⟨?_, fun e h => read_error h, ?_, ?_⟩
  · constructor
    · rintro ⟨r, h⟩
      obtain ⟨gs, hl, hr⟩ := read_eq_ok_iff.mp h
      obtain ⟨opening, later, rfl, ho, hlater⟩ := readGroups_ok_iff.mp ⟨r, hr⟩
      exact ⟨_, opening, later, isBody_iff.mpr rfl, hl, ho, hlater⟩
    · rintro ⟨b, opening, later, hb, hl, ho, hlater⟩
      rw [isBody_iff.mp hb] at hl
      obtain ⟨r, hr⟩ := readGroups_ok_iff.mpr ⟨opening, later, rfl, ho, hlater⟩
      exact ⟨r, read_eq_ok_iff.mpr ⟨_, hl, hr⟩⟩
  · intro field suffix raw op value hf ho hv
    exact make_of_readConstant hf (comparing?_eq_some_iff.mp ho).2 hv
  · intro g op cs rs ho
    exact make_of_isLogical (combining?_eq_some_iff.mp ho).2 cs rs

end Stored
end RecordRules
