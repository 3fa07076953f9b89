import RecordRules.Proofs.Lists
import RecordRules.Proofs.Stored.Resaving

/-!
# RecordRules.Proofs.Stored.Sections

Where everything in a text goes when it is read. The groups of a text fall into sections, each an
opening and the groups behind it that are none; the first section is read as the root, and every
other one as a rule nested in it, group by group and in order (`read_by_sections`). The type of a
value depends on the field alone.
-/

namespace RecordRules

/-- Numbers that are finite under the numeric field, text under every other field. -/
def Scalar.TypedBy (f : StoredFormat) (field : String) : Scalar → Prop
  | .number n => field = f.numericField ∧ ∀ x, n = .float x → x.isFinite = true
  | .text _ => field ≠ f.numericField
  | .bool _ => False

namespace Stored

/-- An opening, and the groups behind it that belong to it. -/
structure Section where
  opening : List Char
  conditions : List (List Char)

def Section.groups (s : Section) : List (List Char) :=
  s.opening :: s.conditions

/-- The field and the operator of a condition are the first two parts of its group, and the third
is read as its value. -/
def Spells (f : StoredFormat) (g : List Char) (c : Condition) : Prop :=
  ∃ raw, g = c.field.toList ++ '_' :: (c.operator.suffix.toList ++ '_' :: raw) ∧
    '_' ∉ c.field.toList ∧ '_' ∉ raw ∧ c.operator.isLogical = false ∧
    readConstant f c.field.toList c.operator raw = .ok c.value

/-- The rule has the operator that opens the section, and the conditions that stand in it. -/
structure Section.ReadAs (f : StoredFormat) (s : Section) (d : Rule) : Prop where
  opens : s.opening = d.operator.token.toList
  combines : d.operator.isLogical = true
  spells : List.Forall₂ (Spells f) s.conditions d.conditions

/-! ## Groups -/

theorem spells_of_readCondition {f : StoredFormat} {g : List Char} {c : Condition}
    (h : readCondition f g = .ok c) : Spells f g c := by
  obtain ⟨field, op, raw, value, hp, -, hl, hr, rfl⟩ := readCondition_eq_ok_iff.mp h
  obtain ⟨hg, hf, -, hu⟩ := pieces_eq_three_iff.mp hp
  refine ⟨raw, ?_, ?_, hu, hl, ?_⟩
  · rw [String.toList_ofList]
    exact hg
  · rw [String.toList_ofList]
    exact hf
  · rw [String.toList_ofList]
    exact hr

/-- An opening has one underscore and a condition two. -/
theorem not_isOpening_of_spells {f : StoredFormat} {g : List Char} {c : Condition}
    (h : Spells f g c) : ¬IsOpening g := by
  intro ho
  obtain ⟨raw, hg, hf, hu, -, -⟩ := h
  obtain ⟨op, hop⟩ := isOpening_iff.mp ho
  rw [combining?_of_pieces (pieces_eq_three_iff.mpr
    ⟨hg, hf, c.operator.suffix_plain.1, hu⟩)] at hop
  cases hop

theorem Section.ReadAs.isOpening {f : StoredFormat} {s : Section} {d : Rule}
    (h : s.ReadAs f d) : IsOpening s.opening :=
  isOpening_iff.mpr ⟨d.operator, combining?_eq_some_iff.mpr ⟨h.opens, h.combines⟩⟩

theorem Section.ReadAs.not_isOpening {f : StoredFormat} {s : Section} {d : Rule}
    (h : s.ReadAs f d) : ∀ g ∈ s.conditions, ¬IsOpening g := by
  intro g hg
  obtain ⟨c, -, hc⟩ := exists_mem_of_forall₂ h.spells g hg
  exact not_isOpening_of_spells hc

/-! ## Sections -/

/-- Groups that are read as the parts of rules fall into a section for each of them. -/
theorem exists_sections {f : StoredFormat} {ds : List Rule} :
    ∀ {gs : List (List Char)}, gs.map (readPart f) = (ds.flatMap ownParts).map .ok →
      ∃ sections, gs = sections.flatMap Section.groups ∧
        List.Forall₂ (Section.ReadAs f) sections ds := by
  induction ds with
  | nil =>
    intro gs h
    exact ⟨[], List.map_eq_nil_iff.mp h, .nil⟩
  | cons d ds ih =>
    intro gs h
    rw [List.flatMap_cons, List.map_append, List.map_eq_append_iff] at h
    obtain ⟨own, rest, rfl, hown, hrest⟩ := h
    rw [ownParts, List.map_cons] at hown
    obtain ⟨opening, conditions, rfl, hopening, hconditions⟩ := List.map_eq_cons_iff.mp hown
    obtain ⟨sections, rfl, hsections⟩ := ih hrest
    rw [List.map_map, map_eq_map_iff_forall₂] at hconditions
    have hspells : List.Forall₂ (Spells f) conditions d.conditions :=
      hconditions.imp fun g c hg => spells_of_readCondition (readPart_eq_condition_iff.mp hg)
    obtain ⟨ho, hl⟩ := combining?_eq_some_iff.mp (readPart_eq_opening_iff.mp hopening)
    exact ⟨⟨opening, conditions⟩ :: sections, rfl, .cons ⟨ho, hl, hspells⟩ hsections⟩

theorem length_flatMap_ownParts (ds : List Rule) :
    (ds.flatMap ownParts).length = ds.length + (ds.flatMap Rule.conditions).length := by
  induction ds with
  | nil => rfl
  | cons d ds ih =>
    rw [List.flatMap_cons, List.length_append, ih, ownParts, List.length_cons, List.length_map,
      List.length_cons, List.flatMap_cons, List.length_append]
    omega

/-! ## Values -/

theorem typedBy_of_readScalar {f : StoredFormat} {field raw : List Char} {s : Scalar}
    (h : readScalar f field raw = .ok s) : s.TypedBy f (String.ofList field) := by
  have hfield : String.ofList field = f.numericField ↔ field = f.numericField.toList := by
    rw [← String.toList_inj, String.toList_ofList]
  have hs := readScalar_eq_ok_iff.mp h
  split at hs
  · rename_i hf
    obtain ⟨n, hn, rfl⟩ := hs
    refine ⟨hfield.mpr hf, fun x hx => ?_⟩
    rw [hx] at hn
    exact Number.isFinite_of_read? hn
  · rename_i hf
    rw [hs]
    exact fun he => hf (hfield.mp he)

/-- The values of a condition that was read have the type of its field, and nothing in their texts
that would be read as part of the format. -/
theorem values_of_readCondition {f : StoredFormat} {g : List Char} {c : Condition}
    (h : readCondition f g = .ok c) :
    (∀ s ∈ c.value.scalars, s.TypedBy f c.field) ∧
      (∀ t ∈ c.value.texts, '_' ∉ t ∧ '~' ∉ t) ∧
      ∀ items, c.value = .array items → ∀ s ∈ items, '|' ∉ s.rendered := by
  refine ⟨fun s hs => ?_, (plain_of_readCondition h).2, fun items hitems => ?_⟩
  · obtain ⟨field, op, raw, value, -, -, -, hr, rfl⟩ := readCondition_eq_ok_iff.mp h
    obtain ⟨piece, hread, -⟩ := exists_piece_of_mem_scalars hr hs
    exact typedBy_of_readScalar hread
  · obtain ⟨field, op, raw, value, -, -, -, hr, rfl⟩ := readCondition_eq_ok_iff.mp h
    have hplain := listPlain_of_readConstant hr
    obtain rfl : value = .array items := hitems
    exact hplain.1

/-! ## Texts -/

/-- **Reading loses, doubles and moves nothing, and types values by their fields.** The groups of a
text that is read are the sections of the rule: the first is its root, and each later one a rule
nested in the root, with the operator that opens the section and a condition for each other group
in it, in order. So there are as many groups as rules and conditions together. Every value is a
finite number under the numeric field and a text elsewhere, without underscores and tildes, and
without bars in a list. -/
theorem read_by_sections {f : StoredFormat} {text : String} {r : Rule} (h : f.read text = .ok r) :
    ∃ b sections, IsBody f text.toList b ∧ Laid (sections.flatMap Section.groups) b ∧
      (∀ s ∈ sections, IsOpening s.opening ∧ ∀ g ∈ s.conditions, ¬IsOpening g) ∧
      List.Forall₂ (Section.ReadAs f) sections (r :: r.nested) ∧
      (∀ n ∈ r.nested, n.nested = []) ∧
      (sections.flatMap Section.groups).length =
        r.subrules.length + (r.subrules.flatMap Rule.conditions).length ∧
      ∀ d ∈ r.subrules, ∀ c ∈ d.conditions,
        (∀ s ∈ c.value.scalars, s.TypedBy f c.field) ∧
          (∀ t ∈ c.value.texts, '_' ∉ t ∧ '~' ∉ t) ∧
          ∀ items, c.value = .array items → ∀ s ∈ items, '|' ∉ s.rendered := by
  obtain ⟨gs, hl, hr⟩ := read_eq_ok_iff.mp h
  obtain ⟨hflat, hparts⟩ := readGroups_eq_ok_iff.mp hr
  have hlength := congrArg List.length hparts
  rw [List.length_map, List.length_map, parts, length_flatMap_ownParts] at hlength
  rw [parts] at hparts
  obtain ⟨sections, rfl, hsections⟩ := exists_sections hparts
  have hopen : ∀ s ∈ sections, IsOpening s.opening ∧ ∀ g ∈ s.conditions, ¬IsOpening g := by
    intro s hs
    obtain ⟨d, -, hd⟩ := exists_mem_of_forall₂ hsections s hs
    exact ⟨hd.isOpening, hd.not_isOpening⟩
  refine ⟨_, sections, isBody_iff.mpr rfl, hl, hopen, ?_, hflat, hlength, fun d hd c hc => ?_⟩
  · rw [Rule.subrules_eq, Rule.descendants_of_isFlat hflat] at hsections
    exact hsections
  · obtain ⟨g, -, hg⟩ := exists_group_of_read h d hd c hc
    exact values_of_readCondition hg

/-- Three sections, the last of them empty; a bracket in a field, a tilde in a value. -/
def sectionedText : String :=
  "old query: [_or] [a[b]_in_x~y||[z]][Experience_gt_-5] [_not][Experience_like_1~e][_and]"

def sectionedRule : Rule :=
  .node .or
    [⟨"a[b]", .member, .array [.text "x y", .text "", .text "[z]"]⟩,
      ⟨"Experience", .gt, .single (.number (.signed (-5)))⟩]
    [.node .not [⟨"Experience", .like, .pattern "1 e"⟩] [], .node .and [] []]

theorem read_by_sections_sectionedText :
    StoredFormat.standard.read sectionedText = .ok sectionedRule ∧
      ∃ b sections, IsBody .standard sectionedText.toList b ∧
        Laid (sections.flatMap Section.groups) b ∧
        List.Forall₂ (Section.ReadAs .standard) sections (sectionedRule :: sectionedRule.nested) ∧
        (sections.flatMap Section.groups).length = 6 := by
  have h : StoredFormat.standard.read sectionedText = .ok sectionedRule := by rfl
  obtain ⟨b, sections, hb, hl, -, hsections, -, hlength, -⟩ := read_by_sections h
  exact ⟨h, b, sections, hb, hl, hsections, hlength⟩

end Stored
end RecordRules
