import RecordRules.Proofs.Rule.Shape
import RecordRules.Proofs.Stored.Grammar
import RecordRules.Proofs.Stored.Typing

/-!
# RecordRules.Proofs.Stored.RoundTrip

Reading what was written.

* `Clean` conditions are free of the characters that structure a stored rule. `Storable` ones may
  hold brackets as long as those of the whole condition balance, which is all the reading needs.
* `read_write_of_storable`: without a marker in it, the text of a storable rule is read as the rule
  retyped and flattened.
* `read_stored_of_clean`: the same for clean rules, with the fault where a value of the numeric
  field is no number, and the rule itself where nothing is left to retype or to flatten.
-/

namespace RecordRules

namespace Constant

/-- The items of a list hold no bars, and a list of one empty text, which is written like an empty
list, is not meant. -/
def ListPlain : Constant → Prop
  | .array items => (∀ s ∈ items, '|' ∉ s.rendered) ∧ items.map Scalar.rendered ≠ [[]]
  | _ => True

instance (v : Constant) : Decidable v.ListPlain :=
  match v with
  | .array _ => inferInstanceAs (Decidable (_ ∧ _))
  | .single _ => isTrue trivial
  | .pattern _ => isTrue trivial

end Constant

namespace Condition

/-- Free of underscores and brackets, and of tildes in the value. -/
structure Clean (c : Condition) : Prop where
  field_plain : '_' ∉ c.field.toList ∧ '[' ∉ c.field.toList ∧ ']' ∉ c.field.toList
  value_plain : ∀ t ∈ c.value.texts, '_' ∉ t ∧ '[' ∉ t ∧ ']' ∉ t ∧ '~' ∉ t
  list_plain : c.value.ListPlain

/-- As `Clean`, but with brackets that balance. -/
structure Storable (c : Condition) : Prop where
  field_plain : '_' ∉ c.field.toList
  value_plain : ∀ t ∈ c.value.texts, '_' ∉ t ∧ '~' ∉ t
  list_plain : c.value.ListPlain
  balanced : Stored.Balanced (Stored.conditionText c)

instance (c : Condition) : Decidable c.Clean :=
  decidable_of_iff (_ ∧ _ ∧ _) ⟨fun ⟨h, h', h''⟩ => ⟨h, h', h''⟩, fun ⟨h, h', h''⟩ => ⟨h, h', h''⟩⟩

end Condition

namespace Stored

/-! ## Constants -/

theorem fits_single {s : Scalar} {op : Operator} (h : (Constant.single s).fits op = true) :
    op.kind ≠ .text ∧ op.isMembership = false := by
  simp only [Constant.fits, Bool.and_eq_true, beq_iff_eq, Bool.not_eq_true'] at h
  exact ⟨by rw [h.1]; decide, h.2⟩

theorem fits_array {items : List Scalar} {op : Operator}
    (h : (Constant.array items).fits op = true) : op.kind ≠ .text ∧ op.isMembership = true :=
  ⟨by rw [Operator.kind_of_isMembership h]; decide, h⟩

theorem fits_pattern {p : String} {op : Operator} (h : (Constant.pattern p).fits op = true) :
    op.kind = .text := by
  simpa [Constant.fits] using h

theorem readScalar_rendered {f : StoredFormat} {field : String} {s : Scalar}
    (ht : '~' ∉ s.rendered)
    (hn : field = f.numericField → (Number.read? s.rendered).isSome = true) :
    readScalar f field.toList (escape s.rendered) = .ok (s.retyped f field) := by
  rw [readScalar, Scalar.retyped, unescape_escape ht]
  by_cases hf : field = f.numericField
  · obtain ⟨n, h⟩ := Option.isSome_iff_exists.mp (hn hf)
    rw [if_pos hf, if_pos (by rw [hf]), h]
  · rw [if_neg hf, if_neg fun e => hf (String.toList_inj.mp e)]

theorem pieces_escape_array {items : List Scalar} (hne : items ≠ [])
    (hbar : ∀ s ∈ items, '|' ∉ s.rendered) :
    Text.pieces '|' (escape (constantText (.array items))) =
      items.map fun s => escape s.rendered := by
  rw [constantText, escape, Text.substitute_joined (by decide), List.map_map]
  refine Text.pieces_joined (by simpa using hne) fun p hp => ?_
  obtain ⟨s, hs, rfl⟩ := List.mem_map.mp hp
  exact fun h => hbar s hs ((mem_escape_iff (by decide) (by decide)).mp h)

theorem escape_array_eq_nil_iff {items : List Scalar} (hone : items.map Scalar.rendered ≠ [[]]) :
    escape (constantText (.array items)) = [] ↔ items = [] := by
  rw [constantText, escape, Text.substitute_eq_nil_iff, Text.joined_eq_nil_iff,
    List.map_eq_nil_iff]
  exact or_iff_left hone

theorem readConstant_written {f : StoredFormat} {c : Condition} (hv : c.Valid) (hs : c.Storable)
    (hn : c.RendersNumbers f) :
    readConstant f c.field.toList c.operator (escape (constantText c.value)) =
      .ok (c.value.mapScalars (Scalar.retyped f c.field)) := by
  have hfit := hv.value_fits
  have htext := hs.value_plain
  have hlist := hs.list_plain
  rw [Condition.RendersNumbers] at hn
  rw [readConstant]
  cases hval : c.value with
  | pattern p =>
    rw [hval] at hfit htext
    rw [if_pos (fits_pattern hfit), constantText,
      unescape_escape (htext p.toList (by simp [Constant.texts])).2, String.ofList_toList]
    rfl
  | single s =>
    rw [hval] at hfit htext hn
    obtain ⟨hk, hm⟩ := fits_single hfit
    rw [if_neg hk, if_neg (by rw [hm]; decide), constantText,
      readScalar_rendered (htext s.rendered (by simp [Constant.texts])).2
        fun hf => hn hf s (by simp [Constant.scalars])]
    rfl
  | array items =>
    rw [hval] at hfit htext hlist hn
    obtain ⟨hbar, hone⟩ := hlist
    obtain ⟨hk, hm⟩ := fits_array hfit
    rw [if_neg hk, if_pos hm]
    by_cases he : items = []
    · rw [if_pos (by rw [List.isEmpty_iff]; exact (escape_array_eq_nil_iff hone).mpr he), he]
      rfl
    · have hread : ∀ s ∈ items, readScalar f c.field.toList (escape s.rendered) =
          .ok (s.retyped f c.field) := fun s hs =>
        readScalar_rendered (htext s.rendered (List.mem_map_of_mem hs)).2 fun hf => hn hf s hs
      rw [if_neg (by rw [List.isEmpty_iff, escape_array_eq_nil_iff hone]; exact he),
        pieces_escape_array he hbar, readScalars_map hread]
      rfl

/-- A written value holds numbers exactly where every value in it has the text of one. -/
theorem holdsNumbers_written_iff {c : Condition} (hv : c.Valid) (hs : c.Storable)
    (hk : c.operator.kind ≠ .text) :
    HoldsNumbers c.operator (escape (constantText c.value)) ↔
      ∀ s ∈ c.value.scalars, (Number.read? s.rendered).isSome = true := by
  have hfit := hv.value_fits
  have htext := hs.value_plain
  have hlist := hs.list_plain
  rw [HoldsNumbers]
  cases hval : c.value with
  | pattern p =>
    rw [hval] at hfit
    exact absurd (fits_pattern hfit) hk
  | single s =>
    rw [hval] at hfit htext
    rw [if_neg (by rw [(fits_single hfit).2]; decide), constantText,
      unescape_escape (htext s.rendered (by simp [Constant.texts])).2]
    simp [Constant.scalars]
  | array items =>
    rw [hval] at hfit htext hlist
    obtain ⟨hbar, hone⟩ := hlist
    rw [if_pos (fits_array hfit).2, escape_array_eq_nil_iff hone]
    by_cases he : items = []
    · simp [he, Constant.scalars]
    · rw [or_iff_right he, pieces_escape_array he hbar, List.forall_mem_map]
      refine forall₂_congr fun s hs => ?_
      rw [unescape_escape (htext s.rendered (List.mem_map_of_mem hs)).2]

/-! ## Conditions -/

theorem pieces_conditionText {c : Condition} (hf : '_' ∉ c.field.toList)
    (ht : ∀ t ∈ c.value.texts, '_' ∉ t) :
    Text.pieces '_' (conditionText c) =
      [c.field.toList, c.operator.suffix.toList, escape (constantText c.value)] :=
  pieces_eq_three_iff.mpr ⟨rfl, hf, c.operator.suffix_plain.1, not_mem_escape_constantText ht⟩

theorem pieces_of_storable {c : Condition} (hs : c.Storable) :
    Text.pieces '_' (conditionText c) =
      [c.field.toList, c.operator.suffix.toList, escape (constantText c.value)] :=
  pieces_conditionText hs.field_plain fun t ht => (hs.value_plain t ht).1

theorem readCondition_written {f : StoredFormat} {c : Condition} (hv : c.Valid) (hs : c.Storable)
    (hn : c.RendersNumbers f) : readCondition f (conditionText c) = .ok (c.retyped f) := by
  refine readCondition_eq_ok_iff.mpr ⟨_, _, _, _, pieces_of_storable hs, hv.field_named,
    hv.operator_compares, readConstant_written hv hs hn, ?_⟩
  rw [String.ofList_toList]
  rfl

theorem rendersNumbers_of_readCondition {f : StoredFormat} {c c' : Condition} (hv : c.Valid)
    (hs : c.Storable) (h : readCondition f (conditionText c) = .ok c') :
    c.RendersNumbers f := by
  intro hf s hmem
  obtain ⟨field, op, raw, value, hp, _, _, hr, _⟩ := readCondition_eq_ok_iff.mp h
  rw [pieces_of_storable hs] at hp
  simp only [List.cons.injEq, and_true] at hp
  obtain ⟨rfl, hop, rfl⟩ := hp
  rw [← Operator.suffix_inj (String.toList_inj.mp hop)] at hr
  by_cases hk : c.operator.kind = .text
  · have hfit := hv.value_fits
    cases hval : c.value with
    | pattern p => rw [hval] at hmem; cases hmem
    | single s' => rw [hval] at hfit; exact absurd hk (fits_single hfit).1
    | array items => rw [hval] at hfit; exact absurd hk (fits_array hfit).1
  · have hnum := readConstant_ok_iff.mp ⟨value, hr⟩ (by rw [hf]) hk
    exact (holdsNumbers_written_iff hv hs hk).mp hnum s hmem

/-! ## Rules -/

/-- Without a marker in it, a written rule is read group by group. -/
theorem read_write_eq {f : StoredFormat} {r : Rule} (h : ∀ g ∈ groupsOf r, Balanced g)
    (hm : ¬f.marker.toList <:+: write r) : read f (write r) = readGroups f (groupsOf r) := by
  obtain ⟨rest, hs⟩ := write_starts r
  have he : (write r).isEmpty = false := by rw [hs]; rfl
  simp only [read, body_write hm, he, groups_eq_ok_iff.mpr (laid_write h).grouped,
    Bool.false_eq_true, if_false]

theorem balanced_groupsOf {r : Rule}
    (hs : ∀ d ∈ r.subrules, ∀ c ∈ d.conditions, c.Storable) : ∀ g ∈ groupsOf r, Balanced g := by
  rw [groupsOf_eq, List.forall_mem_map, forall_mem_parts]
  intro d hd
  exact ⟨balanced_token d.operator, fun c hc => (hs d hd c hc).balanced⟩

/-- Without a marker in it, the text of a storable rule whose values under the numeric field are
numbers is read as the rule retyped and flattened. -/
theorem read_write_of_storable {f : StoredFormat} {r : Rule} (hv : r.Valid)
    (hs : ∀ d ∈ r.subrules, ∀ c ∈ d.conditions, c.Storable)
    (hm : ¬f.marker.toList <:+: write r) (hn : r.RendersNumbers f) :
    read f (write r) = .ok (r.retyped f).flattened := by
  have hread : ∀ p ∈ parts r, readPart f p.text = .ok (p.mapCondition (Condition.retyped f)) := by
    refine forall_mem_parts.mpr fun d hd => ?_
    obtain ⟨hl, hcs⟩ := Rule.valid_iff.mp hv d hd
    constructor
    · exact readPart_eq_opening_iff.mpr (combining?_eq_some_iff.mpr ⟨rfl, hl⟩)
    · intro c hc
      exact readPart_eq_condition_iff.mpr
        (readCondition_written (hcs c hc) (hs d hd c hc) (hn d hd c hc))
  rw [read_write_eq (balanced_groupsOf hs) hm, readGroups_eq_ok_iff]
  refine ⟨Rule.isFlat_flattened _, ?_⟩
  rw [parts_flattened, Rule.retyped, parts_mapConditions, groupsOf_eq, List.map_map, List.map_map]
  exact List.map_congr_left hread

/-- Where a value under the numeric field is no number, reading the text is a fault. -/
theorem read_write_error_of_storable {f : StoredFormat} {r : Rule} (hv : r.Valid)
    (hs : ∀ d ∈ r.subrules, ∀ c ∈ d.conditions, c.Storable)
    (hm : ¬f.marker.toList <:+: write r) (hn : ¬r.RendersNumbers f) :
    ∃ fault, read f (write r) = .error (.parse fault) := by
  cases h : read f (write r) with
  | error e =>
    obtain ⟨fault, rfl⟩ := read_error h
    exact ⟨fault, rfl⟩
  | ok r' =>
    rw [read_write_eq (balanced_groupsOf hs) hm] at h
    -- every group was read, so every condition was
    have hread : ∀ p ∈ parts r, ∃ p', readPart f p.text = .ok p' := by
      have hg : ∀ g ∈ groupsOf r, ∃ p', readPart f g = .ok p' := fun g hg =>
        exists_part_of_mem_groups h hg
      rwa [groupsOf_eq, List.forall_mem_map] at hg
    refine absurd (fun d hd c hc => ?_) hn
    obtain ⟨p', hp⟩ := (forall_mem_parts.mp hread d hd).2 c hc
    have hsc := hs d hd c hc
    rw [Part.text, readPart, combining?_of_pieces (pieces_of_storable hsc)] at hp
    cases hcond : readCondition f (conditionText c) with
    | error e => rw [hcond] at hp; cases hp
    | ok c' => exact rendersNumbers_of_readCondition ((Rule.valid_iff.mp hv d hd).2 c hc) hsc hcond

theorem storable_of_clean {c : Condition} (h : c.Clean) : c.Storable := by
  have hplain : brackets (conditionText c) = [] := by
    rw [brackets_conditionText, List.append_eq_nil_iff, List.flatMap_eq_nil_iff]
    refine ⟨brackets_eq_nil_iff.mpr h.field_plain.2, fun t ht => ?_⟩
    obtain ⟨-, ho, hc, -⟩ := h.value_plain t ht
    exact brackets_eq_nil_iff.mpr ⟨ho, hc⟩
  obtain ⟨ho, hc⟩ := brackets_eq_nil_iff.mp hplain
  exact ⟨h.field_plain.1, fun t ht => ⟨(h.value_plain t ht).1, (h.value_plain t ht).2.2.2⟩,
    h.list_plain, .of_not_mem ho hc⟩

/-- **Reading what was written.** The text of a clean rule, where no marker is in it, is read as the
rule with its values retyped and everything nested in it directly below the root. A value under
the numeric field that is no number is a parse fault instead. A rule with one level of nesting at
most whose values are typed as the reading types them is read back as it was. -/
theorem read_stored_of_clean {f : StoredFormat} {r : Rule} (hv : r.Valid)
    (hc : ∀ d ∈ r.subrules, ∀ c ∈ d.conditions, c.Clean)
    (hm : ¬f.marker.toList <:+: r.stored.toList) :
    (r.RendersNumbers f → f.read r.stored = .ok (r.retyped f).flattened) ∧
    (¬r.RendersNumbers f → ∃ fault, f.read r.stored = .error (.parse fault)) ∧
    (r.IsFlat → r.AsRead f → f.read r.stored = .ok r) := by
  have hs : ∀ d ∈ r.subrules, ∀ c ∈ d.conditions, c.Storable :=
    fun d hd c hcd => storable_of_clean (hc d hd c hcd)
  have hstored : r.stored.toList = write r := String.toList_ofList
  rw [StoredFormat.read, hstored]
  rw [hstored] at hm
  refine ⟨read_write_of_storable hv hs hm, read_write_error_of_storable hv hs hm,
    fun hflat hread => ?_⟩
  obtain ⟨hn, hsame⟩ := Rule.asRead_iff.mp hread
  rw [read_write_of_storable hv hs hm hn, hsame, Rule.flattened_eq_self hflat]

/-- Three levels of rules, with a number written as text and numbers where text is expected. -/
def deepRule : Rule :=
  .node .and
    [⟨"Experience", .gt, .single (.text " 5")⟩,
      ⟨"city", .member, .array [.text "New York", .number (.signed 7)]⟩]
    [.node .or [⟨"Title", .ilike, .pattern "man"⟩]
      [.node .not [⟨"active", .eq, .single (.bool true)⟩] []]]

theorem read_stored_deepRule :
    deepRule.Valid ∧ (∀ d ∈ deepRule.subrules, ∀ c ∈ d.conditions, c.Clean) ∧
      ¬StoredFormat.standard.marker.toList <:+: deepRule.stored.toList ∧
      deepRule.RendersNumbers .standard ∧
      StoredFormat.standard.read deepRule.stored = .ok (.node .and
        [⟨"Experience", .gt, .single (.number (.signed 5))⟩,
          ⟨"city", .member, .array [.text "New York", .text "7"]⟩]
        [.node .or [⟨"Title", .ilike, .pattern "man"⟩] [],
          .node .not [⟨"active", .eq, .single (.text "true")⟩] []]) := by
  have hv : deepRule.Valid := by decide
  have hc : ∀ d ∈ deepRule.subrules, ∀ c ∈ d.conditions, c.Clean := by decide
  have hm : ¬StoredFormat.standard.marker.toList <:+: deepRule.stored.toList := by
    rw [← Text.occursIn_iff]
    decide
  have hn : deepRule.RendersNumbers .standard := by
    unfold Rule.RendersNumbers Condition.RendersNumbers
    decide
  exact ⟨hv, hc, hm, hn, (read_stored_of_clean hv hc hm).1 hn⟩

end Stored
end RecordRules
