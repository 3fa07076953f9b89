import RecordRules.Proofs.Number.Integer
import RecordRules.Proofs.Stored.Resaving
import RecordRules.Settings
import Mathlib.Data.List.Infix

/-!
# RecordRules.Proofs.Stored.Marker

Markers that validated settings may have, and the rules that are read back under them.

Nothing but an empty marker is refused, so the marker may be a bracket, an underscore or the name
of an operator, and then it is found in what the writing itself puts into the text.

* `infix_write_iff`: a marker without structuring characters, which is in no field and in no value,
  is in the text of a rule only as a part of the name of one of its operators.
* `read_stored_of_validate`: a rule that is typed as the reading types it is read back exactly when
  its text does not hold the marker.
* `not_read_stored_of_validate`: settings that pass, and a rule that is lost under them.
-/

namespace RecordRules

/-- A text off the numeric field, or a signed number on it. -/
def Scalar.Typed (f : StoredFormat) (field : String) : Scalar → Prop
  | .text _ => field ≠ f.numericField
  | .number (.signed _) => field = f.numericField
  | _ => False

instance (f : StoredFormat) (field : String) (s : Scalar) : Decidable (s.Typed f field) :=
  match s with
  | .text _ => inferInstanceAs (Decidable (_ ≠ _))
  | .number (.signed _) => inferInstanceAs (Decidable (_ = _))
  | .number (.unsigned _) => isFalse id
  | .number (.float _) => isFalse id
  | .bool _ => isFalse id

theorem Scalar.Typed.asRead {f : StoredFormat} {field : String} {s : Scalar}
    (h : s.Typed f field) : s.AsRead f field := by
  cases s with
  | text t => exact h
  | bool b => cases h
  | number n =>
    cases n with
    | signed n => exact ⟨h, Number.read?_text_signed n⟩
    | unsigned n => cases h
    | float x => cases h

/-- The marker is neither in the field nor in a value, be it as given or as written. -/
structure Condition.Unmarked (f : StoredFormat) (c : Condition) : Prop where
  field : ¬f.marker.toList <:+: c.field.toList
  texts : ∀ t ∈ c.value.texts, ¬f.marker.toList <:+: t
  written : ¬f.marker.toList <:+: Stored.escape (Stored.constantText c.value)

/-- Clean, without the marker, and typed as the reading types it. -/
structure Condition.Sound (f : StoredFormat) (c : Condition) : Prop where
  clean : c.Clean
  typed : ∀ s ∈ c.value.scalars, s.Typed f c.field
  unmarked : c.Unmarked f

instance (f : StoredFormat) (c : Condition) : Decidable (c.Unmarked f) :=
  decidable_of_iff (_ ∧ _ ∧ _) ⟨fun ⟨h, h', h''⟩ => ⟨h, h', h''⟩, fun ⟨h, h', h''⟩ => ⟨h, h', h''⟩⟩

instance (f : StoredFormat) (c : Condition) : Decidable (c.Sound f) :=
  decidable_of_iff (_ ∧ _ ∧ _) ⟨fun ⟨h, h', h''⟩ => ⟨h, h', h''⟩, fun ⟨h, h', h''⟩ => ⟨h, h', h''⟩⟩

/-- A marker of none of the characters that structure a stored rule. -/
def StoredFormat.PlainMarker (f : StoredFormat) : Prop :=
  '_' ∉ f.marker.toList ∧ '[' ∉ f.marker.toList ∧ ']' ∉ f.marker.toList

instance (f : StoredFormat) : Decidable f.PlainMarker :=
  inferInstanceAs (Decidable (_ ∧ _))

theorem Settings.marker_ne_of_validate {s : Settings} (h : s.validate = .ok ()) :
    s.format.marker ≠ "" := by
  intro he
  rw [validate, StoredFormat.validate, he] at h
  cases h

namespace Stored

/-! ## Where a marker can be -/

section Infix

variable {m : List Char}

theorem infix_flatMap_bracketed_iff (hne : m ≠ []) (ho : '[' ∉ m) (hc : ']' ∉ m)
    {gs : List (List Char)} : m <:+: gs.flatMap bracketed ↔ ∃ g ∈ gs, m <:+: g := by
  induction gs with
  | nil => simp [hne]
  | cons g gs ih =>
    rw [List.flatMap_cons, bracketed_append, Text.infix_cons_sep_iff ho hne,
      Text.infix_append_cons_iff hc, ih]
    simp

theorem infix_token_iff (hne : m ≠ []) (hu : '_' ∉ m) (op : Operator) :
    m <:+: op.token.toList ↔ m <:+: op.suffix.toList := by
  rw [Operator.toList_token, Text.infix_cons_sep_iff hu hne]

theorem infix_conditionText_iff (hu : '_' ∉ m) {c : Condition} (hf : ¬m <:+: c.field.toList)
    (hw : ¬m <:+: escape (constantText c.value)) :
    m <:+: conditionText c ↔ m <:+: c.operator.suffix.toList := by
  rw [conditionText, Text.infix_append_cons_iff hu, Text.infix_append_cons_iff hu,
    or_iff_right hf, or_iff_left hw]

end Infix

/-- A marker that is not written with the fields and the values is written with an operator. -/
theorem infix_write_iff {f : StoredFormat} {r : Rule} (hne : f.marker ≠ "") (hp : f.PlainMarker)
    (hm : ∀ d ∈ r.subrules, ∀ c ∈ d.conditions, c.Unmarked f) :
    f.marker.toList <:+: write r ↔ ∃ p ∈ parts r, f.marker.toList <:+: p.operator.suffix.toList := by
  obtain ⟨hu, ho, hc⟩ := hp
  have hnil : f.marker.toList ≠ [] := by simpa using hne
  have htext : ∀ p ∈ parts r,
      (f.marker.toList <:+: p.text ↔ f.marker.toList <:+: p.operator.suffix.toList) := by
    refine forall_mem_parts.mpr ?_
    intro d hd
    constructor
    · exact infix_token_iff hnil hu d.operator
    · intro c hcd
      exact infix_conditionText_iff hu (hm d hd c hcd).field (hm d hd c hcd).written
  rw [write, groupsOf_eq, infix_flatMap_bracketed_iff hnil ho hc]
  constructor
  · rintro ⟨g, hg, hin⟩
    obtain ⟨p, hp, rfl⟩ := List.mem_map.mp hg
    exact ⟨p, hp, (htext p hp).mp hin⟩
  · rintro ⟨p, hp, hin⟩
    exact ⟨p.text, List.mem_map_of_mem hp, (htext p hp).mpr hin⟩

/-! ## Rules that are read back -/

theorem read_write_iff_of_sound {f : StoredFormat} {r : Rule} (hne : f.marker ≠ "")
    (hv : r.Valid) (hflat : r.IsFlat) (hc : ∀ d ∈ r.subrules, ∀ c ∈ d.conditions, c.Sound f) :
    read f (write r) = .ok r ↔ ¬f.marker.toList <:+: write r := by
  have hs : ∀ d ∈ r.subrules, ∀ c ∈ d.conditions, c.Storable := by
    intro d hd c hcd
    exact storable_of_clean (hc d hd c hcd).clean
  have hread : r.AsRead f := by
    intro d hd c hcd s hsc
    exact ((hc d hd c hcd).typed s hsc).asRead
  obtain ⟨hn, hsame⟩ := Rule.asRead_iff.mp hread
  constructor
  · intro h hm
    exact read_write_ne_ok hne hm h
  · intro hm
    rw [read_write_of_storable hv hs hm hn, hsame, Rule.flattened_eq_self hflat]

/-- **Reading under validated settings.** A rule is read back exactly when the marker is not in its
text. Where the marker has no structuring characters, that is when it is not in the name of an
operator of the rule. -/
theorem read_stored_of_validate {s : Settings} {r : Rule} (hs : s.validate = .ok ())
    (hv : r.Valid) (hflat : r.IsFlat)
    (hc : ∀ d ∈ r.subrules, ∀ c ∈ d.conditions, c.Sound s.format) :
    (s.format.read r.stored = .ok r ↔ ¬s.format.marker.toList <:+: r.stored.toList) ∧
    (s.format.PlainMarker →
      (s.format.read r.stored = .ok r ↔
        ∀ p ∈ parts r, ¬s.format.marker.toList <:+: p.operator.suffix.toList)) := by
  have hne := Settings.marker_ne_of_validate hs
  have hread := read_write_iff_of_sound hne hv hflat hc
  rw [StoredFormat.read, Rule.stored, String.toList_ofList]
  refine ⟨hread, ?_⟩
  intro hp
  rw [hread, infix_write_iff hne hp fun d hd c hcd => (hc d hd c hcd).unmarked]
  simp

/-- Settings with a field and a marker of their own. -/
def ratedSettings : Settings :=
  ⟨⟨"Rating", "rule="⟩, .standard⟩

/-- A number on the numeric field, texts with spaces and a list, one level of nesting. -/
def ratedRule : Rule :=
  .node .and [⟨"Rating", .gte, .single (.number (.signed (-3)))⟩]
    [.node .or [⟨"city", .member, .array [.text "New York", .text "Rome"]⟩,
      ⟨"Title", .ilike, .pattern "old man"⟩] []]

theorem read_stored_of_validate_ratedRule :
    ratedSettings.validate = .ok () ∧ ratedRule.Valid ∧ ratedRule.IsFlat ∧
      (∀ d ∈ ratedRule.subrules, ∀ c ∈ d.conditions, c.Sound ratedSettings.format) ∧
      ratedSettings.format.PlainMarker ∧
      ratedSettings.format.read ratedRule.stored = .ok ratedRule := by
  have hs : ratedSettings.validate = .ok () := by rfl
  have hv : ratedRule.Valid := by decide
  have hflat : ratedRule.IsFlat := by unfold Rule.IsFlat; decide
  have hc : ∀ d ∈ ratedRule.subrules, ∀ c ∈ d.conditions, c.Sound ratedSettings.format := by
    decide +kernel
  have hp : ratedSettings.format.PlainMarker := by decide
  refine ⟨hs, hv, hflat, hc, hp, ((read_stored_of_validate hs hv hflat hc).2 hp).mpr ?_⟩
  decide

/-- With an opening bracket for a marker no rule is read back. -/
theorem read_write_ne_ok_of_bracket {f : StoredFormat} (h : f.marker = "[") (r : Rule) :
    read f (write r) ≠ .ok r := by
  obtain ⟨rest, hw⟩ := write_starts r
  refine read_write_ne_ok (by rw [h]; decide) ?_
  rw [h, hw]
  exact ⟨[], '_' :: rest, rfl⟩

def bracketSettings : Settings :=
  ⟨⟨"Experience", "["⟩, .standard⟩

def namedRule : Rule :=
  .node .and [⟨"name", .eq, .single (.text "ana")⟩] []

/-- Validated settings need not read what is written: a bracket passes for a marker. -/
theorem not_read_stored_of_validate :
    ¬∀ (s : Settings) (r : Rule), s.validate = .ok () → r.Valid → r.IsFlat →
      (∀ d ∈ r.subrules, ∀ c ∈ d.conditions, c.Sound s.format) →
      s.format.read r.stored = .ok r := by
  intro h
  have hflat : namedRule.IsFlat := by unfold Rule.IsFlat; decide
  have hread := h bracketSettings namedRule (by rfl) (by decide) hflat (by decide)
  rw [StoredFormat.read, Rule.stored, String.toList_ofList] at hread
  exact read_write_ne_ok_of_bracket rfl namedRule hread

end Stored
end RecordRules
