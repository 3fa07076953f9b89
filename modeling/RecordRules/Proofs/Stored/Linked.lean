import RecordRules.Proofs.Compile.Agreement
import RecordRules.Proofs.Compile.Route
import RecordRules.Proofs.Stored.RoundTrip

/-!
# RecordRules.Proofs.Stored.Linked

Conditions on linked attributes when they are stored. Off the numeric field every value is read back
as text, whatever it was, so numbers and truth values are lost. The test on an attribute looks at
nothing but the text of its constants (`AttributeTest.make_mapScalars`), so it is the same test, and
fails to be made with the same error.
-/

namespace RecordRules

/-- Constants with the same texts make the same test of an attribute. -/
theorem AttributeTest.make_mapScalars {g : Scalar → Scalar} {v : Constant}
    (h : ∀ s ∈ v.scalars, (g s).rendered = s.rendered) (key : String) (op : Operator) :
    make key op (v.mapScalars g) = make key op v := by
  cases v with
  | pattern p => rfl
  | single s =>
    have hs : (g s).rendered = s.rendered := h s List.mem_cons_self
    cases op <;> simp only [Constant.mapScalars, make, single, literal, hs]
  | array items =>
    have hitems : (items.map g).map literal = items.map literal := by
      rw [List.map_map]
      exact List.map_congr_left fun s hs => congrArg String.ofList (h s hs)
    cases op <;> simp only [Constant.mapScalars, make, single, hitems]

namespace Entities

variable {α : Type} {conventions : Conventions} {t : EntityType α} {f : StoredFormat}

theorem leaf_retyped {c : Condition} {key : String}
    (h : Routed conventions.attributeLead c.field key) (hf : c.field ≠ f.numericField) :
    leaf conventions t (c.retyped f) = leaf conventions t c := by
  have hr : Routed conventions.attributeLead (c.retyped f).field key := h
  rw [leaf_of_routed h, leaf_of_routed hr, linkedLeaf_eq, linkedLeaf_eq, Condition.retyped,
    AttributeTest.make_mapScalars fun s _ => Scalar.rendered_retyped hf s]

theorem compile_retyped {r : Rule} (hv : r.Valid)
    (h : ∀ d ∈ r.subrules, ∀ c ∈ d.conditions,
      (∃ key, Routed conventions.attributeLead c.field key) ∧ c.field ≠ f.numericField) :
    compile conventions t (r.retyped f) = compile conventions t r := by
  have hretyped : (r.retyped f).Valid := Rule.valid_mapConditions hv fun d hd c hc =>
    Condition.valid_retyped ((Rule.valid_iff.mp hv d hd).2 c hc)
  rw [compile_eq_target, compile_eq_target]
  refine Target.compile_mapConditions_eq_self _ hv hretyped fun d hd c hc => ?_
  obtain ⟨⟨key, hr⟩, hf⟩ := h d hd c hc
  exact leaf_retyped hr hf

end Entities

namespace Stored

/-- **Conditions on linked attributes survive storing.** A clean rule with one level of nesting at
most, all of whose fields lead on to linked attributes and none of which is the numeric field, is
read back from its text with every value as text. Over entities that rule compiles to the same error
or the same predicate. -/
theorem compile_linked_read_stored {f : StoredFormat} {conventions : Conventions} {r : Rule}
    (hv : r.Valid) (hflat : r.IsFlat)
    (hlinked : ∀ d ∈ r.subrules, ∀ c ∈ d.conditions,
      (∃ key, Routed conventions.attributeLead c.field key) ∧ c.field ≠ f.numericField)
    (hc : ∀ d ∈ r.subrules, ∀ c ∈ d.conditions, c.Clean)
    (hm : ¬f.marker.toList <:+: r.stored.toList) :
    ∃ r', f.read r.stored = .ok r' ∧ r' = r.retyped f ∧
      ∀ {α : Type} (t : EntityType α),
        Entities.compile conventions t r' = Entities.compile conventions t r := by
  have hs : ∀ d ∈ r.subrules, ∀ c ∈ d.conditions, c.Storable :=
    fun d hd c hcd => storable_of_clean (hc d hd c hcd)
  have hn : r.RendersNumbers f := fun d hd c hcd hf => absurd hf (hlinked d hd c hcd).2
  have hretyped : (r.retyped f).IsFlat := hflat.mapConditions _
  have hstored : r.stored.toList = write r := String.toList_ofList
  refine ⟨r.retyped f, ?_, rfl, fun t => Entities.compile_retyped hv hlinked⟩
  rw [hstored] at hm
  rw [StoredFormat.read, hstored, read_write_of_storable hv hs hm hn,
    Rule.flattened_eq_self hretyped]

/-- Numbers and a truth value, none of which is there any more when the rule is read back. -/
def linkedRule : Rule :=
  .node .or [⟨"metadata.level", .gt, .single (.number (.signed 5))⟩]
    [.node .not [⟨"metadata.grade", .absent, .array [.number (.unsigned 1), .text "top two"]⟩] [],
      .node .and [⟨"metadata.active", .eq, .single (.bool true)⟩] []]

/-- Records that are lists of links. -/
def linkedOnly : EntityType (List (List StoredAttribute)) where
  name := "linked"
  schema := []
  read := fun _ _ => .none
  links := id

theorem compile_linked_read_stored_linkedRule :
    linkedRule.Valid ∧ linkedRule.IsFlat ∧
      (∀ d ∈ linkedRule.subrules, ∀ c ∈ d.conditions,
        (∃ key, Routed Conventions.standard.attributeLead c.field key) ∧
          c.field ≠ StoredFormat.standard.numericField) ∧
      (∀ d ∈ linkedRule.subrules, ∀ c ∈ d.conditions, c.Clean) ∧
      ¬StoredFormat.standard.marker.toList <:+: linkedRule.stored.toList ∧
      ∃ r' p, StoredFormat.standard.read linkedRule.stored = .ok r' ∧
        r'.conditions = [⟨"metadata.level", .gt, .single (.text "5")⟩] ∧
        Entities.compile .standard linkedOnly r' = .ok p ∧
        Entities.compile .standard linkedOnly linkedRule = .ok p ∧
        p.evaluate [[⟨"grade", "1"⟩], [⟨"level", "4"⟩, ⟨"active", "true"⟩]] = .ok true ∧
        p.evaluate [[⟨"level", "high"⟩]] = .error (.numericParse "high") := by
  have hv : linkedRule.Valid := by decide
  have hflat : linkedRule.IsFlat := by
    unfold Rule.IsFlat
    decide
  have hlinked : ∀ d ∈ linkedRule.subrules, ∀ c ∈ d.conditions,
      (∃ key, Routed Conventions.standard.attributeLead c.field key) ∧
        c.field ≠ StoredFormat.standard.numericField := by decide
  have hc : ∀ d ∈ linkedRule.subrules, ∀ c ∈ d.conditions, c.Clean := by decide
  have hm : ¬StoredFormat.standard.marker.toList <:+: linkedRule.stored.toList := by
    rw [← Text.occursIn_iff]
    decide
  obtain ⟨r', hr, rfl, hcompile⟩ := compile_linked_read_stored hv hflat hlinked hc hm
  exact ⟨hv, hflat, hlinked, hc, hm, _, _, hr, rfl, (hcompile linkedOnly).trans rfl, rfl, rfl, rfl⟩

end Stored
end RecordRules
