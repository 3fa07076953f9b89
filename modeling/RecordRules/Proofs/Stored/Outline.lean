import RecordRules.Proofs.Stored.Grammar

/-!
# RecordRules.Proofs.Stored.Outline

What a stored rule keeps whatever its names and values hold. Brackets in a name or a value may move
the borders of groups, so that other groups are read than were written, or none at all. But every
group that is read holds the operator of one part, right behind its first underscore, and so does
every group that was written; and where no name and no value has an underscore, the underscores of
the text are those in front of and behind these operators. So the operators are read in the order
in which they were written.

* `Headed`: the operators of a text that is cut into groups, one to a group, wherever the cuts are.
  They do not depend on the cuts (`Headed.unique`).
* `outline_of_read_stored`: the rule that is read has the operators of the rule that was written,
  in the same tree but for the flattening.
-/

namespace RecordRules

def Rule.outline (r : Rule) : Operator × List Operator :=
  (r.operator, r.conditions.map (·.operator))

/-- Two ways to cut a list where an element of a kind first occurs are the same. -/
theorem append_inj_at {α : Type} {P : α → Prop} {as : List α} :
    ∀ {bs rest rest' : List α}, (∀ x ∈ as, ¬P x) → (∀ x ∈ bs, ¬P x) →
      (∀ x, rest.head? = some x → P x) → (∀ x, rest'.head? = some x → P x) →
      as ++ rest = bs ++ rest' → as = bs ∧ rest = rest' := by
  induction as with
  | nil =>
    intro bs rest rest' _ hb hr _ h
    cases bs with
    | nil => exact ⟨rfl, h⟩
    | cons b bs => exact absurd (hr b (by rw [← List.nil_append rest, h]; rfl)) (hb b (by simp))
  | cons a as ih =>
    intro bs rest rest' ha hb hr hr' h
    cases bs with
    | nil => exact absurd (hr' a (by rw [← List.nil_append rest', ← h]; rfl)) (ha a (by simp))
    | cons b bs =>
      rw [List.cons_append, List.cons_append, List.cons.injEq] at h
      obtain ⟨e, e'⟩ := ih (fun x hx => ha x (List.mem_cons_of_mem _ hx))
        (fun x hx => hb x (List.mem_cons_of_mem _ hx)) hr hr' h.2
      exact ⟨by rw [h.1, e], e'⟩

namespace Stored

/-- A group has an operator right behind its first underscore. The group ends there, or goes on
with the only other underscore, as the operator asks. -/
inductive Heads : Operator → List Char → Prop where
  | opening {op : Operator} {lead : List Char} (hl : op.isLogical = true) (hlead : '_' ∉ lead) :
      Heads op (lead ++ '_' :: op.suffix.toList)
  | condition {op : Operator} {lead raw : List Char} (hl : op.isLogical = false)
      (hlead : '_' ∉ lead) (hraw : '_' ∉ raw) :
      Heads op (lead ++ '_' :: (op.suffix.toList ++ '_' :: raw))

/-- A text of groups with the given operators, and no underscore outside of groups. -/
inductive Headed : List Operator → List Char → Prop where
  | nil {w : List Char} (hw : '_' ∉ w) : Headed [] w
  | cons {w g cs : List Char} {op : Operator} {ops : List Operator} (hw : '_' ∉ w)
      (hg : Heads op g) (h : Headed ops cs) : Headed (op :: ops) (w ++ (bracketed g ++ cs))

namespace Headed

theorem prepend {w cs : List Char} {ops : List Operator} (hw : '_' ∉ w) (h : Headed ops cs) :
    Headed ops (w ++ cs) := by
  cases h with
  | nil hv => exact .nil (by simp [hw, hv])
  | cons hv hg h => rw [← List.append_assoc]; exact .cons (by simp [hw, hv]) hg h

/-- The text up to the first operator, the operator, and the text behind it, which goes on with a
bracket or an underscore and has the other operators in it. -/
theorem cons_inv {op : Operator} {ops : List Operator} {cs : List Char}
    (h : Headed (op :: ops) cs) :
    ∃ before c after, cs = before ++ '_' :: (op.suffix.toList ++ c :: after) ∧ '_' ∉ before ∧
      c = (if op.isLogical then ']' else '_') ∧ Headed ops after := by
  cases h with
  | @cons w g cs _ _ hw hg h =>
    cases hg with
    | @opening lead hl hlead =>
      refine ⟨w ++ '[' :: lead, ']', cs, by simp [bracketed], by simp [hw, hlead], by simp [hl], h⟩
    | @condition lead raw hl hlead hraw =>
      refine ⟨w ++ '[' :: lead, '_', raw ++ ']' :: cs, by simp [bracketed], by simp [hw, hlead],
        by simp [hl], ?_⟩
      have := h.prepend (w := raw ++ [']']) (by simp [hraw])
      rwa [List.append_assoc] at this

/-- **The operators of a text do not depend on where its groups are cut.** -/
theorem unique {ops : List Operator} :
    ∀ {ops' : List Operator} {cs : List Char}, Headed ops cs → Headed ops' cs → ops = ops' := by
  induction ops with
  | nil =>
    intro ops' cs h h'
    cases ops' with
    | nil => rfl
    | cons op' ops' =>
      obtain ⟨before, c, after, rfl, _⟩ := h'.cons_inv
      cases h with
      | nil hw => exact absurd (by simp) hw
  | cons op ops ih =>
    intro ops' cs h h'
    obtain ⟨before, c, after, e, hb, hc, hrest⟩ := h.cons_inv
    cases ops' with
    | nil =>
      cases h' with
      | nil hw => exact absurd (by simp [e]) hw
    | cons op' ops' =>
      obtain ⟨before', c', after', e', hb', hc', hrest'⟩ := h'.cons_inv
      -- both texts reach their first operator at the first underscore
      have hcut := append_inj_at (P := (· = '_')) (fun x hx hu => hb (hu ▸ hx))
        (fun x hx hu => hb' (hu ▸ hx)) (fun x hx => by simpa using hx.symm)
        (fun x hx => by simpa using hx.symm) (e.symm.trans e')
      -- and it ends at the next bracket or underscore
      have hstop : ∀ o : Operator, ∀ x ∈ o.suffix.toList, ¬(x = '_' ∨ x = ']') := by
        intro o x hx hu
        rcases hu with rfl | rfl
        · exact o.suffix_plain.1 hx
        · exact o.suffix_plain.2.2 hx
      have hat : ∀ (o : Operator) (c : Char) (after : List Char),
          c = (if o.isLogical then ']' else '_') →
          ∀ x, (c :: after).head? = some x → x = '_' ∨ x = ']' := by
        intro o c after hc x hx
        rw [List.head?_cons, Option.some.injEq] at hx
        rw [← hx, hc]
        split <;> simp
      have hop := append_inj_at (hstop op) (hstop op') (hat op c after hc) (hat op' c' after' hc')
        (List.cons.inj hcut.2).2
      have heq : op = op' := Operator.suffix_inj (String.toList_inj.mp hop.1)
      rw [← (List.cons.inj hop.2).2] at hrest'
      rw [heq, ih hrest hrest']

end Headed

/-! ## What was written and what is read -/

theorem heads_conditionText {c : Condition} (hl : c.operator.isLogical = false)
    (hf : '_' ∉ c.field.toList) (ht : ∀ t ∈ c.value.texts, '_' ∉ t) :
    Heads c.operator (conditionText c) :=
  .condition hl hf (not_mem_escape_constantText ht)

theorem heads_token {op : Operator} (hl : op.isLogical = true) : Heads op op.token.toList := by
  rw [Operator.toList_token, ← List.nil_append ('_' :: _)]
  exact .opening hl List.not_mem_nil

theorem heads_of_readPart {f : StoredFormat} {g : List Char} {p : Part}
    (h : readPart f g = .ok p) : Heads p.operator g := by
  cases p with
  | opening op =>
    obtain ⟨rfl, hl⟩ := combining?_eq_some_iff.mp (readPart_eq_opening_iff.mp h)
    exact heads_token hl
  | condition c =>
    obtain ⟨field, op, raw, value, hp, _, hl, _, rfl⟩ :=
      readCondition_eq_ok_iff.mp (readPart_eq_condition_iff.mp h)
    obtain ⟨rfl, hf, _, hr⟩ := pieces_eq_three_iff.mp hp
    exact .condition hl hf hr

theorem headed_written {ps : List Part} (h : ∀ p ∈ ps, Heads p.operator p.text) :
    Headed (ps.map Part.operator) ((ps.map Part.text).flatMap bracketed) := by
  induction ps with
  | nil => exact .nil List.not_mem_nil
  | cons p ps ih =>
    rw [List.map_cons, List.map_cons, List.flatMap_cons]
    exact .cons (w := []) List.not_mem_nil (h p List.mem_cons_self)
      (ih fun q hq => h q (List.mem_cons_of_mem _ hq))

theorem headed_of_grouped {f : StoredFormat} {gs : List (List Char)} {cs : List Char}
    (h : Grouped gs cs) :
    ∀ {ps : List Part}, gs.map (readPart f) = ps.map .ok → Headed (ps.map Part.operator) cs := by
  have hblank : ∀ w : List Char, Text.allBlank w = true → '_' ∉ w := fun w hw hm => by
    have := Text.allBlank_iff.mp hw '_' hm
    revert this
    decide
  induction h with
  | nil hw =>
    intro ps hps
    cases ps with
    | nil => exact .nil (hblank _ hw)
    | cons p ps => cases hps
  | cons hw _ _ ih =>
    intro ps hps
    cases ps with
    | nil => cases hps
    | cons p ps =>
      rw [List.map_cons, List.map_cons, List.cons.injEq] at hps
      exact .cons (hblank _ hw) (heads_of_readPart hps.1) (ih hps.2)

/-! ## Trees from their operators -/

/-- Operators in a row that open with one that combines fall into outlines in one way only. -/
theorem outlines_inj {xs : List (Operator × List Operator)} :
    ∀ {ys : List (Operator × List Operator)},
      (∀ x ∈ xs, x.1.isLogical = true ∧ ∀ o ∈ x.2, o.isLogical = false) →
      (∀ y ∈ ys, y.1.isLogical = true ∧ ∀ o ∈ y.2, o.isLogical = false) →
      (xs.flatMap fun x => x.1 :: x.2) = (ys.flatMap fun y => y.1 :: y.2) → xs = ys := by
  induction xs with
  | nil =>
    intro ys _ _ h
    cases ys with
    | nil => rfl
    | cons y ys => cases h
  | cons x xs ih =>
    intro ys hx hy h
    cases ys with
    | nil => cases h
    | cons y ys =>
      have hopen : ∀ zs : List (Operator × List Operator),
          (∀ z ∈ zs, z.1.isLogical = true ∧ ∀ o ∈ z.2, o.isLogical = false) →
          ∀ o, (zs.flatMap fun z => z.1 :: z.2).head? = some o → o.isLogical = true := by
        intro zs hz o ho
        cases zs with
        | nil => cases ho
        | cons z zs => cases ho; exact (hz z List.mem_cons_self).1
      have hxs : ∀ z ∈ xs, z.1.isLogical = true ∧ ∀ o ∈ z.2, o.isLogical = false :=
        fun z hz => hx z (List.mem_cons_of_mem _ hz)
      have hys : ∀ z ∈ ys, z.1.isLogical = true ∧ ∀ o ∈ z.2, o.isLogical = false :=
        fun z hz => hy z (List.mem_cons_of_mem _ hz)
      rw [List.flatMap_cons, List.flatMap_cons, List.cons_append, List.cons_append,
        List.cons.injEq] at h
      obtain ⟨e, hrest⟩ := append_inj_at (P := fun o => o.isLogical = true)
        (fun o ho => by rw [(hx x List.mem_cons_self).2 o ho]; decide)
        (fun o ho => by rw [(hy y List.mem_cons_self).2 o ho]; decide)
        (hopen xs hxs) (hopen ys hys) h.2
      rw [ih hxs hys hrest, Prod.ext h.1 e]

theorem operators_parts (r : Rule) :
    (parts r).map Part.operator = (r.subrules.map Rule.outline).flatMap fun x => x.1 :: x.2 := by
  rw [parts, List.map_flatMap, List.flatMap_map]
  refine List.flatMap_congr fun d _ => ?_
  rw [ownParts, List.map_cons, List.map_map]
  rfl

/-- Valid rules with the same operators in a row have the same operators in each of their rules. -/
theorem outlines_of_operators {r r' : Rule} (hv : r.Valid) (hv' : r'.Valid)
    (h : (parts r).map Part.operator = (parts r').map Part.operator) :
    r.subrules.map Rule.outline = r'.subrules.map Rule.outline := by
  have hvalid : ∀ q : Rule, q.Valid → ∀ x ∈ q.subrules.map Rule.outline,
      x.1.isLogical = true ∧ ∀ o ∈ x.2, o.isLogical = false := by
    intro q hq x hx
    obtain ⟨d, hd, rfl⟩ := List.mem_map.mp hx
    obtain ⟨hl, hcs⟩ := Rule.valid_iff.mp hq d hd
    refine ⟨hl, fun o ho => ?_⟩
    obtain ⟨c, hc, rfl⟩ := List.mem_map.mp ho
    exact (hcs c hc).operator_compares
  rw [operators_parts, operators_parts] at h
  exact outlines_inj (hvalid r hv) (hvalid r' hv') h

/-- **Names and values cannot change what a rule is made of.** Whatever brackets, tildes, bars and
blanks they hold, as long as there is no underscore in them and no marker in the text: if the text
is read at all, the rule that is read has the operators of the rule that was written, root by root
and condition by condition, and one nested rule for each descendant, in order. -/
theorem outline_of_read_stored {f : StoredFormat} {r r' : Rule} (hv : r.Valid)
    (hu : ∀ d ∈ r.subrules, ∀ c ∈ d.conditions,
      '_' ∉ c.field.toList ∧ ∀ t ∈ c.value.texts, '_' ∉ t)
    (hm : ¬f.marker.toList <:+: r.stored.toList) (h : f.read r.stored = .ok r') :
    r'.outline = r.outline ∧ r'.nested.map Rule.outline = r.descendants.map Rule.outline ∧
      r'.IsFlat := by
  rw [StoredFormat.read, Rule.stored, String.toList_ofList] at h
  rw [Rule.stored, String.toList_ofList] at hm
  obtain ⟨gs, hl, hr⟩ := read_eq_ok_iff.mp h
  obtain ⟨hflat, hps⟩ := readGroups_eq_ok_iff.mp hr
  have hread := headed_of_grouped hl.grouped hps
  have hwritten : Headed ((parts r).map Part.operator) (write r) := by
    rw [write, groupsOf_eq]
    refine headed_written (forall_mem_parts.mpr fun d hd => ⟨?_, fun c hc => ?_⟩)
    · exact heads_token (Rule.valid_iff.mp hv d hd).1
    · exact heads_conditionText ((Rule.valid_iff.mp hv d hd).2 c hc).operator_compares
        (hu d hd c hc).1 (hu d hd c hc).2
  rw [body_write hm] at hread
  have ho := outlines_of_operators hv (valid_of_readGroups hr) (hwritten.unique hread)
  rw [Rule.subrules_eq, Rule.subrules_eq, Rule.descendants_of_isFlat hflat, List.map_cons,
    List.map_cons, List.cons.injEq] at ho
  exact ⟨ho.1.symm, ho.2.symm, hflat⟩

/-- Its brackets fall into place, but not where the conditions end. -/
def unevenRule : Rule :=
  .node .and
    [⟨"a", .eq, .single (.text "x[")⟩, ⟨"c]][b", .eq, .single (.text "y")⟩]
    [.node .not [⟨"d", .like, .pattern "z"⟩] []]

theorem outline_of_read_unevenRule :
    ∃ r', unevenRule.Valid ∧
      (∀ d ∈ unevenRule.subrules, ∀ c ∈ d.conditions,
        '_' ∉ c.field.toList ∧ ∀ t ∈ c.value.texts, '_' ∉ t) ∧
      ¬StoredFormat.standard.marker.toList <:+: unevenRule.stored.toList ∧
      StoredFormat.standard.read unevenRule.stored = .ok r' ∧ r' ≠ unevenRule ∧
      r'.outline = unevenRule.outline ∧
      r'.nested.map Rule.outline = unevenRule.descendants.map Rule.outline ∧ r'.IsFlat := by
  have hv : unevenRule.Valid := by decide
  have hu : ∀ d ∈ unevenRule.subrules, ∀ c ∈ d.conditions,
      '_' ∉ c.field.toList ∧ ∀ t ∈ c.value.texts, '_' ∉ t := by decide
  have hm : ¬StoredFormat.standard.marker.toList <:+: unevenRule.stored.toList := by
    rw [← Text.occursIn_iff]
    decide
  have hr : StoredFormat.standard.read unevenRule.stored = .ok (.node .and
      [⟨"a", .eq, .single (.text "x[][c]")⟩, ⟨"b", .eq, .single (.text "y")⟩]
      [.node .not [⟨"d", .like, .pattern "z"⟩] []]) := by rfl
  exact ⟨_, hv, hu, hm, hr, by simp [unevenRule], outline_of_read_stored hv hu hm hr⟩

end Stored
end RecordRules
