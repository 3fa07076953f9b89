import RecordRules.Proofs.Rule.Shape
import RecordRules.Proofs.Stored.Writing

/-!
# RecordRules.Proofs.Stored.Reading

What each step of the reading gives. Every group is read as a part of the rule, on its own.

* `readCondition_eq_ok_iff`: which groups are conditions, and of what.
* `readGroups_eq_ok_iff`: groups are read as a rule exactly when that rule has one level of nesting
  at most and the groups, in order, are read as its parts.
* `readGroups_error`: whatever else is read gives a parse fault; what was read is never turned down
  by the checks of `Condition.make` and `Rule.make`.
-/

namespace RecordRules

namespace Stored

/-- What a group is read as. -/
def readPart (f : StoredFormat) (g : List Char) : Except RuleError Part :=
  match combining? g with
  | some op => .ok (.opening op)
  | none => (readCondition f g).map .condition

section Results

variable {α β ε : Type} {g : α → Except ε β}

/-- What is read one by one has in common with what it is read from whatever each of it has. -/
theorem map_eq_of_map_eq_ok {γ : Type} {a : α → γ} {b : β → γ}
    (h : ∀ x y, g x = .ok y → b y = a x) {xs : List α} :
    ∀ {ys : List β}, xs.map g = ys.map .ok → ys.map b = xs.map a := by
  induction xs with
  | nil =>
    intro ys e
    rw [List.map_eq_nil_iff.mp (e.symm.trans List.map_nil)]
    rfl
  | cons x xs ih =>
    intro ys e
    cases ys with
    | nil => cases e
    | cons y ys =>
      rw [List.map_cons, List.map_cons, List.cons.injEq] at e
      rw [List.map_cons, List.map_cons, h x y e.1, ih e.2]

theorem exists_of_mem_ok {xs : List α} {ys : List β} (e : xs.map g = ys.map .ok) {y : β}
    (hy : y ∈ ys) : ∃ x ∈ xs, g x = .ok y := by
  have hm : Except.ok y ∈ xs.map g := by
    rw [e]
    exact List.mem_map_of_mem hy
  exact List.mem_map.mp hm

end Results

/-! ## Operators -/

theorem combining?_eq_some_iff {g : List Char} {op : Operator} :
    combining? g = some op ↔ g = op.token.toList ∧ op.isLogical = true := by
  constructor
  · intro h
    simp only [combining?] at h
    split at h
    · rename_i op' ho
      split at h
      · rename_i hl
        cases h
        rw [Operator.token_of_ofToken? ho, String.toList_ofList]
        exact ⟨rfl, hl⟩
      · cases h
    · cases h
  · rintro ⟨rfl, hl⟩
    simp only [combining?, String.ofList_toList, Operator.ofToken?_token, hl, if_true]

theorem comparing?_eq_some_iff {suffix : List Char} {op : Operator} :
    comparing? suffix = some op ↔ suffix = op.suffix.toList ∧ op.isLogical = false := by
  constructor
  · intro h
    simp only [comparing?] at h
    split at h
    · rename_i op' ho
      split at h
      · cases h
      · rename_i hl
        cases h
        have ht := congrArg String.toList (Operator.token_of_ofToken? ho)
        rw [Operator.toList_token, String.toList_ofList] at ht
        exact ⟨(List.cons.inj ht).2.symm, by simpa using hl⟩
    · cases h
  · rintro ⟨rfl, hl⟩
    rw [comparing?, ← Operator.toList_token, String.ofList_toList, Operator.ofToken?_token]
    simp only [hl, Bool.false_eq_true, if_false]

/-! ## Values -/

theorem readScalar_ok_iff {f : StoredFormat} {field raw : List Char} :
    (∃ s, readScalar f field raw = .ok s) ↔
      (field = f.numericField.toList → (Number.read? (unescape raw)).isSome = true) := by
  rw [readScalar]
  by_cases hf : field = f.numericField.toList
  · rw [if_pos hf]
    cases Number.read? (unescape raw) with
    | none => simp [hf]
    | some n => simp
  · rw [if_neg hf]
    simp [hf]

theorem readScalar_eq_ok_iff {f : StoredFormat} {field raw : List Char} {s : Scalar} :
    readScalar f field raw = .ok s ↔
      if field = f.numericField.toList then
        ∃ n, Number.read? (unescape raw) = some n ∧ s = .number n
      else s = .text (String.ofList (unescape raw)) := by
  rw [readScalar]
  split
  · cases Number.read? (unescape raw) with
    | none => simp
    | some n => simp [eq_comm]
  · simp [eq_comm]

theorem readScalars_eq_ok_iff {f : StoredFormat} {field : List Char} {raws : List (List Char)} :
    ∀ {ss : List Scalar},
      readScalars f field raws = .ok ss ↔ raws.map (readScalar f field) = ss.map .ok := by
  induction raws with
  | nil => intro ss; cases ss <;> simp [readScalars]
  | cons raw raws ih =>
    intro ss
    rw [readScalars, List.map_cons]
    cases readScalar f field raw with
    | error e => cases ss <;> simp
    | ok s =>
      cases h : readScalars f field raws with
      | error e =>
        cases ss with
        | nil => simp
        | cons s' ss => simp [← ih, h]
      | ok ss' =>
        cases ss with
        | nil => simp
        | cons s' ss => simp [← ih, h]

theorem readScalars_ok_iff {f : StoredFormat} {field : List Char} {raws : List (List Char)} :
    (∃ ss, readScalars f field raws = .ok ss) ↔
      ∀ raw ∈ raws, ∃ s, readScalar f field raw = .ok s := by
  induction raws with
  | nil => simp [readScalars]
  | cons raw raws ih =>
    rw [List.forall_mem_cons, ← ih]
    simp only [readScalars]
    cases readScalar f field raw with
    | error e => simp
    | ok s =>
      cases readScalars f field raws with
      | error e => simp
      | ok ss => simp

theorem readScalars_map {f : StoredFormat} {field : List Char} {α : Type} {enc : α → List Char}
    {dec : α → Scalar} {xs : List α} (h : ∀ x ∈ xs, readScalar f field (enc x) = .ok (dec x)) :
    readScalars f field (xs.map enc) = .ok (xs.map dec) := by
  rw [readScalars_eq_ok_iff, List.map_map, List.map_map]
  exact List.map_congr_left h

/-- What is read for an operator that compares has the shape the operator takes. -/
theorem fits_of_readConstant {f : StoredFormat} {field raw : List Char} {op : Operator}
    {value : Constant} (hl : op.isLogical = false)
    (h : readConstant f field op raw = .ok value) : value.fits op = true := by
  rw [readConstant] at h
  split at h
  · rename_i hk
    cases h
    simp [Constant.fits, hk]
  · rename_i hk
    split at h
    · rename_i hm
      split at h
      · cases h; exact hm
      · split at h
        · cases h
        · cases h; exact hm
    · rename_i hm
      split at h
      · cases h
      · cases h
        rw [Constant.fits, Operator.kind_of_not_text hl hk, Bool.and_eq_true, Bool.not_eq_true']
        exact ⟨rfl, by simpa using hm⟩

/-! ## Conditions -/

/-- A checked condition is never turned down where the name is not blank and the value was read for
an operator that compares. -/
theorem make_of_readConstant {f : StoredFormat} {field raw : List Char} {op : Operator}
    {value : Constant} (hf : Text.allBlank field = false) (hl : op.isLogical = false)
    (h : readConstant f field op raw = .ok value) :
    Condition.make (String.ofList field) op value = .ok ⟨String.ofList field, op, value⟩ :=
  Condition.make_eq_ok_iff.mpr ⟨rfl, by rw [String.toList_ofList]; exact hf, hl,
    fits_of_readConstant hl h⟩

theorem readCondition_eq_ok_iff {f : StoredFormat} {g : List Char} {c : Condition} :
    readCondition f g = .ok c ↔
      ∃ field op raw value, Text.pieces '_' g = [field, op.suffix.toList, raw] ∧
        Text.allBlank field = false ∧ op.isLogical = false ∧
        readConstant f field op raw = .ok value ∧ c = ⟨String.ofList field, op, value⟩ := by
  constructor
  · intro h
    simp only [readCondition] at h
    split at h
    · rename_i field suffix raw hp
      split at h
      · cases h
      · rename_i hf
        split at h
        · cases h
        · rename_i op ho
          obtain ⟨rfl, hl⟩ := comparing?_eq_some_iff.mp ho
          split at h
          · cases h
          · rename_i value hv
            rw [make_of_readConstant (by simpa using hf) hl hv] at h
            cases h
            exact ⟨field, op, raw, value, hp, by simpa using hf, hl, hv, rfl⟩
    · cases h
  · rintro ⟨field, op, raw, value, hp, hf, hl, hv, rfl⟩
    have ho := comparing?_eq_some_iff.mpr ⟨rfl, hl⟩
    simp only [readCondition, hp, hf, Bool.false_eq_true, if_false, ho, hv]
    exact make_of_readConstant hf hl hv

theorem readCondition_error {f : StoredFormat} {g : List Char} {e : RuleError}
    (h : readCondition f g = .error e) : ∃ fault, e = .parse fault := by
  simp only [readCondition] at h
  split at h
  · rename_i field suffix raw hp
    split at h
    · cases h; exact ⟨_, rfl⟩
    · rename_i hf
      split at h
      · cases h; exact ⟨_, rfl⟩
      · rename_i op ho
        obtain ⟨rfl, hl⟩ := comparing?_eq_some_iff.mp ho
        split at h
        · cases h; exact ⟨_, rfl⟩
        · rename_i value hv
          rw [make_of_readConstant (by simpa using hf) hl hv] at h
          cases h
  · cases h; exact ⟨_, rfl⟩

theorem valid_of_readCondition {f : StoredFormat} {g : List Char} {c : Condition}
    (h : readCondition f g = .ok c) : c.Valid := by
  obtain ⟨field, op, raw, value, _, hf, hl, hv, rfl⟩ := readCondition_eq_ok_iff.mp h
  exact (Condition.make_eq_ok_iff.mp (make_of_readConstant hf hl hv)).2

/-! ## Parts -/

/-- A group with two underscores is no opening, which has one. -/
theorem combining?_of_pieces {g a b c : List Char} (h : Text.pieces '_' g = [a, b, c]) :
    combining? g = none := by
  cases hg : combining? g with
  | none => rfl
  | some op =>
    obtain ⟨rfl, _⟩ := combining?_eq_some_iff.mp hg
    have h0 : op.suffix.toList.count '_' = 0 := List.count_eq_zero.mpr op.suffix_plain.1
    have hlen := Text.length_pieces '_' op.token.toList
    rw [h, Operator.toList_token, List.count_cons_self, h0] at hlen
    simp at hlen

theorem combining?_of_readCondition {f : StoredFormat} {g : List Char} {c : Condition}
    (h : readCondition f g = .ok c) : combining? g = none := by
  obtain ⟨field, op, raw, value, hp, _⟩ := readCondition_eq_ok_iff.mp h
  exact combining?_of_pieces hp

theorem readPart_eq_opening_iff {f : StoredFormat} {g : List Char} {op : Operator} :
    readPart f g = .ok (.opening op) ↔ combining? g = some op := by
  rw [readPart]
  cases combining? g with
  | none => cases readCondition f g <;> simp [Except.map]
  | some op' => simp

theorem readPart_eq_condition_iff {f : StoredFormat} {g : List Char} {c : Condition} :
    readPart f g = .ok (.condition c) ↔ readCondition f g = .ok c := by
  constructor
  · intro h
    rw [readPart] at h
    cases hg : combining? g with
    | some op => rw [hg] at h; cases h
    | none =>
      rw [hg] at h
      cases hc : readCondition f g with
      | error e => rw [hc] at h; cases h
      | ok c' => rw [hc] at h; cases h; rfl
  · intro h
    rw [readPart, combining?_of_readCondition h, h]
    rfl

/-! ## Sections -/

theorem readSections_of_parts {f : StoredFormat} {gs : List (List Char)} :
    ∀ {cs : List Condition} {sections : List (Operator × List Condition)},
      gs.map (readPart f) = (sectionParts cs sections).map .ok →
      readSections f gs = .ok (cs, sections) := by
  induction gs with
  | nil =>
    intro cs sections h
    cases cs with
    | cons c cs => cases h
    | nil =>
      cases sections with
      | cons s sections => cases h
      | nil => rfl
  | cons g gs ih =>
    intro cs sections h
    cases cs with
    | cons c cs =>
      rw [sectionParts_cons, List.map_cons, List.map_cons, List.cons.injEq] at h
      have hc := readPart_eq_condition_iff.mp h.1
      simp only [readSections, combining?_of_readCondition hc, hc, ih h.2]
    | nil =>
      cases sections with
      | nil => cases h
      | cons s sections =>
        obtain ⟨op, cs⟩ := s
        rw [sectionParts_nil_cons, List.map_cons, List.map_cons, List.cons.injEq] at h
        simp only [readSections, readPart_eq_opening_iff.mp h.1, ih h.2]

theorem parts_of_readSections {f : StoredFormat} {gs : List (List Char)} :
    ∀ {cs : List Condition} {sections : List (Operator × List Condition)},
      readSections f gs = .ok (cs, sections) →
      gs.map (readPart f) = (sectionParts cs sections).map .ok := by
  induction gs with
  | nil => intro cs sections h; cases h; rfl
  | cons g gs ih =>
    intro cs sections h
    simp only [readSections] at h
    split at h
    · rename_i op hg
      split at h
      · cases h
      · rename_i cs' sections' hs
        cases h
        rw [sectionParts_nil_cons, List.map_cons, List.map_cons, ← ih hs,
          readPart_eq_opening_iff.mpr hg]
    · split at h
      · cases h
      · rename_i c hc
        split at h
        · cases h
        · rename_i cs' sections' hs
          cases h
          rw [sectionParts_cons, List.map_cons, List.map_cons, ← ih hs,
            readPart_eq_condition_iff.mpr hc]

theorem readSections_error {f : StoredFormat} {gs : List (List Char)} :
    ∀ {e : RuleError}, readSections f gs = .error e → ∃ fault, e = .parse fault := by
  induction gs with
  | nil => intro e h; cases h
  | cons g gs ih =>
    intro e h
    simp only [readSections] at h
    split at h
    · split at h
      · rename_i hs; cases h; exact ih hs
      · cases h
    · split at h
      · rename_i hc; cases h; exact readCondition_error hc
      · split at h
        · rename_i hs; cases h; exact ih hs
        · cases h

/-- The sections that were read open with operators that combine. -/
theorem logical_of_readSections {f : StoredFormat} {gs : List (List Char)} {cs : List Condition}
    {sections : List (Operator × List Condition)} (h : readSections f gs = .ok (cs, sections)) :
    ∀ s ∈ sections, s.1.isLogical = true := by
  intro s hs
  have hm : Except.ok (Part.opening s.1) ∈ gs.map (readPart f) := by
    rw [parts_of_readSections h]
    refine List.mem_map_of_mem (List.mem_append_right _ ?_)
    exact List.mem_flatMap.mpr ⟨s, hs, List.mem_cons_self⟩
  obtain ⟨g, _, hg⟩ := List.mem_map.mp hm
  exact (combining?_eq_some_iff.mp (readPart_eq_opening_iff.mp hg)).2

theorem make_of_isLogical {op : Operator} (h : op.isLogical = true) (cs : List Condition)
    (rs : List Rule) : Rule.make op cs rs = .ok (.node op cs rs) := by
  rw [Rule.make, if_pos h]

theorem sectionRules_eq {sections : List (Operator × List Condition)}
    (h : ∀ s ∈ sections, s.1.isLogical = true) :
    sectionRules sections = .ok (sections.map fun s => .node s.1 s.2 []) := by
  induction sections with
  | nil => rfl
  | cons s sections ih =>
    obtain ⟨op, cs⟩ := s
    rw [sectionRules, make_of_isLogical (h _ List.mem_cons_self),
      ih fun t ht => h t (List.mem_cons_of_mem _ ht)]
    rfl

/-! ## Rules -/

/-- **Groups are read as a rule exactly when it has one level of nesting at most and the groups
are its parts.** -/
theorem readGroups_eq_ok_iff {f : StoredFormat} {gs : List (List Char)} {r : Rule} :
    readGroups f gs = .ok r ↔ r.IsFlat ∧ gs.map (readPart f) = (parts r).map .ok := by
  constructor
  · intro h
    cases gs with
    | nil => cases h
    | cons g gs =>
      simp only [readGroups] at h
      split at h
      · cases h
      · rename_i op hg
        split at h
        · cases h
        · rename_i cs sections hs
          rw [sectionRules_eq (logical_of_readSections hs)] at h
          simp only [] at h
          rw [make_of_isLogical (combining?_eq_some_iff.mp hg).2] at h
          cases h
          have hflat : (Rule.node op cs (sections.map fun s => .node s.1 s.2 [])).IsFlat := by
            intro n hn
            obtain ⟨s, _, rfl⟩ := List.mem_map.mp hn
            rfl
          refine ⟨hflat, ?_⟩
          rw [parts_of_isFlat hflat, List.map_cons, List.map_cons, readPart_eq_opening_iff.mpr hg,
            parts_of_readSections hs]
          simp [Rule.conditions, Rule.nested, Rule.operator, Function.comp_def]
  · rintro ⟨hflat, h⟩
    rw [parts_of_isFlat hflat, List.map_cons] at h
    cases gs with
    | nil => cases h
    | cons g gs =>
      rw [List.map_cons, List.cons.injEq] at h
      have hg := readPart_eq_opening_iff.mp h.1
      have hs := readSections_of_parts h.2
      simp only [readGroups, hg, hs]
      rw [sectionRules_eq (logical_of_readSections hs)]
      simp only []
      rw [make_of_isLogical (combining?_eq_some_iff.mp hg).2]
      have he := Rule.flattened_eq_self hflat
      rw [Rule.flattened, Rule.descendants_of_isFlat hflat] at he
      rw [List.map_map]
      exact congrArg _ he

theorem readGroups_error {f : StoredFormat} {gs : List (List Char)} {e : RuleError}
    (h : readGroups f gs = .error e) : ∃ fault, e = .parse fault := by
  cases gs with
  | nil => cases h; exact ⟨_, rfl⟩
  | cons g gs =>
    simp only [readGroups] at h
    split at h
    · cases h; exact ⟨_, rfl⟩
    · rename_i op hg
      split at h
      · rename_i hs; cases h; exact readSections_error hs
      · rename_i cs sections hs
        rw [sectionRules_eq (logical_of_readSections hs)] at h
        simp only [] at h
        rw [make_of_isLogical (combining?_eq_some_iff.mp hg).2] at h
        cases h

theorem exists_group_of_mem_parts {f : StoredFormat} {gs : List (List Char)} {r : Rule}
    (h : readGroups f gs = .ok r) {p : Part} (hp : p ∈ parts r) :
    ∃ g ∈ gs, readPart f g = .ok p :=
  exists_of_mem_ok (readGroups_eq_ok_iff.mp h).2 hp

theorem exists_part_of_mem_groups {f : StoredFormat} {gs : List (List Char)} {r : Rule}
    (h : readGroups f gs = .ok r) {g : List Char} (hg : g ∈ gs) : ∃ p, readPart f g = .ok p := by
  have hm : readPart f g ∈ gs.map (readPart f) := List.mem_map_of_mem hg
  rw [(readGroups_eq_ok_iff.mp h).2] at hm
  obtain ⟨p, _, hp⟩ := List.mem_map.mp hm
  exact ⟨p, hp.symm⟩

theorem valid_of_readGroups {f : StoredFormat} {gs : List (List Char)} {r : Rule}
    (h : readGroups f gs = .ok r) : r.Valid := by
  have hread : ∀ p ∈ parts r, ∃ g ∈ gs, readPart f g = .ok p :=
    fun p hp => exists_group_of_mem_parts h hp
  refine Rule.valid_iff.mpr fun d hd => ?_
  obtain ⟨ho, hcs⟩ := forall_mem_parts.mp hread d hd
  constructor
  · obtain ⟨g, _, hg⟩ := ho
    exact (combining?_eq_some_iff.mp (readPart_eq_opening_iff.mp hg)).2
  · intro c hc
    obtain ⟨g, _, hg⟩ := hcs c hc
    exact valid_of_readCondition (readPart_eq_condition_iff.mp hg)

end Stored
end RecordRules
