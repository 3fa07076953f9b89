import RecordRules.Proofs.Registry.Options

/-!
# RecordRules.Proofs.Registry.Fields

What the fields of a declaration add to its registry.

A field passes, or it is queried under a name and a type, or it is at fault; the last depends on the
names that the fields before it have taken. The entries of many fields are told as a whole
(`entriesOf_eq_ok_iff`), and their error by the first field at fault (`entriesOf_eq_error_iff`).
-/

namespace RecordRules
namespace Registry

open Declaration (Field identifier?)

/-- A field without a type, or one to be skipped. -/
def Passes (f : Field) : Prop :=
  ∃ ws, HasWishes f.attributes ws ∧ (Wish.types ws).length ≤ 1 ∧ (.skip ∈ ws ∨ Wish.types ws = [])

/-- A field with a type that is not skipped, under the last name given to it or its own. -/
def Queried (f : Field) (t : ValueType) (name : String) : Prop :=
  ∃ ws, HasWishes f.attributes ws ∧ Wish.types ws = [t] ∧ .skip ∉ ws ∧
    name = (Wish.names ws).getLast?.getD f.name

/-- Fields with the accessors of those among them that are queried. -/
inductive Queries : List Field → List Accessor → Prop where
  | nil : Queries [] []
  | passed {f : Field} {fs : List Field} {as : List Accessor} (pass : Passes f)
      (rest : Queries fs as) : Queries (f :: fs) as
  | queried {f : Field} {fs : List Field} {as : List Accessor} {t : ValueType} {name : String}
      (query : Queried f t name) (rest : Queries fs as) :
      Queries (f :: fs) (⟨name, f.name, t, f.optional⟩ :: as)

/-- Why a field is turned down where some query names are taken. -/
inductive FieldFault (taken : List String) (f : Field) : RegistryFault → Prop where
  | options {e : RegistryFault} (fault : OptionsFault f.attributes e) : FieldFault taken f e
  | duplicate {t : ValueType} {name : String} (query : Queried f t name) (again : name ∈ taken) :
      FieldFault taken f (.duplicateName name)
  | constant {t : ValueType} {name : String} (query : Queried f t name) (first : name ∉ taken)
      (unread : identifier? (screaming name.toList) = none) :
      FieldFault taken f (.badConstant name (String.ofList (screaming name.toList)))

def Entry.accessor (x : Entry) : Accessor :=
  ⟨x.name, x.field, x.type, x.optional⟩

variable {taken : List String} {f : Field} {x : Entry} {e : RegistryFault}

/-! ## One field -/

theorem types_eq_singleton_iff {ws : List Wish} {t : ValueType} :
    Wish.types ws = [t] ↔ (Wish.types ws).length ≤ 1 ∧ (Wish.types ws).getLast? = some t := by
  cases Wish.types ws with
  | nil => simp
  | cons u us => cases us <;> simp

theorem entryOf_eq_none_iff : entryOf taken f = .ok none ↔ Passes f := by
  constructor
  · intro h
    rw [entryOf] at h
    split at h
    · cases h
    · rename_i o ho
      obtain ⟨ws, hws, honce, rfl⟩ := FieldOptions.ofAttributes_eq_ok_iff.mp ho
      refine ⟨ws, hws, honce, ?_⟩
      simp only [FieldOptions.ofWishes_eq, decide_eq_true_eq] at h
      split at h
      · rename_i hskip
        exact .inl hskip
      · split at h
        · rename_i htype
          exact .inr (List.getLast?_eq_none_iff.mp htype)
        · split at h
          · cases h
          · split at h <;> cases h
  · rintro ⟨ws, hws, honce, hpass⟩
    rw [entryOf, FieldOptions.ofAttributes_eq_ok_iff.mpr ⟨ws, hws, honce, rfl⟩]
    simp only [FieldOptions.ofWishes_eq, decide_eq_true_eq]
    rcases hpass with hskip | htypes
    · rw [if_pos hskip]
    · simp [htypes]

/-- A queried field is entered, unless its name is taken or makes no constant. -/
theorem entryOf_of_queried {t : ValueType} {name : String} (h : Queried f t name) :
    entryOf taken f =
      if name ∈ taken then .error (.duplicateName name)
      else
        match identifier? (screaming name.toList) with
        | none => .error (.badConstant name (String.ofList (screaming name.toList)))
        | some constant => .ok (some ⟨constant, name, t, f.name, f.optional⟩) := by
  obtain ⟨ws, hws, htypes, hskip, hname⟩ := h
  have honce := types_eq_singleton_iff.mp htypes
  rw [entryOf, FieldOptions.ofAttributes_eq_ok_iff.mpr ⟨ws, hws, honce.1, rfl⟩]
  by_cases htaken : name ∈ taken
  · simp [FieldOptions.ofWishes_eq, hskip, honce.2, ← hname, htaken]
  · cases hconstant : identifier? (screaming name.toList) <;>
      simp [FieldOptions.ofWishes_eq, hskip, honce.2, ← hname, htaken, hconstant]

/-- A field is at fault in its attributes, or it passes, or it is queried. -/
theorem fault_or_passes_or_queried (f : Field) :
    (∃ e, FieldOptions.ofAttributes f.attributes = .error e) ∨ Passes f ∨
      ∃ t name, Queried f t name := by
  cases ho : FieldOptions.ofAttributes f.attributes with
  | error e => exact .inl ⟨e, rfl⟩
  | ok o =>
    obtain ⟨ws, hws, honce, rfl⟩ := FieldOptions.ofAttributes_eq_ok_iff.mp ho
    by_cases hpass : .skip ∈ ws ∨ Wish.types ws = []
    · exact .inr (.inl ⟨ws, hws, honce, hpass⟩)
    · obtain ⟨hskip, htypes⟩ := not_or.mp hpass
      obtain ⟨t, ht⟩ := List.getLast?_isSome.mpr htypes |> Option.isSome_iff_exists.mp
      exact .inr (.inr ⟨t, _, ws, hws, types_eq_singleton_iff.mpr ⟨honce, ht⟩, hskip, rfl⟩)

theorem entryOf_eq_some_iff :
    entryOf taken f = .ok (some x) ↔
      Queried f x.type x.name ∧ x.name ∉ taken ∧
        identifier? (screaming x.name.toList) = some x.constant ∧ x.field = f.name ∧
        x.optional = f.optional := by
  constructor
  · intro h
    rcases fault_or_passes_or_queried f with ⟨e, he⟩ | hpass | ⟨t, name, hquery⟩
    · rw [entryOf, he] at h
      cases h
    · rw [entryOf_eq_none_iff.mpr hpass] at h
      cases h
    · rw [entryOf_of_queried hquery] at h
      split at h
      · cases h
      · rename_i hfree
        split at h
        · cases h
        · rename_i constant hconstant
          cases h
          exact ⟨hquery, hfree, hconstant, rfl, rfl⟩
  · rintro ⟨hquery, hfree, hconstant, hfield, hoptional⟩
    rw [entryOf_of_queried hquery, if_neg hfree, hconstant, ← hfield, ← hoptional]

theorem entryOf_eq_error_iff : entryOf taken f = .error e ↔ FieldFault taken f e := by
  constructor
  · intro h
    rcases fault_or_passes_or_queried f with ⟨e', he⟩ | hpass | ⟨t, name, hquery⟩
    · rw [entryOf, he] at h
      cases h
      exact .options (FieldOptions.ofAttributes_eq_error_iff.mp he)
    · rw [entryOf_eq_none_iff.mpr hpass] at h
      cases h
    · rw [entryOf_of_queried hquery] at h
      split at h
      · rename_i htaken
        cases h
        exact .duplicate hquery htaken
      · rename_i hfree
        split at h
        · rename_i hconstant
          cases h
          exact .constant hquery hfree hconstant
        · cases h
  · intro h
    cases h with
    | options fault => rw [entryOf, FieldOptions.ofAttributes_eq_error_iff.mpr fault]
    | duplicate query again => rw [entryOf_of_queried query, if_pos again]
    | constant query first unread => rw [entryOf_of_queried query, if_neg first, unread]

/-- Only which names are taken matters, not in which order. -/
theorem FieldFault.congr {taken' : List String} (h : ∀ name, name ∈ taken ↔ name ∈ taken') :
    FieldFault taken f e ↔ FieldFault taken' f e := by
  constructor
  · rintro (fault | ⟨query, again⟩ | ⟨query, first, unread⟩)
    · exact .options fault
    · exact .duplicate query ((h _).mp again)
    · exact .constant query (mt (h _).mpr first) unread
  · rintro (fault | ⟨query, again⟩ | ⟨query, first, unread⟩)
    · exact .options fault
    · exact .duplicate query ((h _).mpr again)
    · exact .constant query (mt (h _).mp first) unread

/-! ## All fields -/

variable {fs : List Field} {xs : List Entry}

theorem entriesOf_of_entered (h : entryOf taken f = .ok (some x)) (fs : List Field) :
    entriesOf taken (f :: fs) = (entriesOf (x.name :: taken) fs).map (x :: ·) := by
  simp only [entriesOf, h]
  cases entriesOf (x.name :: taken) fs <;> rfl

theorem entriesOf_eq_ok_iff :
    entriesOf taken fs = .ok xs ↔
      Queries fs (xs.map Entry.accessor) ∧ (xs.map (·.name)).Nodup ∧
        ∀ x ∈ xs, x.name ∉ taken ∧ identifier? (screaming x.name.toList) = some x.constant := by
  -- every entry takes its name from the fields behind it
  induction fs generalizing taken xs with
  | nil =>
    constructor
    · intro h
      cases h
      exact ⟨.nil, .nil, by simp⟩
    · rintro ⟨hqueries, -⟩
      generalize hxs : xs.map Entry.accessor = as at hqueries
      cases hqueries
      rw [List.map_eq_nil_iff.mp hxs]
      rfl
  | cons f fs ih =>
    constructor
    · intro h
      rw [entriesOf] at h
      split at h
      · cases h
      · rename_i hentry
        obtain ⟨hqueries, hrest⟩ := ih.mp h
        exact ⟨.passed (entryOf_eq_none_iff.mp hentry) hqueries, hrest⟩
      · rename_i x hentry
        split at h
        · cases h
        · rename_i ys hys
          cases h
          obtain ⟨hquery, hfree, hconstant, hfield, hoptional⟩ := entryOf_eq_some_iff.mp hentry
          obtain ⟨hqueries, hnodup, hall⟩ := ih.mp hys
          refine ⟨?_, ?_, ?_⟩
          · rw [List.map_cons, Entry.accessor, hfield, hoptional]
            exact .queried hquery hqueries
          · refine List.nodup_cons.mpr ⟨fun hmem => ?_, hnodup⟩
            obtain ⟨y, hy, hname⟩ := List.mem_map.mp hmem
            exact (hall y hy).1 (hname ▸ List.mem_cons_self)
          · refine List.forall_mem_cons.mpr ⟨⟨hfree, hconstant⟩, fun y hy => ⟨?_, (hall y hy).2⟩⟩
            exact fun hmem => (hall y hy).1 (List.mem_cons_of_mem _ hmem)
    · rintro ⟨hqueries, hnodup, hall⟩
      generalize hxs : xs.map Entry.accessor = as at hqueries
      cases hqueries with
      | passed pass rest =>
        rw [entriesOf, entryOf_eq_none_iff.mpr pass]
        exact ih.mpr ⟨hxs ▸ rest, hnodup, hall⟩
      | queried query rest =>
        cases xs with
        | nil => cases hxs
        | cons x ys =>
          rw [List.map_cons, List.cons.injEq, Entry.accessor, Accessor.mk.injEq] at hxs
          obtain ⟨⟨rfl, hfield, rfl, hoptional⟩, hys⟩ := hxs
          obtain ⟨⟨hfree, hconstant⟩, hall⟩ := List.forall_mem_cons.mp hall
          obtain ⟨hnew, hnodup⟩ := List.nodup_cons.mp hnodup
          have hrest : entriesOf (x.name :: taken) fs = .ok ys := by
            refine ih.mpr ⟨hys ▸ rest, hnodup, fun y hy => ⟨?_, (hall y hy).2⟩⟩
            intro hmem
            rcases List.mem_cons.mp hmem with hname | hmem
            · exact hnew (List.mem_map.mpr ⟨y, hy, hname⟩)
            · exact (hall y hy).1 hmem
          have hentry := entryOf_eq_some_iff.mpr ⟨query, hfree, hconstant, hfield, hoptional⟩
          rw [entriesOf_of_entered hentry, hrest]
          rfl

/-- The first field at fault gives the error, once the fields before it have taken their names. -/
theorem entriesOf_eq_error_iff :
    entriesOf taken fs = .error e ↔
      ∃ before f after, fs = before ++ f :: after ∧
        ∃ xs, entriesOf taken before = .ok xs ∧ FieldFault (xs.map (·.name) ++ taken) f e := by
  induction fs generalizing taken with
  | nil => simp [entriesOf]
  | cons f fs ih =>
    rw [exists_split_cons (P := fun before f =>
      ∃ xs, entriesOf taken before = .ok xs ∧ FieldFault (xs.map (·.name) ++ taken) f e)]
    have hfirst : (∃ xs, entriesOf taken [] = .ok xs ∧
        FieldFault (xs.map (·.name) ++ taken) f e) ↔ entryOf taken f = .error e := by
      rw [entryOf_eq_error_iff]
      simp [entriesOf]
    rw [hfirst]
    cases hentry : entryOf taken f with
    | error e' => simp [entriesOf, hentry]
    | ok entry =>
      cases entry with
      | none => simp [entriesOf, hentry, ih]
      | some x =>
        have hnext : entriesOf taken (f :: fs) = .error e ↔
            entriesOf (x.name :: taken) fs = .error e := by
          rw [entriesOf_of_entered hentry]
          cases entriesOf (x.name :: taken) fs <;> simp [Except.map]
        -- the name is taken among those before the fault, only at another place
        have hbehind : ∀ before f', (∃ xs, entriesOf taken (f :: before) = .ok xs ∧
              FieldFault (xs.map (·.name) ++ taken) f' e) ↔
            ∃ xs, entriesOf (x.name :: taken) before = .ok xs ∧
              FieldFault (xs.map (·.name) ++ x.name :: taken) f' e := by
          intro before f'
          rw [entriesOf_of_entered hentry]
          cases entriesOf (x.name :: taken) before with
          | error e' => simp [Except.map]
          | ok ys =>
            simp only [Except.map, Except.ok.injEq, exists_eq_left', List.map_cons]
            exact FieldFault.congr fun name => by simp [or_left_comm]
        rw [hnext, ih]
        simp only [hbehind, reduceCtorEq, false_or]

end Registry
end RecordRules
