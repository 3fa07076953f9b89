import RecordRules.Proofs.Lists
import RecordRules.Registry

/-!
# RecordRules.Proofs.Registry.Options

What the attributes of a declared field ask for.

* `Asks` says what an item can ask for, `Refused` why one is turned down where it stands.
* `HasWishes` reads the first attribute that is called `query` as the list of what its items ask
  for. The options of a field are these wishes granted one after the other
  (`ofAttributes_eq_ok_iff`), as long as one of them at most names a type; otherwise the first item
  at fault is reported (`ofAttributes_eq_error_iff`).
-/

namespace RecordRules

open Declaration (Attribute AttributeItem)

/-- The words that name a type. -/
def ValueType.words : ValueType → List String
  | .text => ["Text", "text", "String", "string"]
  | .number => ["Number", "number"]
  | .bool => ["Bool", "bool", "boolean"]

inductive Wish where
  | skip
  | type (t : ValueType)
  | rename (name : String)
deriving DecidableEq

namespace Wish

def type? : Wish → Option ValueType
  | .type t => some t
  | _ => none

def name? : Wish → Option String
  | .rename name => some name
  | _ => none

def types (ws : List Wish) : List ValueType :=
  ws.filterMap type?

def names (ws : List Wish) : List String :=
  ws.filterMap name?

theorem types_cons (w : Wish) (ws : List Wish) : types (w :: ws) = w.type?.toList ++ types ws := by
  cases w <;> rfl

theorem names_cons (w : Wish) (ws : List Wish) : names (w :: ws) = w.name?.toList ++ names ws := by
  cases w <;> rfl

end Wish

/-- The word that skips a field, a word for a type, or a new name that is not blank. -/
inductive Asks : AttributeItem → Wish → Prop where
  | skip {p : Declaration.AttributePath} (word : p.word? = some "skip") : Asks (.path p) .skip
  | type {p : Declaration.AttributePath} {w : String} {t : ValueType} (word : p.word? = some w)
      (known : w ∈ t.words) : Asks (.path p) (.type t)
  | rename {p : Declaration.AttributePath} {name : String} (word : p.word? = some "rename")
      (named : Text.allBlank name.toList = false) : Asks (.value p (some name)) (.rename name)

/-- Why an item is turned down, where `typed` says that an item before it names a type. -/
inductive Refused (typed : Prop) : AttributeItem → RegistryFault → Prop where
  | noWord {p : Declaration.AttributePath} (word : p.word? = none) : Refused typed (.path p) .noWord
  | second {p : Declaration.AttributePath} {w : String} (word : p.word? = some w)
      (other : w ≠ "skip") (again : typed) : Refused typed (.path p) .secondType
  | unknown {p : Declaration.AttributePath} {w : String} (word : p.word? = some w)
      (other : w ≠ "skip") (first : ¬typed) (unknown : ∀ t : ValueType, w ∉ t.words) :
      Refused typed (.path p) (.unknownType w)
  | badName {p : Declaration.AttributePath} {text : Option String} (word : p.word? = some "rename")
      (unnamed : ∀ name, text = some name → Text.allBlank name.toList = true) :
      Refused typed (.value p text) .badName
  | otherValue {p : Declaration.AttributePath} {text : Option String}
      (word : p.word? ≠ some "rename") : Refused typed (.value p text) .unknownItem
  | group {p : Declaration.AttributePath} : Refused typed (.group p) .unknownItem

/-- The first attribute called `query`. -/
def Counts (as : List Attribute) (a : Attribute) : Prop :=
  ∃ before after, as = before ++ a :: after ∧ a.path.word? = some "query" ∧
    ∀ b ∈ before, b.path.word? ≠ some "query"

/-- What the items of the attribute that counts ask for, one wish an item. -/
inductive HasWishes (as : List Attribute) : List Wish → Prop where
  | absent (h : ∀ a ∈ as, a.path.word? ≠ some "query") : HasWishes as []
  | counted {a : Attribute} {items : List AttributeItem} {ws : List Wish} (counts : Counts as a)
      (read : a.items = some items) (asks : List.Forall₂ Asks items ws) : HasWishes as ws

/-- Why the attribute that counts gives no options: its items cannot be read at all, or one of them
is turned down behind others that ask for something. -/
inductive OptionsFault (as : List Attribute) : RegistryFault → Prop where
  | malformed {a : Attribute} (counts : Counts as a) (unread : a.items = none) :
      OptionsFault as .malformed
  | refused {a : Attribute} {before after : List AttributeItem} {item : AttributeItem}
      {ws : List Wish} {e : RegistryFault} (counts : Counts as a)
      (read : a.items = some (before ++ item :: after)) (asks : List.Forall₂ Asks before ws)
      (once : (Wish.types ws).length ≤ 1) (refused : Refused (Wish.types ws ≠ []) item e) :
      OptionsFault as e

namespace FieldOptions

/-! ## Items -/

theorem typeOf?_eq_some_iff {word : String} {t : ValueType} :
    typeOf? word = some t ↔ word ∈ t.words := by
  constructor
  · intro h
    rw [typeOf?] at h
    split at h
    · rename_i hw
      cases h
      exact List.contains_iff_mem.mp hw
    · split at h
      · rename_i hw
        cases h
        exact List.contains_iff_mem.mp hw
      · split at h
        · rename_i hw
          cases h
          exact List.contains_iff_mem.mp hw
        · cases h
  · intro h
    -- no word names two types
    have hwords : ∀ t : ValueType, ∀ w ∈ t.words, typeOf? w = some t := by
      intro t
      cases t <;> decide
    exact hwords t word h

theorem typeOf?_eq_none_iff {word : String} :
    typeOf? word = Option.none ↔ ∀ t : ValueType, word ∉ t.words := by
  rw [Option.eq_none_iff_forall_ne_some]
  exact forall_congr' fun t => not_congr typeOf?_eq_some_iff

theorem skip_not_mem_words (t : ValueType) : "skip" ∉ t.words := by
  cases t <;> decide

def grant (o : FieldOptions) : Wish → FieldOptions
  | .skip => { o with skip := true }
  | .type t => { o with type := some t }
  | .rename name => { o with rename := some name }

variable {o o' : FieldOptions} {item : AttributeItem} {e : RegistryFault}

/-- An item is taken where it asks for something, and for a type only where none was named. -/
theorem take_eq_ok_iff :
    o.take item = .ok o' ↔
      ∃ w, Asks item w ∧ (w.type? = Option.none ∨ o.type = Option.none) ∧ o' = o.grant w := by
  constructor
  · intro h
    cases item with
    | path p =>
      simp only [take] at h
      split at h
      · cases h
      · rename_i w hw
        split at h
        · rename_i hskip
          cases h
          exact ⟨.skip, .skip (hskip ▸ hw), .inl rfl, rfl⟩
        · split at h
          · cases h
          · rename_i ht
            split at h
            · cases h
            · rename_i t htype
              cases h
              have hknown := typeOf?_eq_some_iff.mp htype
              exact ⟨.type t, .type hw hknown, .inr (by simpa using ht), rfl⟩
    | value p text =>
      simp only [take] at h
      split at h
      · rename_i hword
        split at h
        · rename_i name
          split at h
          · cases h
          · rename_i hblank
            cases h
            exact ⟨.rename name, .rename hword (by simpa using hblank), .inl rfl, rfl⟩
        · cases h
      · cases h
    | group p => cases h
  · rintro ⟨w, ha, hfree, rfl⟩
    cases ha with
    | skip word => simp [take, word, grant]
    | @type p w t word known =>
      have hskip : w ≠ "skip" := fun hs => skip_not_mem_words t (hs ▸ known)
      have htype : o.type = Option.none := by simpa [Wish.type?] using hfree
      simp [take, word, hskip, htype, typeOf?_eq_some_iff.mpr known, grant]
    | rename word named => simp [take, word, named, grant]

theorem take_eq_error_iff : o.take item = .error e ↔ Refused (o.type.isSome = true) item e := by
  constructor
  · intro h
    cases item with
    | path p =>
      simp only [take] at h
      split at h
      · rename_i hw
        cases h
        exact .noWord hw
      · rename_i w hw
        split at h
        · cases h
        · rename_i hskip
          split at h
          · rename_i ht
            cases h
            exact .second hw hskip ht
          · rename_i ht
            split at h
            · rename_i htype
              cases h
              exact .unknown hw hskip ht (typeOf?_eq_none_iff.mp htype)
            · cases h
    | value p text =>
      simp only [take] at h
      split at h
      · rename_i hword
        split at h
        · split at h
          · rename_i name hblank
            cases h
            exact .badName hword fun n hn => Option.some.inj hn ▸ hblank
          · cases h
        · cases h
          exact .badName hword fun n hn => by cases hn
      · rename_i hword
        cases h
        exact .otherValue hword
    | group p =>
      cases h
      exact .group
  · intro h
    cases h with
    | noWord word => simp [take, word]
    | second word other again => simp [take, word, other, again]
    | unknown word other first unknown =>
      simp [take, word, other, first, typeOf?_eq_none_iff.mpr unknown]
    | @badName p text word unnamed =>
      cases text with
      | none => simp [take, word]
      | some name => simp [take, word, unnamed name rfl]
    | otherValue word => simp [take, word]
    | group => rfl

/-! ## All items -/

variable {w : Wish} {ws : List Wish} {items : List AttributeItem}

def grantAll (o : FieldOptions) (ws : List Wish) : FieldOptions :=
  ws.foldl grant o

theorem grant_type (o : FieldOptions) (w : Wish) : (o.grant w).type = w.type?.or o.type := by
  cases w <;> rfl

/-- The last type and the last name win, and one word is enough to skip the field. -/
theorem grantAll_eq (o : FieldOptions) (ws : List Wish) :
    o.grantAll ws =
      ⟨(Wish.types ws).getLast?.or o.type, o.skip || decide (.skip ∈ ws),
        (Wish.names ws).getLast?.or o.rename⟩ := by
  induction ws generalizing o with
  | nil => simp [grantAll, Wish.types, Wish.names]
  | cons w ws ih =>
    rw [grantAll, List.foldl_cons, ← grantAll, ih]
    cases w <;>
      simp [grant, Wish.types_cons, Wish.names_cons, Wish.type?, Wish.name?, List.getLast?_cons]

/-- One type is left to name where none was named yet. -/
theorem once_cons {o : FieldOptions} {w : Wish} {ws : List Wish} :
    o.type.toList.length + (Wish.types (w :: ws)).length ≤ 1 ↔
      (w.type? = Option.none ∨ o.type = Option.none) ∧
        (o.grant w).type.toList.length + (Wish.types ws).length ≤ 1 := by
  rw [Wish.types_cons, grant_type]
  cases w.type? with
  | none => simp
  | some t =>
    cases o.type with
    | none => simp [Nat.add_comm 1]
    | some t' => simp [Nat.add_comm 1]

theorem takeAll_eq_ok_iff {o o' : FieldOptions} {items : List AttributeItem} :
    o.takeAll items = .ok o' ↔
      ∃ ws, List.Forall₂ Asks items ws ∧
        o.type.toList.length + (Wish.types ws).length ≤ 1 ∧ o' = o.grantAll ws := by
  -- the options so far count among the types, so that the bound passes from an item to those behind
  induction items generalizing o with
  | nil =>
    constructor
    · intro h
      refine ⟨[], .nil, ?_, (Except.ok.inj h).symm⟩
      cases o.type <;> simp [Wish.types]
    · rintro ⟨ws, hasks, -, rfl⟩
      cases hasks
      rfl
  | cons item items ih =>
    constructor
    · intro h
      rw [takeAll] at h
      split at h
      · cases h
      · rename_i next hnext
        obtain ⟨w, hw, hfree, rfl⟩ := take_eq_ok_iff.mp hnext
        obtain ⟨ws, hws, honce, rfl⟩ := ih.mp h
        exact ⟨w :: ws, .cons hw hws, once_cons.mpr ⟨hfree, honce⟩, rfl⟩
    · rintro ⟨ws, hasks, honce, rfl⟩
      cases hasks with
      | @cons _ w _ ws hw hws =>
        obtain ⟨hfree, honce⟩ := once_cons.mp honce
        rw [takeAll, take_eq_ok_iff.mpr ⟨w, hw, hfree, rfl⟩]
        exact ih.mpr ⟨ws, hws, honce, rfl⟩

/-- The first item that is turned down gives the error, and those before it are granted. -/
theorem takeAll_eq_error_iff {o : FieldOptions} {items : List AttributeItem} {e : RegistryFault} :
    o.takeAll items = .error e ↔
      ∃ before item after, items = before ++ item :: after ∧
        ∃ o', o.takeAll before = .ok o' ∧ o'.take item = .error e := by
  induction items generalizing o with
  | nil => simp [takeAll]
  | cons item items ih =>
    rw [exists_split_cons
      (P := fun before item => ∃ o', o.takeAll before = .ok o' ∧ o'.take item = .error e)]
    cases hitem : o.take item with
    | error e' => simp [takeAll, hitem]
    | ok next => simp [takeAll, hitem, ih]

/-! ## The attribute that counts -/

variable {as : List Attribute} {a : Attribute}

theorem counts_iff :
    Counts as a ↔ as.find? (fun b => decide (b.path.word? = some "query")) = some a := by
  simp only [Counts, List.find?_eq_some_iff_append, decide_eq_true_eq, Bool.not_eq_true',
    decide_eq_false_iff_not]
  constructor
  · rintro ⟨before, after, hsplit, hword, hbefore⟩
    exact ⟨hword, before, after, hsplit, hbefore⟩
  · rintro ⟨hword, before, after, hsplit, hbefore⟩
    exact ⟨before, after, hsplit, hword, hbefore⟩

theorem ofAttributes_eq (as : List Attribute) :
    ofAttributes as =
      match as.find? fun b => decide (b.path.word? = some "query") with
      | Option.none => .ok none
      | some a =>
        match a.items with
        | Option.none => .error .malformed
        | some items => none.takeAll items := by
  induction as with
  | nil => rfl
  | cons a as ih =>
    rw [ofAttributes, List.find?_cons]
    by_cases hword : a.path.word? = some "query"
    · cases hitems : a.items <;> simp [hword, hitems]
    · simp [hword, ih]

/-- The options that wishes come to. -/
def ofWishes (ws : List Wish) : FieldOptions :=
  none.grantAll ws

theorem ofWishes_eq (ws : List Wish) :
    ofWishes ws =
      ⟨(Wish.types ws).getLast?, decide (.skip ∈ ws), (Wish.names ws).getLast?⟩ := by
  simp [ofWishes, grantAll_eq, none]

theorem ofAttributes_eq_ok_iff {o : FieldOptions} :
    ofAttributes as = .ok o ↔
      ∃ ws, HasWishes as ws ∧ (Wish.types ws).length ≤ 1 ∧ o = ofWishes ws := by
  have hread : ∀ {items}, none.takeAll items = .ok o ↔
      ∃ ws, List.Forall₂ Asks items ws ∧ (Wish.types ws).length ≤ 1 ∧ o = ofWishes ws := by
    intro items
    simp [takeAll_eq_ok_iff, ofWishes, none]
  rw [ofAttributes_eq]
  constructor
  · intro h
    split at h
    · rename_i hfind
      refine ⟨[], .absent ?_, Nat.zero_le 1, (Except.ok.inj h).symm⟩
      simpa using hfind
    · rename_i a hfind
      split at h
      · cases h
      · rename_i items hitems
        obtain ⟨ws, hasks, honce, rfl⟩ := hread.mp h
        exact ⟨ws, .counted (counts_iff.mpr hfind) hitems hasks, honce, rfl⟩
  · rintro ⟨ws, hws, honce, rfl⟩
    cases hws with
    | absent h =>
      have hfind : as.find? (fun b => decide (b.path.word? = some "query")) = Option.none := by
        simpa using h
      rw [hfind]
      rfl
    | counted counts read asks =>
      rw [counts_iff.mp counts]
      simp only [read]
      exact hread.mpr ⟨ws, asks, honce, rfl⟩

theorem ofAttributes_eq_error_iff {e : RegistryFault} :
    ofAttributes as = .error e ↔ OptionsFault as e := by
  have htyped : ∀ ws, ((ofWishes ws).type.isSome = true) = (Wish.types ws ≠ []) := by
    intro ws
    simp [ofWishes_eq]
  rw [ofAttributes_eq]
  constructor
  · intro h
    split at h
    · cases h
    · rename_i a hfind
      split at h
      · rename_i hitems
        cases h
        exact .malformed (counts_iff.mpr hfind) hitems
      · rename_i items hitems
        obtain ⟨before, item, after, rfl, o, ho, hitem⟩ := takeAll_eq_error_iff.mp h
        obtain ⟨ws, hasks, honce, rfl⟩ := takeAll_eq_ok_iff.mp ho
        refine .refused (counts_iff.mpr hfind) hitems hasks (by simpa [none] using honce) ?_
        rw [← htyped]
        exact take_eq_error_iff.mp hitem
  · intro h
    cases h with
    | malformed counts unread =>
      rw [counts_iff.mp counts]
      simp only [unread]
    | @refused a before after item ws e counts read asks once refused =>
      rw [counts_iff.mp counts]
      simp only [read]
      rw [← htyped] at refused
      refine takeAll_eq_error_iff.mpr ⟨before, item, after, rfl, ofWishes ws, ?_, ?_⟩
      · exact takeAll_eq_ok_iff.mpr ⟨ws, asks, by simpa [none] using once, rfl⟩
      · exact take_eq_error_iff.mpr refused

end FieldOptions
end RecordRules
