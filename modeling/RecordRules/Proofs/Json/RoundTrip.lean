import Mathlib.Data.List.Basic
import Mathlib.Data.List.TakeWhile
import RecordRules.Json.Reading
import RecordRules.Json.Writing
import RecordRules.Proofs.Number

/-!
# RecordRules.Proofs.Json.RoundTrip

JSON documents read back from their own text.

* Texts: every character is read as one part, escaped or not (`exists_parts`).
* Numbers: what a literal is does not depend on what follows it (`numberText_append`), and whole
  numbers of 64 bits are written as literals that stand for them (`numberText_intDigits`). Of a
  floating-point value the same is assumed (`FloatReadsBack`).
* `Writable` says which documents can be read back, and counts the containers that lie in each
  other. `valueFrom_write` reads such a document in front of any text that does not go on with a
  number; the induction is on `Writable`, with one lemma per container. `read_write` is the result
  for a whole text.
-/

namespace RecordRules
namespace Json

/-! ## Texts -/

section Texts

theorem hexValue?_control {n : Nat} (h : n < 32) :
    Text.hexValue? ['0', '0', hexDigit (n / 16), hexDigit (n % 16)] = some n := by
  revert n
  decide

theorem assembled?_char (c : Char) (parts : List TextPart) :
    assembled? (.char c :: parts) = (assembled? parts).map (c :: ·) := by
  rw [assembled?]

theorem assembled?_control {c : Char} (h : c.toNat < 32) (parts : List TextPart) :
    assembled? (.unit c.toNat :: parts) = (assembled? parts).map (c :: ·) := by
  have hhigh : isHighSurrogate c.toNat = false := by
    simp only [isHighSurrogate, Bool.and_eq_false_iff, decide_eq_false_iff_not]
    omega
  have hlow : isLowSurrogate c.toNat = false := by
    simp only [isLowSurrogate, Bool.and_eq_false_iff, decide_eq_false_iff_not]
    omega
  rw [assembled?.eq_def]
  simp only [hhigh, hlow, Char.ofNat_toNat, Bool.false_eq_true, if_false]

/-- A letter behind a backslash. -/
theorem textParts_escaped {letter c : Char} (h : escaped? letter = some c) (rest : List Char) :
    textParts ('\\' :: letter :: rest) =
      (textParts rest).map fun p => (.char c :: p.1, p.2) := by
  have hu : letter ≠ 'u' := by
    rintro rfl
    cases h
  rw [textParts, h]
  · cases textParts rest <;> rfl
  · exact fun _ _ _ _ _ he _ => hu he

theorem textParts_control {n : Nat} (h : n < 32) (rest : List Char) :
    textParts ('\\' :: 'u' :: '0' :: '0' :: hexDigit (n / 16) :: hexDigit (n % 16) :: rest) =
      (textParts rest).map fun p => (.unit n :: p.1, p.2) := by
  rw [textParts, hexValue?_control h]
  cases textParts rest <;> rfl

theorem textParts_plain {c : Char} (hq : c ≠ '"') (hb : c ≠ '\\') (h : ¬c.toNat < 32)
    (rest : List Char) :
    textParts (c :: rest) = (textParts rest).map fun p => (.char c :: p.1, p.2) := by
  rw [textParts, if_neg h]
  · cases textParts rest <;> rfl
  · exact hq
  · exact fun _ _ _ _ _ he _ => absurd he hb
  · exact fun _ _ he _ => absurd he hb

/-- A character inside a text is read as one part, and the part stands for the character. -/
theorem exists_part (c : Char) : ∃ part,
    (∀ rest, textParts (escapedChar c ++ rest) =
      (textParts rest).map fun p => (part :: p.1, p.2)) ∧
    ∀ parts, assembled? (part :: parts) = (assembled? parts).map (c :: ·) := by
  rw [escapedChar]
  -- the seven characters with an escape of one letter
  iterate 7
    split
    · subst_vars
      exact ⟨_, textParts_escaped rfl, assembled?_char _⟩
  split
  · rename_i h
    exact ⟨_, textParts_control h, assembled?_control h⟩
  · rename_i hq hb _ _ _ _ _ h
    exact ⟨_, textParts_plain hq hb h, assembled?_char _⟩

/-- A text up to its closing quote is read as parts that stand for it. -/
theorem exists_parts (cs : List Char) : ∃ parts,
    (∀ rest, textParts (cs.flatMap escapedChar ++ '"' :: rest) = some (parts, rest)) ∧
    assembled? parts = some cs := by
  induction cs with
  | nil => exact ⟨[], fun rest => rfl, rfl⟩
  | cons c cs ih =>
    obtain ⟨part, hpart, hc⟩ := exists_part c
    obtain ⟨parts, hparts, hcs⟩ := ih
    refine ⟨part :: parts, fun rest => ?_, ?_⟩
    · rw [List.flatMap_cons, List.append_assoc, hpart, hparts]
      rfl
    · rw [hc, hcs]
      rfl

end Texts

/-! ## Numbers -/

/-- No character of a number follows. -/
def Ends (rest : List Char) : Prop :=
  ∀ c ∈ rest.head?, Decimal.isDigit c = false ∧ c ≠ '.' ∧ c ≠ 'e' ∧ c ≠ 'E'

section Numbers

variable {rest : List Char}

theorem ends_cons {c : Char}
    (h : Decimal.isDigit c = false ∧ c ≠ '.' ∧ c ≠ 'e' ∧ c ≠ 'E') (rest : List Char) :
    Ends (c :: rest) := by
  intro c' hc'
  cases hc'
  exact h

theorem takeWhile_append_of_ends (h : Ends rest) (cs : List Char) :
    (cs ++ rest).takeWhile Decimal.isDigit = cs.takeWhile Decimal.isDigit := by
  induction cs with
  | nil =>
    cases rest with
    | nil => rfl
    | cons c rest =>
      have hc := (h c rfl).1
      simp [hc]
  | cons c cs ih =>
    rw [List.cons_append, List.takeWhile_cons, List.takeWhile_cons, ih]

theorem dropWhile_append_of_ends (h : Ends rest) (cs : List Char) :
    (cs ++ rest).dropWhile Decimal.isDigit = cs.dropWhile Decimal.isDigit ++ rest := by
  induction cs with
  | nil =>
    cases rest with
    | nil => rfl
    | cons c rest =>
      have hc := (h c rfl).1
      simp [hc]
  | cons c cs ih =>
    rw [List.cons_append, List.dropWhile_cons, List.dropWhile_cons, ih]
    split <;> rfl

theorem fractionPart_append (h : Ends rest) {cs more : List Char} {fraction : Option (List Char)}
    (hf : fractionPart cs = some (fraction, more)) :
    fractionPart (cs ++ rest) = some (fraction, more ++ rest) := by
  cases cs with
  | nil =>
    cases hf
    cases rest with
    | nil => rfl
    | cons c rest =>
      have hc := (h c rfl).2.1
      rw [List.nil_append, fractionPart.eq_def]
      split <;> simp_all
  | cons c cs =>
    rw [fractionPart.eq_def] at hf
    split at hf
    · rename_i heq
      cases heq
      simp only [List.cons_append, fractionPart, takeWhile_append_of_ends h,
        dropWhile_append_of_ends h]
      simp only [] at hf
      split at hf
      · cases hf
      · rename_i hne
        cases hf
        rw [if_neg hne]
    · rename_i hne
      cases hf
      rw [List.cons_append, fractionPart]
      rintro cs' heq
      cases heq
      exact hne cs rfl

theorem splitSign_append {cs : List Char} (hne : cs ≠ []) (rest : List Char) :
    Decimal.splitSign (cs ++ rest) =
      ((Decimal.splitSign cs).1, (Decimal.splitSign cs).2 ++ rest) := by
  cases cs with
  | nil => exact absurd rfl hne
  | cons c cs =>
    rw [List.cons_append, Decimal.splitSign.eq_def, Decimal.splitSign.eq_def]
    split <;> simp_all

theorem exponentPart_append (h : Ends rest) {cs more : List Char} {exponent : Option Int}
    (he : exponentPart cs = some (exponent, more)) :
    exponentPart (cs ++ rest) = some (exponent, more ++ rest) := by
  cases cs with
  | nil =>
    cases he
    cases rest with
    | nil => rfl
    | cons c rest =>
      have hc := (h c rfl).2.2
      simp [exponentPart, hc]
  | cons c cs =>
    rw [exponentPart] at he
    rw [List.cons_append, exponentPart]
    split at he
    · rename_i hmark
      have hne : cs ≠ [] := by
        rintro rfl
        cases he
      rw [if_pos hmark, splitSign_append hne]
      simp only [takeWhile_append_of_ends h, dropWhile_append_of_ends h]
      simp only [] at he
      split at he
      · cases he
      · cases he
        rfl
    · rename_i hmark
      cases he
      rw [if_neg hmark]
      rfl

/-- A number literal behind its sign. -/
def numberBody (negative : Bool) (body : List Char) : Option (NumberText × List Char) :=
  let whole := body.takeWhile Decimal.isDigit
  if whole.isEmpty || (whole.head? == some '0' && decide (1 < whole.length)) then none
  else
    match fractionPart (body.dropWhile Decimal.isDigit) with
    | none => none
    | some (fraction, cs) =>
      match exponentPart cs with
      | none => none
      | some (exponent, rest) => some (⟨negative, whole, fraction, exponent⟩, rest)

theorem numberText_minus (cs : List Char) : numberText ('-' :: cs) = numberBody true cs :=
  rfl

theorem numberText_of_ne {c : Char} (h : c ≠ '-') (cs : List Char) :
    numberText (c :: cs) = numberBody false (c :: cs) := by
  rw [numberText.eq_def]
  split
  · rename_i heq
    split at heq
    · rename_i hcons
      exact absurd (List.cons.inj hcons).1 h
    · cases heq
      rfl

theorem numberBody_append (h : Ends rest) {negative : Bool} {body more : List Char}
    {t : NumberText} (hb : numberBody negative body = some (t, more)) :
    numberBody negative (body ++ rest) = some (t, more ++ rest) := by
  simp only [numberBody, takeWhile_append_of_ends h, dropWhile_append_of_ends h] at hb ⊢
  split at hb
  · cases hb
  · rename_i hwhole
    rw [if_neg hwhole]
    split at hb
    · cases hb
    · rename_i hf
      rw [fractionPart_append h hf]
      simp only []
      split at hb
      · cases hb
      · rename_i he
        cases hb
        rw [exponentPart_append h he]

/-- What a number literal is does not depend on what follows it. -/
theorem numberText_append (h : Ends rest) {cs more : List Char} {t : NumberText}
    (hn : numberText cs = some (t, more)) : numberText (cs ++ rest) = some (t, more ++ rest) := by
  cases cs with
  | nil => cases hn
  | cons c cs =>
    by_cases hc : c = '-'
    · subst hc
      exact numberBody_append h hn
    · rw [numberText_of_ne hc] at hn
      rw [List.cons_append, numberText_of_ne hc]
      exact numberBody_append h hn

/-- A number literal starts with a minus sign or a digit. -/
theorem head_of_numberText {c : Char} {cs : List Char} {p : NumberText × List Char}
    (hn : numberText (c :: cs) = some p) : c = '-' ∨ Decimal.isDigit c = true := by
  by_cases hc : c = '-'
  · exact .inl hc
  · rw [numberText_of_ne hc] at hn
    cases hd : Decimal.isDigit c with
    | true => exact .inr rfl
    | false => simp [numberBody, hd] at hn

end Numbers

section Integers

open Decimal (natDigits intDigits signed)

theorem natDigits_of_ten_le {n : Nat} (h : 10 ≤ n) :
    natDigits n = natDigits (n / 10) ++ [Nat.digitChar (n % 10)] :=
  Nat.toDigits_of_base_le (by decide) h

/-- Only zero starts with a zero. -/
theorem head?_natDigits {n : Nat} (h : 0 < n) : (natDigits n).head? ≠ some '0' := by
  induction n using Nat.strongRecOn with
  | ind n ih =>
    by_cases hn : n < 10
    · rw [natDigits, Nat.toDigits_of_lt_base hn, List.head?_cons, ne_eq, Option.some.injEq,
        Nat.digitChar_eq_zero]
      omega
    · have hhead := ih (n / 10) (by omega) (by omega)
      rw [natDigits_of_ten_le (by omega),
        List.head?_append_of_ne_nil _ (Decimal.natDigits_ne_nil _)]
      exact hhead

theorem natDigits_not_padded (n : Nat) :
    ((natDigits n).head? == some '0' && decide (1 < (natDigits n).length)) = false := by
  by_cases h : n = 0
  · subst h
    rfl
  · have hhead := head?_natDigits (Nat.pos_of_ne_zero h)
    simp [hhead]

theorem numberBody_natDigits (negative : Bool) (n : Nat) :
    numberBody negative (natDigits n) = some (⟨negative, natDigits n, none, none⟩, []) := by
  have hdigits := List.all_eq_true.mp (Decimal.natDigits_digits n)
  have hne : (natDigits n).isEmpty = false := by
    simpa using Decimal.natDigits_ne_nil n
  simp only [numberBody, List.takeWhile_eq_self_iff.mpr hdigits, natDigits_not_padded, hne,
    List.dropWhile_eq_nil_iff.mpr hdigits]
  rfl

theorem numberText_natDigits (n : Nat) :
    numberText (natDigits n) = some (⟨false, natDigits n, none, none⟩, []) := by
  have hbody := numberBody_natDigits false n
  cases hd : natDigits n with
  | nil => exact absurd hd (Decimal.natDigits_ne_nil n)
  | cons d ds =>
    have hdigit : Decimal.isDigit d = true :=
      List.all_eq_true.mp (Decimal.natDigits_digits n) d (by rw [hd]; exact List.mem_cons_self)
    have hminus : d ≠ '-' := by
      rintro rfl
      cases hdigit
    rw [numberText_of_ne hminus, ← hd, hbody]

/-- The text of a whole number of 64 bits is a literal that stands for it. -/
theorem numberText_intDigits {n : Int} (h : -0x8000000000000000 ≤ n ∧ n < 0x10000000000000000) :
    ∃ t, numberText (intDigits n) = some (t, []) ∧ t.value = .integer n := by
  by_cases hn : n < 0
  · refine ⟨⟨true, natDigits n.natAbs, none, none⟩, ?_, ?_⟩
    · rw [intDigits, if_pos hn, numberText_minus, numberBody_natDigits]
    · have hvalue : signed true (Decimal.digitsValue (natDigits n.natAbs)) = n := by
        rw [Decimal.digitsValue_natDigits, signed, if_pos rfl]
        omega
      have hzero : (n == 0) = false := by
        rw [beq_eq_false_iff_ne]
        omega
      simp [NumberText.value, hvalue, hzero, h]
  · refine ⟨⟨false, natDigits n.natAbs, none, none⟩, ?_, ?_⟩
    · rw [intDigits, if_neg hn]
      exact numberText_natDigits n.natAbs
    · have hvalue : signed false (Decimal.digitsValue (natDigits n.natAbs)) = n := by
        rw [Decimal.digitsValue_natDigits, signed, if_neg (by simp)]
        omega
      simp [NumberText.value, hvalue, h]

end Integers

/-! ## Documents -/

/-- The text of a floating-point value is a literal that stands for it. -/
def FloatReadsBack (x : Binary64) : Prop :=
  ∃ t, numberText (Json.write (.float x)) = some (t, []) ∧ t.value = .float x

/-- Documents that can be read back from their text: integers have 64 bits, floating-point values
are read back, keys are there, and at most `depth` containers lie in each other. -/
inductive Writable : (depth : Nat) → Json → Prop where
  | null {d : Nat} : Writable d .null
  | bool {d : Nat} (b : Bool) : Writable d (.bool b)
  | integer {d : Nat} {n : Int} (fits : -0x8000000000000000 ≤ n ∧ n < 0x10000000000000000) :
      Writable d (.integer n)
  | float {d : Nat} {x : Binary64} (back : FloatReadsBack x) : Writable d (.float x)
  | text {d : Nat} (s : String) : Writable d (.text s)
  | list {d : Nat} {items : List Json} (each : ∀ v ∈ items, Writable d v) :
      Writable (d + 1) (.list items)
  | object {d : Nat} {entries : List (Option String × Json)}
      (keyed : ∀ e ∈ entries, ∃ key, e.1 = some key) (each : ∀ e ∈ entries, Writable d e.2) :
      Writable (d + 1) (.object entries)

/-- A value can start with the character: it is neither passed over nor the end of a container. -/
def Starts (c : Char) : Prop :=
  isSpace c = false ∧ c ≠ ']' ∧ c ≠ '\x7d'

instance (c : Char) : Decidable (Starts c) :=
  inferInstanceAs (Decidable (_ ∧ _))

theorem starts_of_isDigit {c : Char} (h : Decimal.isDigit c = true) : Starts c := by
  have hne : ∀ d : Char, Decimal.isDigit d = false → c ≠ d := by
    rintro d hd rfl
    rw [h] at hd
    cases hd
  refine ⟨?_, hne _ rfl, hne _ rfl⟩
  simp [isSpace, hne ' ' rfl, hne '\t' rfl, hne '\n' rfl, hne '\r' rfl]

theorem starts_of_numberText {cs : List Char} {p : NumberText × List Char}
    (h : numberText cs = some p) : ∃ c cs', cs = c :: cs' ∧ Starts c := by
  cases cs with
  | nil => cases h
  | cons c cs =>
    refine ⟨c, cs, rfl, ?_⟩
    obtain rfl | hd := head_of_numberText h
    · decide
    · exact starts_of_isDigit hd

theorem exists_start {d : Nat} {v : Json} (h : Writable d v) :
    ∃ c cs, v.write = c :: cs ∧ Starts c := by
  cases h with
  | null => exact ⟨_, _, rfl, by decide⟩
  | bool b => cases b <;> exact ⟨_, _, rfl, by decide⟩
  | integer fits =>
    obtain ⟨t, ht, -⟩ := numberText_intDigits fits
    exact starts_of_numberText ht
  | float back =>
    obtain ⟨t, ht, -⟩ := back
    exact starts_of_numberText ht
  | text s => exact ⟨_, _, rfl, by decide⟩
  | list each => exact ⟨_, _, rfl, by decide⟩
  | object keyed each => exact ⟨_, _, rfl, by decide⟩

theorem skipSpace_of_starts {c : Char} (h : Starts c) (cs : List Char) :
    skipSpace (c :: cs) = c :: cs := by
  rw [skipSpace, List.dropWhile_cons_of_neg (by simp [h.1])]

theorem skipSpace_write {d : Nat} {v : Json} (h : Writable d v) (rest : List Char) :
    skipSpace (v.write ++ rest) = v.write ++ rest := by
  obtain ⟨c, cs, hw, hc⟩ := exists_start h
  rw [hw, List.cons_append, skipSpace_of_starts hc]

/-! ### Containers -/

section Containers

/-- The value is read from its text, in front of whatever can follow it. -/
def ReadBy (value : List Char → Json × Option (List Char)) (v : Json) : Prop :=
  ∀ rest, Ends rest → value (skipSpace (v.write ++ rest)) = (v, some rest)

variable {value : List Char → Json × Option (List Char)}

theorem itemsFrom_write {items : List Json} (hne : items ≠ []) {bound : Nat}
    (hbound : items.length ≤ bound) (hvalue : ∀ v ∈ items, ReadBy value v) (rest : List Char) :
    itemsFrom value bound (writeItems items ++ ']' :: rest) = (items, some rest) := by
  induction items generalizing bound with
  | nil => exact absurd rfl hne
  | cons v vs ih =>
    obtain ⟨hv, hvs⟩ := List.forall_mem_cons.mp hvalue
    cases bound with
    | zero => cases hbound
    | succ bound =>
      cases vs with
      | nil =>
        rw [writeItems, itemsFrom, hv _ (ends_cons (by decide) _)]
        rfl
      | cons w vs =>
        have hrest := ih (List.cons_ne_nil _ _) (Nat.le_of_succ_le_succ hbound) hvs
        rw [writeItems, itemsFrom, List.append_assoc, List.cons_append,
          hv _ (ends_cons (by decide) _)]
        simp only [skipSpace_of_starts (c := ',') (by decide), hrest]

/-- An entry is read from its text, in front of a comma or of the end of the object. -/
theorem entriesFrom_quoted {bound : Nat} (key : String) {cs : List Char} {v : Json} {next : Char}
    {more : List Char} (hv : value (skipSpace cs) = (v, some (next :: more))) :
    (next = ',' → entriesFrom value (bound + 1) (quoted key ++ ':' :: cs) =
      ((some key, v) :: (entriesFrom value bound more).1, (entriesFrom value bound more).2)) ∧
    (next = '\x7d' → entriesFrom value (bound + 1) (quoted key ++ ':' :: cs) =
      ([(some key, v)], some more)) := by
  obtain ⟨parts, hparts, hassembled⟩ := exists_parts key.toList
  rw [quoted, entriesFrom]
  simp only [List.cons_append, List.append_assoc, List.nil_append,
    skipSpace_of_starts (c := '"') (by decide), hparts, hassembled, Option.map_some,
    String.ofList_toList, skipSpace_of_starts (c := ':') (by decide), hv]
  constructor
  · rintro rfl
    rfl
  · rintro rfl
    rfl

theorem entriesFrom_write {entries : List (Option String × Json)} (hne : entries ≠ [])
    {bound : Nat} (hbound : entries.length ≤ bound)
    (hkey : ∀ e ∈ entries, ∃ key, e.1 = some key) (hvalue : ∀ e ∈ entries, ReadBy value e.2)
    (rest : List Char) :
    entriesFrom value bound (writeEntries entries ++ '\x7d' :: rest) = (entries, some rest) := by
  induction entries generalizing bound with
  | nil => exact absurd rfl hne
  | cons e es ih =>
    obtain ⟨hv, hvs⟩ := List.forall_mem_cons.mp hvalue
    obtain ⟨⟨key, hk⟩, hkeys⟩ := List.forall_mem_cons.mp hkey
    obtain ⟨k, v⟩ := e
    obtain rfl : k = some key := hk
    cases bound with
    | zero => cases hbound
    | succ bound =>
      cases es with
      | nil =>
        rw [writeEntries, Option.getD_some, List.append_assoc, List.cons_append]
        exact (entriesFrom_quoted key (hv _ (ends_cons (by decide) _))).2 rfl
      | cons e es =>
        have hrest := ih (List.cons_ne_nil _ _) (Nat.le_of_succ_le_succ hbound) hkeys hvs
        rw [writeEntries, Option.getD_some, List.append_assoc, List.cons_append,
          List.append_assoc, List.cons_append,
          (entriesFrom_quoted key (hv _ (ends_cons (by decide) _))).1 rfl, hrest]

theorem writeItems_cons (v : Json) (items : List Json) :
    writeItems (v :: items) =
      v.write ++ if items = [] then [] else ',' :: writeItems items := by
  cases items with
  | nil => rw [if_pos rfl, List.append_nil, writeItems]
  | cons w items => rw [writeItems, if_neg (List.cons_ne_nil _ _)]

theorem writeEntries_cons (e : Option String × Json) (entries : List (Option String × Json)) :
    writeEntries (e :: entries) =
      quoted (e.1.getD "") ++ ':' :: (e.2.write ++
        if entries = [] then [] else ',' :: writeEntries entries) := by
  cases entries with
  | nil => rw [if_pos rfl, List.append_nil, writeEntries]
  | cons e' entries => rw [writeEntries, if_neg (List.cons_ne_nil _ _)]

theorem length_write_le_items {items : List Json} :
    ∀ v ∈ items, v.write.length ≤ (writeItems items).length := by
  induction items with
  | nil => simp
  | cons w items ih =>
    intro v hv
    rw [writeItems_cons]
    obtain rfl | hv := List.mem_cons.mp hv
    · simp
    · have hne : items ≠ [] := List.ne_nil_of_mem hv
      have hle := ih v hv
      simp only [if_neg hne, List.length_append, List.length_cons]
      omega

theorem length_write_le_entries {entries : List (Option String × Json)} :
    ∀ e ∈ entries, e.2.write.length ≤ (writeEntries entries).length := by
  induction entries with
  | nil => simp
  | cons w entries ih =>
    intro e he
    rw [writeEntries_cons]
    obtain rfl | he := List.mem_cons.mp he
    · simp only [List.length_append, List.length_cons]
      omega
    · have hne : entries ≠ [] := List.ne_nil_of_mem he
      have hle := ih e he
      simp only [if_neg hne, List.length_append, List.length_cons]
      omega

/-- Items take a character each, and so do the commas between them. -/
theorem length_le_writeItems (items : List Json) :
    items.length ≤ (writeItems items).length + 1 := by
  induction items with
  | nil => simp
  | cons v items ih =>
    rw [writeItems_cons]
    split
    · rename_i h
      simp [h]
    · simp only [List.length_append, List.length_cons]
      omega

theorem length_le_writeEntries (entries : List (Option String × Json)) :
    entries.length ≤ (writeEntries entries).length := by
  induction entries with
  | nil => simp
  | cons e entries ih =>
    rw [writeEntries_cons]
    simp only [List.length_append, List.length_cons]
    split
    · rename_i h
      simp only [h, List.length_nil]
      omega
    · simp only [List.length_cons]
      omega

end Containers

/-! ### Values -/

theorem valueFrom_number {cs : List Char} {t : NumberText} {more : List Char}
    (h : numberText cs = some (t, more)) (bound depth : Nat) :
    valueFrom (bound + 1) depth cs = (t.value, some more) := by
  have hword : ∀ c rest, Decimal.isDigit c = false → c ≠ '-' → cs ≠ c :: rest := by
    rintro c rest hc hminus rfl
    obtain he | he := head_of_numberText h
    · exact hminus he
    · rw [hc] at he
      cases he
  rw [valueFrom, h]
  all_goals exact fun rest => hword _ rest rfl (by decide)

theorem valueFrom_text (s : String) (bound depth : Nat) (rest : List Char) :
    valueFrom (bound + 1) depth (quoted s ++ rest) = (.text s, some rest) := by
  obtain ⟨parts, hparts, hassembled⟩ := exists_parts s.toList
  rw [quoted, List.cons_append, List.append_assoc, List.cons_append, valueFrom]
  simp only [List.nil_append, hparts, hassembled, String.ofList_toList]

theorem atDepth_of_lt {d depth : Nat} (h : d < depth) (v : Json) : atDepth depth v = v := by
  cases depth with
  | zero => exact absurd h (Nat.not_lt_zero d)
  | succ depth => rfl

theorem valueFrom_bracket {c : Char} (hc : Starts c) (bound depth : Nat) (cs : List Char) :
    valueFrom (bound + 1) depth ('[' :: c :: cs) =
      let read := itemsFrom (valueFrom bound (depth - 1)) ((c :: cs).length + 1) (c :: cs)
      (atDepth depth (.list read.1), read.2) := by
  rw [valueFrom, skipSpace_of_starts hc]
  split
  · rename_i heq
    exact absurd (List.cons.inj heq).1 hc.2.1
  · rfl

theorem valueFrom_brace {c : Char} (hc : Starts c) (bound depth : Nat) (cs : List Char) :
    valueFrom (bound + 1) depth ('\x7b' :: c :: cs) =
      let read := entriesFrom (valueFrom bound (depth - 1)) ((c :: cs).length + 1) (c :: cs)
      (atDepth depth (.object read.1), read.2) := by
  rw [valueFrom, skipSpace_of_starts hc]
  split
  · rename_i heq
    exact absurd (List.cons.inj heq).1 hc.2.2
  · rfl

theorem valueFrom_list {items : List Json} {bound d depth : Nat} (hd : d < depth)
    (hwrite : ∀ v ∈ items, Writable d v)
    (hvalue : ∀ v ∈ items, ReadBy (valueFrom bound (depth - 1)) v) (rest : List Char) :
    valueFrom (bound + 1) depth (write (.list items) ++ rest) = (.list items, some rest) := by
  rw [write, List.cons_append, List.append_assoc, List.cons_append, List.nil_append]
  cases items with
  | nil =>
    show (atDepth depth (.list []), some rest) = _
    rw [atDepth_of_lt hd]
  | cons v items =>
    obtain ⟨c, cs, hw, hc⟩ := exists_start (hwrite v List.mem_cons_self)
    obtain ⟨more, hmore⟩ : ∃ more, writeItems (v :: items) ++ ']' :: rest = c :: more := by
      rw [writeItems_cons, hw]
      exact ⟨_, rfl⟩
    have hlength : (v :: items).length ≤ (c :: more).length + 1 := by
      have hle := length_le_writeItems (v :: items)
      rw [← hmore, List.length_append]
      omega
    have hitems := itemsFrom_write (List.cons_ne_nil v items) hlength hvalue rest
    rw [hmore] at hitems ⊢
    rw [valueFrom_bracket hc]
    simp only [hitems, atDepth_of_lt hd]

theorem valueFrom_object {entries : List (Option String × Json)} {bound d depth : Nat}
    (hd : d < depth) (hkey : ∀ e ∈ entries, ∃ key, e.1 = some key)
    (hvalue : ∀ e ∈ entries, ReadBy (valueFrom bound (depth - 1)) e.2) (rest : List Char) :
    valueFrom (bound + 1) depth (write (.object entries) ++ rest) =
      (.object entries, some rest) := by
  rw [write, List.cons_append, List.append_assoc, List.cons_append, List.nil_append]
  cases entries with
  | nil =>
    show (atDepth depth (.object []), some rest) = _
    rw [atDepth_of_lt hd]
  | cons e entries =>
    obtain ⟨more, hmore⟩ : ∃ more, writeEntries (e :: entries) ++ '\x7d' :: rest = '"' :: more := by
      rw [writeEntries_cons]
      exact ⟨_, rfl⟩
    have hlength : (e :: entries).length ≤ ('"' :: more).length + 1 := by
      have hle := length_le_writeEntries (e :: entries)
      rw [← hmore, List.length_append]
      omega
    have hentries := entriesFrom_write (List.cons_ne_nil e entries) hlength hkey hvalue rest
    rw [hmore] at hentries ⊢
    rw [valueFrom_brace (by decide)]
    simp only [hentries, atDepth_of_lt hd]

/-- A document that can be read back is read from its text, whatever can follow it. -/
theorem valueFrom_write {d : Nat} {v : Json} (h : Writable d v) :
    ∀ {bound depth : Nat}, d ≤ depth → v.write.length ≤ bound → ∀ rest, Ends rest →
      valueFrom (bound + 1) depth (v.write ++ rest) = (v, some rest) := by
  induction h with
  | null =>
    intro bound depth hd hb rest hr
    rfl
  | bool b =>
    intro bound depth hd hb rest hr
    cases b <;> rfl
  | integer fits =>
    intro bound depth hd hb rest hr
    obtain ⟨t, ht, hvalue⟩ := numberText_intDigits fits
    rw [write, valueFrom_number (numberText_append hr ht), hvalue, List.nil_append]
  | float back =>
    intro bound depth hd hb rest hr
    obtain ⟨t, ht, hvalue⟩ := back
    rw [valueFrom_number (numberText_append hr ht), hvalue, List.nil_append]
  | text s =>
    intro bound depth hd hb rest hr
    rw [write, valueFrom_text]
  | list each ih =>
    intro bound depth hd hb rest hr
    simp only [write, List.length_cons, List.length_append] at hb
    refine valueFrom_list hd each (fun v hv rest hr => ?_) rest
    -- an item is shorter than its list, so one container less still leaves enough of the bound
    have hlength := length_write_le_items v hv
    obtain ⟨bound, rfl⟩ : ∃ b, bound = b + 1 := ⟨bound - 1, by omega⟩
    rw [skipSpace_write (each v hv)]
    exact ih v hv (by omega) (by omega) rest hr
  | object keyed each ih =>
    intro bound depth hd hb rest hr
    simp only [write, List.length_cons, List.length_append] at hb
    refine valueFrom_object hd keyed (fun e he rest hr => ?_) rest
    have hlength := length_write_le_entries e he
    obtain ⟨bound, rfl⟩ : ∃ b, bound = b + 1 := ⟨bound - 1, by omega⟩
    rw [skipSpace_write (each e he)]
    exact ih e he (by omega) (by omega) rest hr

/-- **A document that can be read back is what its text is read as.** -/
theorem read_write {v : Json} (h : Writable depthLimit v) : read v.write = (v, true) := by
  have hread := valueFrom_write h (Nat.le_refl _) (Nat.le_refl _) [] (by simp [Ends])
  have hskip := skipSpace_write h []
  rw [List.append_nil] at hread hskip
  simp only [read, hskip, hread]
  rfl

end Json
end RecordRules
