import RecordRules.Proofs.Number

/-!
# RecordRules.Proofs.Number.Integer

Whole numbers among the numbers, and their texts.

* `Number.integer?` is the whole number behind a signed or an unsigned representation; widening
  keeps it, and `order?_of_integer?` says that such numbers stand in the order of the whole numbers,
  in any mix.
* `Spells` describes the texts of whole numbers without the reader: blank characters, a sign or
  none, and digits of which the first may be zeros. `read?_of_spells` reads every such text as the
  first representation that can hold the number, and `spells_text` covers what is written.
* `integers_read_back`: a number that is written and read again is the same whole number, with the
  same text.
-/

namespace RecordRules

/-! ## Spelling -/

/-- What a sign makes of a natural number. -/
inductive Signs : List Char → Nat → Int → Prop where
  | none (n : Nat) : Signs [] n n
  | plus (n : Nat) : Signs ['+'] n n
  | minus (n : Nat) : Signs ['-'] n (-n)

/-- Decimal digits, leading zeros allowed, with a sign in front and blank characters around. -/
structure Spells (cs : List Char) (x : Int) : Prop where
  parts : ∃ before sign digits after : List Char,
    cs = before ++ (sign ++ digits ++ after) ∧
    Text.allBlank before = true ∧ Text.allBlank after = true ∧
    digits ≠ [] ∧ digits.all Decimal.isDigit = true ∧ Signs sign (Decimal.digitsValue digits) x

namespace Decimal

theorem isDigit_iff {c : Char} : isDigit c = true ↔ 48 ≤ c.toNat ∧ c.toNat ≤ 57 := by
  simp [isDigit]

theorem not_isBlank_of_isDigit {c : Char} (h : isDigit c = true) : Text.isBlank c = false := by
  rw [isDigit_iff] at h
  simp [Text.isBlank, Text.inRanges, Text.blankRanges]
  omega

theorem readNat?_eq_some_iff {digits : List Char} {n : Nat} :
    readNat? digits = some n ↔
      digits ≠ [] ∧ digits.all isDigit = true ∧ digitsValue digits = n := by
  rw [readNat?]
  by_cases hne : digits = []
  · simp [hne]
  · cases hd : digits.all isDigit <;> simp [hne]

theorem splitSign_of_digits {digits : List Char} (h : digits.all isDigit = true) :
    splitSign digits = (false, digits) := by
  rw [splitSign.eq_def]
  split
  · simp [isDigit] at h
  · simp [isDigit] at h
  · rfl

theorem readInt?_of_signs {sign digits : List Char} {x : Int} (hne : digits ≠ [])
    (hd : digits.all isDigit = true) (hs : Signs sign (digitsValue digits) x) :
    readInt? (sign ++ digits) = some x := by
  have hread := readNat?_eq_some_iff.mpr ⟨hne, hd, rfl⟩
  generalize digitsValue digits = n at hs hread
  cases hs with
  | none => simp [readInt?, splitSign_of_digits hd, hread, signed]
  | plus => simp [readInt?, splitSign, hread, signed]
  | minus => simp [readInt?, splitSign, hread, signed]

theorem signs_of_readInt? {cs : List Char} {x : Int} (h : readInt? cs = some x) :
    ∃ sign digits, cs = sign ++ digits ∧ digits ≠ [] ∧ digits.all isDigit = true ∧
      Signs sign (digitsValue digits) x := by
  simp only [readInt?, Option.map_eq_some_iff] at h
  obtain ⟨n, hn, hx⟩ := h
  have hsplit := splitSign.eq_def cs
  split at hsplit
  · rw [hsplit] at hn hx
    obtain ⟨hne, hd, rfl⟩ := readNat?_eq_some_iff.mp hn
    exact ⟨['-'], _, rfl, hne, hd, hx ▸ .minus _⟩
  · rw [hsplit] at hn hx
    obtain ⟨hne, hd, rfl⟩ := readNat?_eq_some_iff.mp hn
    exact ⟨['+'], _, rfl, hne, hd, hx ▸ .plus _⟩
  · rw [hsplit] at hn hx
    obtain ⟨hne, hd, rfl⟩ := readNat?_eq_some_iff.mp hn
    exact ⟨[], _, rfl, hne, hd, hx ▸ .none _⟩

end Decimal

namespace Signs

theorem not_isBlank {sign digits : List Char} {n : Nat} {x : Int} (h : Signs sign n x)
    (hd : digits.all Decimal.isDigit = true) :
    ∀ c ∈ sign ++ digits, Text.isBlank c = false := by
  have hdigits : ∀ c ∈ digits, Text.isBlank c = false := by
    intro c hc
    exact Decimal.not_isBlank_of_isDigit (List.all_eq_true.mp hd c hc)
  intro c hc
  rcases List.mem_append.mp hc with hc | hc
  · cases h with
    | none => cases hc
    | plus => rw [List.mem_singleton.mp hc]; decide
    | minus => rw [List.mem_singleton.mp hc]; decide
  · exact hdigits c hc

end Signs

/-- The texts of whole numbers are those that the reader takes, behind their blank characters. -/
theorem spells_iff {cs : List Char} {x : Int} :
    Spells cs x ↔ Decimal.readInt? (Text.trim cs) = some x := by
  constructor
  · intro h
    obtain ⟨before, sign, digits, after, rfl, hb, ha, hne, hd, hsign⟩ := h.parts
    rw [Text.trim_between_blank hb ha (hsign.not_isBlank hd)]
    exact Decimal.readInt?_of_signs hne hd hsign
  · intro h
    obtain ⟨before, after, hb, ha, hcs⟩ := Text.exists_trim cs
    obtain ⟨sign, digits, hbody, hne, hd, hsign⟩ := Decimal.signs_of_readInt? h
    exact ⟨before, sign, digits, after, hbody ▸ hcs, hb, ha, hne, hd, hsign⟩

instance (cs : List Char) (x : Int) : Decidable (Spells cs x) :=
  decidable_of_iff _ spells_iff.symm

/-! ## Numbers -/

/-- The whole number that an integer of any width is. -/
def NativeNumber.integer? : NativeNumber → Option Int
  | .int8 n => some n.toInt
  | .int16 n => some n.toInt
  | .int32 n => some n.toInt
  | .int64 n => some n.toInt
  | .uint8 n => some n.toNat
  | .uint16 n => some n.toNat
  | .uint32 n => some n.toNat
  | .uint64 n => some n.toNat
  | .single _ => none
  | .double _ => none

namespace Number

/-- The whole number that a signed or an unsigned number is. -/
def integer? : Number → Option Int
  | .signed n => some n.toInt
  | .unsigned n => some n.toNat
  | .float _ => none

/-- Widening keeps whole numbers. -/
theorem integer?_ofNative (n : NativeNumber) : (ofNative n).integer? = n.integer? := by
  cases n <;> simp [ofNative, integer?, NativeNumber.integer?]

/-- The whole numbers that one of the two representations can hold. -/
def InRange (x : Int) : Prop :=
  -0x8000000000000000 ≤ x ∧ x < 0x10000000000000000

instance (x : Int) : Decidable (InRange x) :=
  inferInstanceAs (Decidable (_ ∧ _))

theorem intOrder_eq (x y : Int) : intOrder x y = compare x y := by
  simp only [intOrder, compare, compareOfLessAndEq]
  split
  · rfl
  · split <;> split <;> first | rfl | omega

theorem order?_of_integer? {a b : Number} {x y : Int} (ha : a.integer? = some x)
    (hb : b.integer? = some y) : a.order? b = some (compare x y) := by
  cases a <;> cases b <;> cases ha <;> cases hb <;> simp only [order?, intOrder_eq]

theorem inRange_of_integer? {n : Number} {x : Int} (h : n.integer? = some x) : InRange x := by
  cases n with
  | signed n =>
    cases h
    have hlow := n.le_toInt
    have hhigh := n.toInt_lt
    constructor <;> omega
  | unsigned n =>
    cases h
    have hhigh := n.toNat_lt
    constructor <;> omega
  | float x => cases h

theorem ofInt?_toInt (n : Int64) : ofInt? n.toInt = some (.signed n) := by
  have hlow := n.le_toInt
  have hhigh := n.toInt_lt
  rw [ofInt?, if_pos (by omega), Int64.ofInt_toInt]

/-- The number in the first representation that can hold it, if it is an integer. -/
def narrowed : Number → Number
  | .unsigned n =>
    if n.toNat < 0x8000000000000000 then .signed (Int64.ofInt n.toNat) else .unsigned n
  | n => n

theorem ofInt?_toNat (n : UInt64) : ofInt? n.toNat = some (narrowed (.unsigned n)) := by
  have hhigh := n.toNat_lt
  rw [ofInt?, narrowed]
  split
  · rw [if_pos (by omega)]
  · rw [if_pos (by omega), if_neg (by omega), Int.toNat_natCast, UInt64.ofNat_toNat]

/-- Every whole number in range has a representation that keeps its value. -/
theorem exists_ofInt?_eq {x : Int} (h : InRange x) :
    ∃ n, ofInt? x = some n ∧ n.integer? = some x := by
  obtain ⟨hlow, hhigh⟩ := h
  rw [ofInt?]
  split
  · rename_i hsigned
    refine ⟨_, rfl, congrArg some (Int64.toInt_ofInt_of_le ?_ ?_)⟩
    · exact hsigned.1
    · exact hsigned.2
  · rename_i hsigned
    have hnonneg : 0 ≤ x := by omega
    refine ⟨.unsigned (UInt64.ofNat x.toNat), by rw [if_pos ⟨hnonneg, hhigh⟩], ?_⟩
    have hvalue : (UInt64.ofNat x.toNat).toNat = x.toNat := UInt64.toNat_ofNat_of_lt (by simp; omega)
    simp only [integer?, hvalue, Option.some.injEq]
    omega

/-- A text of a whole number in range is read as the first representation that can hold it. -/
theorem read?_of_spells {cs : List Char} {x : Int} (hs : Spells cs x) (hr : InRange x) :
    read? cs = ofInt? x := by
  obtain ⟨n, hn, -⟩ := exists_ofInt?_eq hr
  simp only [read?, spells_iff.mp hs, Option.bind_some, hn]

theorem spells_intDigits (x : Int) : Spells (Decimal.intDigits x) x := by
  have hne := Decimal.natDigits_ne_nil x.natAbs
  have hd := Decimal.natDigits_digits x.natAbs
  have hvalue := Decimal.digitsValue_natDigits x.natAbs
  by_cases hneg : x < 0
  · refine ⟨[], ['-'], Decimal.natDigits x.natAbs, [], ?_, rfl, rfl, hne, hd, ?_⟩
    · simp [Decimal.intDigits, hneg]
    · have hsign := Signs.minus x.natAbs
      rwa [show -(x.natAbs : Int) = x by omega, ← hvalue] at hsign
  · refine ⟨[], [], Decimal.natDigits x.natAbs, [], ?_, rfl, rfl, hne, hd, ?_⟩
    · simp [Decimal.intDigits, hneg]
    · have hsign := Signs.none x.natAbs
      rwa [show (x.natAbs : Int) = x by omega, ← hvalue] at hsign

/-! ## Texts read back -/

theorem text_of_integer? {n : Number} {x : Int} (h : n.integer? = some x) :
    n.text = Decimal.intDigits x := by
  cases n with
  | signed n =>
    cases h
    rfl
  | unsigned n =>
    cases h
    rw [text, Decimal.intDigits, if_neg (by omega), Int.natAbs_natCast]
  | float x => cases h

theorem spells_text {n : Number} {x : Int} (h : n.integer? = some x) : Spells n.text x := by
  rw [text_of_integer? h]
  exact spells_intDigits x

theorem read?_text_of_integer? {n : Number} {x : Int} (h : n.integer? = some x) :
    read? n.text = ofInt? x :=
  read?_of_spells (spells_text h) (inRange_of_integer? h)

theorem read?_text_signed (n : Int64) : read? (signed n).text = some (.signed n) :=
  (read?_text_of_integer? rfl).trans (ofInt?_toInt n)

theorem read?_text_unsigned (n : UInt64) :
    read? (unsigned n).text = some (narrowed (.unsigned n)) :=
  (read?_text_of_integer? rfl).trans (ofInt?_toNat n)

/-- **Whole numbers are read back from their texts.** A signed number comes back as it was. An
unsigned one does where no signed number can hold it, and elsewhere as the signed number of the same
value. So what is read back equals what was written, in either order, and has the same text. -/
theorem integers_read_back :
    (∀ n : Int64, read? (signed n).text = some (.signed n)) ∧
    (∀ n : UInt64, Int64.maxValue.toInt < n.toNat →
      read? (unsigned n).text = some (.unsigned n)) ∧
    (∀ n : UInt64, n.toNat ≤ Int64.maxValue.toInt →
      ∃ m : Int64, read? (unsigned n).text = some (.signed m) ∧ m.toInt = n.toNat) ∧
    ∀ (n : Number) (x : Int), n.integer? = some x →
      ∃ m, read? n.text = some m ∧ m.integer? = some x ∧ m.order? n = some .eq ∧
        n.order? m = some .eq ∧ m.text = n.text := by
  have hmax : Int64.maxValue.toInt = 0x7FFFFFFFFFFFFFFF := by decide
  refine ⟨read?_text_signed, fun n hn => ?_, fun n hn => ?_, fun n x hx => ?_⟩
  · rw [read?_text_unsigned, narrowed, if_neg (by omega)]
  · rw [read?_text_unsigned, narrowed, if_pos (by omega)]
    exact ⟨_, rfl, Int64.toInt_ofInt_of_le (by omega) (by omega)⟩
  · obtain ⟨m, hm, hmx⟩ := exists_ofInt?_eq (inRange_of_integer? hx)
    have hsame : compare x x = .eq := Int.compare_eq_eq.mpr rfl
    refine ⟨m, (read?_text_of_integer? hx).trans hm, hmx, ?_, ?_, ?_⟩
    · rw [order?_of_integer? hmx hx, hsame]
    · rw [order?_of_integer? hx hmx, hsame]
    · rw [text_of_integer? hmx, text_of_integer? hx]

/-- The last number that a signed representation can hold, the one behind it, and the last that an
unsigned one can. -/
example :
    read? (unsigned 9223372036854775807).text = some (.signed 9223372036854775807) ∧
      read? (unsigned 9223372036854775808).text = some (.unsigned 9223372036854775808) ∧
      read? (unsigned 18446744073709551615).text = some (.unsigned 18446744073709551615) := by
  decide

end Number
end RecordRules
