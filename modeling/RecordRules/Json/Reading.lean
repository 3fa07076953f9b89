import RecordRules.Decimal
import RecordRules.Json.Tree

/-!
# RecordRules.Json.Reading

Reading JSON text. An integer stays one while it fits in 64 bits, signed or unsigned; every other
number is rounded to the nearest floating-point value. Containers are used up to a fixed depth;
what lies deeper can only be passed over.

A reading function gives what it read and the rest of the text, or no rest when it met a mistake.
-/

namespace RecordRules
namespace Json

/-- The four blank characters of JSON. -/
def isSpace (c : Char) : Bool :=
  c = ' ' || c = '\t' || c = '\n' || c = '\r'

def skipSpace (cs : List Char) : List Char :=
  cs.dropWhile isSpace

/-- A part of a text: a character, or a code unit written by its number. -/
inductive TextPart where
  | char (c : Char)
  | unit (n : Nat)

/-- The character that a letter behind a backslash stands for. -/
def escaped? : Char → Option Char
  | '"' => some '"'
  | '\\' => some '\\'
  | '/' => some '/'
  | 'b' => some (Char.ofNat 8)
  | 'f' => some (Char.ofNat 12)
  | 'n' => some '\n'
  | 'r' => some '\r'
  | 't' => some '\t'
  | _ => none

/-- The parts of a text up to its closing quote. Control characters must be escaped. -/
def textParts : List Char → Option (List TextPart × List Char)
  | [] => none
  | '"' :: cs => some ([], cs)
  | '\\' :: 'u' :: a :: b :: c :: d :: cs =>
    match Text.hexValue? [a, b, c, d] with
    | none => none
    | some n =>
      match textParts cs with
      | none => none
      | some (parts, rest) => some (.unit n :: parts, rest)
  | '\\' :: c :: cs =>
    match escaped? c with
    | none => none
    | some c =>
      match textParts cs with
      | none => none
      | some (parts, rest) => some (.char c :: parts, rest)
  | c :: cs =>
    if c.toNat < 0x20 then none
    else
      match textParts cs with
      | none => none
      | some (parts, rest) => some (.char c :: parts, rest)

def isHighSurrogate (n : Nat) : Bool :=
  decide (0xD800 ≤ n) && decide (n < 0xDC00)

def isLowSurrogate (n : Nat) : Bool :=
  decide (0xDC00 ≤ n) && decide (n < 0xE000)

/-- The characters of a text; surrogates must stand in pairs. -/
def assembled? : List TextPart → Option (List Char)
  | [] => some []
  | .char c :: parts => (assembled? parts).map (c :: ·)
  | .unit n :: parts =>
    if isHighSurrogate n then
      match parts with
      | .unit m :: parts =>
        if isLowSurrogate m then
          (assembled? parts).map
            (Char.ofNat (0x10000 + (n - 0xD800) * 0x400 + (m - 0xDC00)) :: ·)
        else none
      | _ => none
    else if isLowSurrogate n then none
    else (assembled? parts).map (Char.ofNat n :: ·)

/-- A number literal: its sign, whole digits, fraction and exponent, each as written. -/
structure NumberText where
  negative : Bool
  whole : List Char
  fraction : Option (List Char)
  exponent : Option Int

/-- The fraction of a number, if there is one: a point and at least one digit. -/
def fractionPart : List Char → Option (Option (List Char) × List Char)
  | '.' :: cs =>
    let digits := cs.takeWhile Decimal.isDigit
    if digits.isEmpty then none else some (some digits, cs.dropWhile Decimal.isDigit)
  | cs => some (none, cs)

/-- The exponent of a number, if there is one: a mark, an optional sign and at least one digit. -/
def exponentPart : List Char → Option (Option Int × List Char)
  | [] => some (none, [])
  | c :: cs =>
    if c = 'e' || c = 'E' then
      let (negative, body) := Decimal.splitSign cs
      match Decimal.readNat? (body.takeWhile Decimal.isDigit) with
      | none => none
      | some n => some (some (Decimal.signed negative n), body.dropWhile Decimal.isDigit)
    else some (none, c :: cs)

/-- A number literal. A leading zero stands alone before the point. -/
def numberText (cs : List Char) : Option (NumberText × List Char) :=
  let (negative, body) :=
    match cs with
    | '-' :: cs => (true, cs)
    | cs => (false, cs)
  let whole := body.takeWhile Decimal.isDigit
  if whole.isEmpty || (whole.head? == some '0' && decide (1 < whole.length)) then none
  else
    match fractionPart (body.dropWhile Decimal.isDigit) with
    | none => none
    | some (fraction, cs) =>
      match exponentPart cs with
      | none => none
      | some (exponent, rest) => some (⟨negative, whole, fraction, exponent⟩, rest)

/-- The value of a number literal with a fraction or an exponent, or too long for an integer. -/
def NumberText.float (t : NumberText) : Json :=
  let fraction := t.fraction.getD []
  let x := Decimal.toBinary64
    ⟨t.negative, Decimal.digitsValue (t.whole ++ fraction), t.exponent.getD 0 - fraction.length⟩
  if x.isFinite then .float x else .unreadable

/-- The value of a number literal. A negative zero is a floating-point value. -/
def NumberText.value (t : NumberText) : Json :=
  if t.fraction.isSome || t.exponent.isSome then t.float
  else
    let n := Decimal.signed t.negative (Decimal.digitsValue t.whole)
    if t.negative && n == 0 then t.float
    else if -0x8000000000000000 ≤ n ∧ n < 0x10000000000000000 then .integer n
    else t.float

/-- A word that must stand there, and the value it stands for. -/
def word (expected : List Char) (value : Json) (cs : List Char) : Json × Option (List Char) :=
  if cs.take expected.length = expected then (value, some (cs.drop expected.length))
  else (.broken, none)

/-- The items of a list behind its opening bracket or a comma. Each takes a character at least, so
the length of the text bounds their number. -/
def itemsFrom (value : List Char → Json × Option (List Char)) :
    (bound : Nat) → List Char → List Json × Option (List Char)
  | 0, _ => ([.broken], none)
  | bound + 1, cs =>
    match value (skipSpace cs) with
    | (v, none) => ([v], none)
    | (v, some rest) =>
      match skipSpace rest with
      | ',' :: rest =>
        let (vs, end?) := itemsFrom value bound rest
        (v :: vs, end?)
      | ']' :: rest => ([v], some rest)
      | _ => ([v, .broken], none)

/-- The entries of an object behind its opening bracket or a comma. -/
def entriesFrom (value : List Char → Json × Option (List Char)) :
    (bound : Nat) → List Char → List (Option String × Json) × Option (List Char)
  | 0, _ => ([(none, .broken)], none)
  | bound + 1, cs =>
    match skipSpace cs with
    | '"' :: cs =>
      match textParts cs with
      | none => ([(none, .broken)], none)
      | some (parts, rest) =>
        let key := (assembled? parts).map String.ofList
        match skipSpace rest with
        | ':' :: rest =>
          match value (skipSpace rest) with
          | (v, none) => ([(key, v)], none)
          | (v, some rest) =>
            match skipSpace rest with
            | ',' :: rest =>
              let (es, end?) := entriesFrom value bound rest
              ((key, v) :: es, end?)
            | '}' :: rest => ([(key, v)], some rest)
            | _ => ([(key, v), (none, .broken)], none)
        | _ => ([(key, .broken)], none)
    | _ => ([(none, .broken)], none)

/-- A container where `depth` containers may still lie in each other. -/
def atDepth : (depth : Nat) → Json → Json
  | 0, v => .tooDeep v
  | _ + 1, v => v

/-- A value that starts with the first character of a text; `depth` containers may still lie in
each other. Each container takes a character at least, so the length of the text bounds how many
really do. -/
def valueFrom : (bound depth : Nat) → List Char → Json × Option (List Char)
  | 0, _, _ => (.broken, none)
  | bound + 1, depth, cs =>
    match cs with
    | 'n' :: _ => word ['n', 'u', 'l', 'l'] .null cs
    | 't' :: _ => word ['t', 'r', 'u', 'e'] (.bool true) cs
    | 'f' :: _ => word ['f', 'a', 'l', 's', 'e'] (.bool false) cs
    | '"' :: rest =>
      match textParts rest with
      | none => (.broken, none)
      | some (parts, rest) =>
        match assembled? parts with
        | none => (.unreadable, some rest)
        | some s => (.text (String.ofList s), some rest)
    | '[' :: rest =>
      match skipSpace rest with
      | ']' :: rest => (atDepth depth (.list []), some rest)
      | rest =>
        let (items, end?) := itemsFrom (valueFrom bound (depth - 1)) (rest.length + 1) rest
        (atDepth depth (.list items), end?)
    | '\x7b' :: rest =>
      match skipSpace rest with
      | '\x7d' :: rest => (atDepth depth (.object []), some rest)
      | rest =>
        let (entries, end?) := entriesFrom (valueFrom bound (depth - 1)) (rest.length + 1) rest
        (atDepth depth (.object entries), end?)
    | _ =>
      match numberText cs with
      | none => (.broken, none)
      | some (t, rest) => (t.value, some rest)

/-- How many containers may lie in each other. -/
def depthLimit : Nat := 127

/-- The value of a document, and whether nothing but blank characters follows it. -/
def read (cs : List Char) : Json × Bool :=
  match valueFrom (cs.length + 1) depthLimit (skipSpace cs) with
  | (v, none) => (v, false)
  | (v, some rest) => (v, (skipSpace rest).isEmpty)

end Json
end RecordRules
