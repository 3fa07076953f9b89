import RecordRules.Decimal
import RecordRules.Text.Letter
import RecordRules.Text.Search

/-!
# RecordRules.Declaration.Literal

The literals of record declarations, and the names that may follow them without a gap: text,
bytes, terminated text (which holds no zero character), single characters and numbers.

Of a text literal its value is kept, of a number the way it is written, of other literals nothing.
Each function gives the rest of the text behind what it reads. The bounds of the reading functions
are the lengths of their texts.
-/

namespace RecordRules
namespace Declaration

/-- What a literal is. Only a plain text literal has a text. -/
inductive LiteralKind where
  | text (s : String)
  | number (written : List Char)
  | other

def quoteChar : Char := Char.ofNat 0x27

def beginsWith (lead : String) (cs : List Char) : Bool :=
  (Text.stripLead? lead.toList cs).isSome

def isNameStart (c : Char) : Bool :=
  c = '_' || Text.isIdentifierStart c

def isNamePart (c : Char) : Bool :=
  c = '_' || Text.isIdentifierPart c

/-- A name without `r#`. -/
def plainName? : List Char → Option (List Char × List Char)
  | [] => none
  | c :: cs =>
    if isNameStart c then some (c :: cs.takeWhile isNamePart, cs.dropWhile isNamePart) else none

def isNeverRaw (cs : List Char) : Bool :=
  ["_", "super", "self", "Self", "crate"].contains (String.ofList cs)

def name? : List Char → Option (List Char × List Char)
  | 'r' :: '#' :: cs =>
    match plainName? cs with
    | some (n, rest) => if isNeverRaw n then none else some ('r' :: '#' :: n, rest)
    | none => none
  | cs => plainName? cs

/-- Skips a name directly behind a literal. -/
def withoutSuffix (cs : List Char) : List Char :=
  match plainName? cs with
  | some (_, rest) => rest
  | none => cs

def isHexDigit (c : Char) : Bool :=
  (Text.hexDigit? c).isSome

/-- What a literal may hold: any character, bytes only, or any character but zero. -/
inductive Charset where
  | unicode
  | bytes
  | terminated
deriving DecidableEq

/-- A character that may stand in a literal as it is. -/
def Charset.holds : Charset → Char → Bool
  | .unicode, _ => true
  | .bytes, c => decide (c.toNat < 0x80)
  | .terminated, c => decide (c.toNat ≠ 0)

/-- The number of a Unicode escape in braces: one to six digits, with underscores between them. -/
def bracedNumber? (cs : List Char) : Option (Nat × List Char) :=
  match cs with
  | '\x7b' :: cs =>
    let inner := cs.takeWhile fun c => isHexDigit c || c = '_'
    let digits := inner.filter isHexDigit
    match cs.dropWhile fun c => isHexDigit c || c = '_' with
    | '\x7d' :: rest =>
      if inner.head? == some '_' || digits.isEmpty || decide (6 < digits.length) then none
      else (Text.hexValue? digits).map fun n => (n, rest)
    | _ => none
  | _ => none

/-- A byte written in two digits may stand in a literal. -/
def Charset.holdsByte : Charset → Nat → Bool
  | .unicode, n => decide (n < 0x80)
  | .bytes, _ => true
  | .terminated, n => decide (n ≠ 0)

/-- The character of an escape behind its backslash, with the rest. -/
def escape? (charset : Charset) : List Char → Option (Char × List Char)
  | 'x' :: a :: b :: cs =>
    match Text.hexValue? [a, b] with
    | none => none
    | some n => if charset.holdsByte n then some (Char.ofNat n, cs) else none
  | 'u' :: cs =>
    if charset = .bytes then none
    else
      match bracedNumber? cs with
      | some (n, rest) =>
        if (0xD800 ≤ n && n ≤ 0xDFFF) || 0x10FFFF < n then none
        else if charset.holds (Char.ofNat n) then some (Char.ofNat n, rest)
        else none
      | none => none
  | 'n' :: cs => some ('\n', cs)
  | 'r' :: cs => some ('\r', cs)
  | 't' :: cs => some ('\t', cs)
  | '0' :: cs => if charset = .terminated then none else some (Char.ofNat 0, cs)
  | '\\' :: cs => some ('\\', cs)
  | '"' :: cs => some ('"', cs)
  | c :: cs => if c = quoteChar then some (c, cs) else none
  | [] => none

/-- Skips the line end behind a backslash and the blanks that follow it. A carriage return stands
only before a line feed. -/
def skipJoin : List Char → Option (List Char)
  | [] => none
  | '\r' :: '\n' :: cs => skipJoin cs
  | '\r' :: _ => none
  | c :: cs => if c = ' ' || c = '\t' || c = '\n' then skipJoin cs else some (c :: cs)

/-- The characters of a text literal behind its opening quote. A backslash before a line end joins
the lines; a carriage return stands only before a line feed. -/
def textBody? (charset : Charset) : (bound : Nat) → List Char → Option (List Char × List Char)
  | 0, _ => none
  | _, [] => none
  | bound + 1, c :: cs =>
    if c = '"' then some ([], cs)
    else if c = '\r' then
      match cs with
      | '\n' :: cs => (textBody? charset bound cs).map fun r => ('\n' :: r.1, r.2)
      | _ => none
    else if c = '\\' then
      if cs.head? == some '\n' || cs.head? == some '\r' then
        (skipJoin cs).bind (textBody? charset bound)
      else
        match escape? charset cs with
        | none => none
        | some (e, cs) => (textBody? charset bound cs).map fun r => (e :: r.1, r.2)
    else if charset.holds c then
      (textBody? charset bound cs).map fun r => (c :: r.1, r.2)
    else none

/-- The characters of a raw text literal behind its opening quote, up to a quote and as many hash
signs as stood before it. -/
def rawBody? (charset : Charset) (hashes : Nat) : List Char → Option (List Char × List Char)
  | [] => none
  | c :: cs =>
    if c = '"' && cs.take hashes == List.replicate hashes '#' then some ([], cs.drop hashes)
    else if c = '\r' && cs.head? != some '\n' then none
    else if charset.holds c then
      (rawBody? charset hashes cs).map fun r => (c :: r.1, r.2)
    else none

def rawText? (charset : Charset) (cs : List Char) : Option (List Char × List Char) :=
  let hashes := (cs.takeWhile (· == '#')).length
  match cs.drop hashes with
  | '"' :: rest => if hashes < 256 then rawBody? charset hashes rest else none
  | _ => none

/-- A character literal behind its opening quote. Any character may stand for itself, the quote
and the line end too. -/
def charBody? (charset : Charset) : List Char → Option (List Char)
  | '\\' :: cs =>
    match escape? charset cs with
    | some (_, c :: rest) => if c = quoteChar then some rest else none
    | _ => none
  | c :: d :: rest => if d = quoteChar && charset.holds c then some rest else none
  | _ => none

/-! ## Numbers -/

def isDigitOrLine (c : Char) : Bool :=
  Decimal.isDigit c || c = '_'

/-- The rest behind a number's suffix. A number does not touch a character that only continues
names. -/
def afterNumber? (cs : List Char) : Option (List Char) :=
  match plainName? cs with
  | some (_, rest) => some rest
  | none => if cs.head?.any isNamePart then none else some cs

/-- The rest behind an exponent, from its letter on: digits, with one sign before them and
underscores anywhere. -/
def exponentEnd? : (signed : Bool) → List Char → Option (List Char)
  | _, [] => none
  | signed, c :: cs =>
    if Decimal.isDigit c then some (cs.dropWhile isDigitOrLine)
    else if c = '_' then exponentEnd? signed cs
    else if (c = '+' || c = '-') && !signed then exponentEnd? true cs
    else none

def exponent? : List Char → Option (List Char)
  | c :: cs => if c = 'e' || c = 'E' then exponentEnd? false cs else none
  | [] => none

/-- A number with a point or an exponent. A point before a second point or a name is none. -/
def float? (cs : List Char) : Option (List Char) :=
  if cs.head?.any Decimal.isDigit then
    match cs.dropWhile isDigitOrLine with
    | '.' :: rest =>
      if rest.head?.any fun c => c = '.' || isNameStart c then none
      else
        let rest := rest.dropWhile isDigitOrLine
        afterNumber? ((exponent? rest).getD rest)
    | rest => (exponent? rest).bind afterNumber?
  else none

/-- The base that a number's first characters give it, and the rest behind them. -/
def baseOf : List Char → Nat × List Char
  | '0' :: 'x' :: cs => (16, cs)
  | '0' :: 'o' :: cs => (8, cs)
  | '0' :: 'b' :: cs => (2, cs)
  | cs => (10, cs)

/-- A character of a number in a base. A decimal digit too large for the base is one as well. -/
def isDigitIn (base : Nat) (c : Char) : Bool :=
  Decimal.isDigit c || (base == 16 && isHexDigit c)

/-- A whole number: one digit or more, none of them too large for the base. -/
def integer? (cs : List Char) : Option (List Char) :=
  if cs.head?.any Decimal.isDigit then
    let (base, body) := baseOf cs
    let part := fun c => c = '_' || isDigitIn base c
    let digits := (body.takeWhile part).filter (· != '_')
    if digits.isEmpty || !digits.all fun c => (Text.hexDigit? c).any (· < base) then none
    else afterNumber? (body.dropWhile part)
  else none

/-- Digits and underscores read in a base; the underscores count for nothing. -/
def valueIn (base : Nat) : (read : Nat) → List Char → Option Nat
  | n, [] => some n
  | n, c :: cs =>
    if c = '_' then valueIn base n cs
    else
      match Text.hexDigit? c with
      | some d => if d < base then valueIn base (base * n + d) cs else none
      | none => none

/-- The largest place that a field without a name may have. -/
def lastPlace : Nat := 0xFFFFFFFF

/-- A whole number without a suffix that can be the place of a field. -/
def isPlace (written : List Char) : Bool :=
  let (base, digits) := baseOf written
  digits.any (· != '_') && (valueIn base 0 digits).any (· ≤ lastPlace)

/-- The characters by which a text is longer than its rest. -/
def readBefore (cs rest : List Char) : List Char :=
  cs.take (cs.length - rest.length)

/-- A text literal with its value, or another literal. -/
def literal? (cs : List Char) : Option (LiteralKind × List Char) :=
  let bound := cs.length + 1
  let other := fun r : List Char × List Char => (LiteralKind.other, withoutSuffix r.2)
  let text := fun r : List Char × List Char =>
    (LiteralKind.text (String.ofList r.1), withoutSuffix r.2)
  match cs with
  | '"' :: rest => (textBody? .unicode bound rest).map text
  | 'r' :: '"' :: rest => (rawText? .unicode ('"' :: rest)).map text
  | 'r' :: '#' :: rest => (rawText? .unicode ('#' :: rest)).map text
  | 'b' :: '"' :: rest => (textBody? .bytes bound rest).map other
  | 'b' :: 'r' :: rest => (rawText? .bytes rest).map other
  | 'c' :: '"' :: rest => (textBody? .terminated bound rest).map other
  | 'c' :: 'r' :: rest => (rawText? .terminated rest).map other
  | 'b' :: c :: rest =>
    if c = quoteChar then (charBody? .bytes rest).map fun r => (.other, withoutSuffix r) else none
  | c :: rest =>
    if c = quoteChar then (charBody? .unicode rest).map fun r => (.other, withoutSuffix r)
    else
      match float? cs with
      | some rest => some (.number (readBefore cs rest), rest)
      | none => (integer? cs).map fun rest => (.number (readBefore cs rest), rest)
  | [] => none

/-- The beginnings of literals, which are no names even where the literal is broken. -/
def startsLiteral (cs : List Char) : Bool :=
  ["r\"", "r#\"", "r##", "b\"", "b" ++ quoteChar.toString, "br\"", "br#", "c\"", "cr\"",
    "cr#"].any fun lead => beginsWith lead cs

end Declaration
end RecordRules
