import RecordRules.Decimal
import RecordRules.Yaml.BlockScalar

/-!
# RecordRules.Yaml.Token

The tokens of YAML documents, and how those are read that a single indicator starts: anchors,
references to them, tags and directives. Of a tag only the handle is kept that must be known, of a
scalar its text and whether it is plain.
-/

namespace RecordRules
namespace Yaml

inductive Token where
  | version (major minor : Nat)
  | handle (name : String)
  | documentStart
  | documentEnd
  | blockSequence
  | blockMapping
  | blockEnd
  | flowSequence
  | flowSequenceEnd
  | flowMapping
  | flowMappingEnd
  | blockEntry
  | flowEntry
  | key
  | value
  | reference (name : String)
  | anchor (name : String)
  | tag (handle : Option String)
  | scalar (plain : Bool) (text : String)
deriving DecidableEq

/-- A letter, a digit, or one of the two lines. -/
def isWordChar (c : Char) : Bool :=
  Decimal.isDigit c || ('a' ≤ c && c ≤ 'z') || ('A' ≤ c && c ≤ 'Z') || c = '_' || c = '-'

def wordAt (ms : List Mark) : List Char × List Mark :=
  ((ms.takeWhile fun m => isWordChar m.char).map Mark.char,
    ms.dropWhile fun m => isWordChar m.char)

/-- One of some characters, or a gap. -/
def atGapOr (chars : List Char) (ms : List Mark) : Bool :=
  atGap ms || ms.head?.any fun m => chars.contains m.char

def anchorName? (ms : List Mark) : Option (String × List Mark) :=
  let (name, rest) := wordAt ms
  let ends := ['?', ':', ',', ']', '\x7d', '%', '@', Char.ofNat 0x60]
  if name.isEmpty || !atGapOr ends rest then none else some (String.ofList name, rest)

/-! ## Tags -/

/-- A character of a tag. The brackets and the comma only stand in verbatim ones. -/
def isTagChar (verbatim : Bool) (c : Char) : Bool :=
  isWordChar c || ";/?:@&=+$.!~*()".toList.contains c || c = singleQuote ||
    (verbatim && (c = ',' || c = '[' || c = ']'))

/-- How many bytes follow the first byte of an encoded character. -/
def bytesBehind? (byte : Nat) : Option Nat :=
  if byte < 0x80 then some 0
  else if 0xC0 ≤ byte && byte < 0xE0 then some 1
  else if 0xE0 ≤ byte && byte < 0xF0 then some 2
  else if 0xF0 ≤ byte && byte < 0xF8 then some 3
  else none

/-- Skips the characters of a tag. Any character may be written by its bytes, each with a percent
sign and two digits; `bytes` of them are still to come. -/
def skipTag? (verbatim : Bool) : (bytes : Nat) → List Mark → Option (List Mark)
  | bytes, [] => if bytes = 0 then some [] else none
  | bytes, m :: ms =>
    if m.char = '%' then
      match ms with
      | a :: b :: rest =>
        match Text.hexValue? [a.char, b.char], bytes with
        | none, _ => none
        | some byte, 0 =>
          match bytesBehind? byte with
          | none => none
          | some bytes => skipTag? verbatim bytes rest
        | some byte, bytes + 1 =>
          if 0x80 ≤ byte && byte < 0xC0 then skipTag? verbatim bytes rest else none
      | _ => none
    else if bytes ≠ 0 then none
    else if isTagChar verbatim m.char then skipTag? verbatim 0 ms
    else some (m :: ms)

def skipTagSome? (verbatim : Bool) (ms : List Mark) : Option (List Mark) :=
  match skipTag? verbatim 0 ms with
  | none => none
  | some rest => if rest.length = ms.length then none else some rest

/-- The handle at the start of a text, behind its exclamation mark: a word that ends with such a
mark too, or nothing. -/
def handle? (ms : List Mark) : Option String × List Mark :=
  let (name, rest) := wordAt ms
  if startsWith '!' rest then (some ("!" ++ String.ofList name ++ "!"), rest.drop 1)
  else (none, rest)

/-- A tag behind its exclamation mark. A handle with nothing in it is always known. -/
def tag? (flow : Bool) (ms : List Mark) : Option (Token × List Mark) :=
  let read : Option (Option String × List Mark) :=
    if startsWith '<' ms then
      match skipTagSome? true (ms.drop 1) with
      | none => none
      | some rest => if startsWith '>' rest then some (none, rest.drop 1) else none
    else
      match handle? ms with
      | (some handle, rest) => (skipTagSome? false rest).map fun rest => (some handle, rest)
      | (none, rest) => (skipTag? false 0 rest).map fun rest => (none, rest)
  match read with
  | none => none
  | some (handle, rest) =>
    if (flow && startsWith ',' rest) || atGap rest then some (.tag handle, rest) else none

/-! ## Directives -/

/-- A number of nine digits at most. -/
def versionNumber? (ms : List Mark) : Option (Nat × List Mark) :=
  let digits := (ms.takeWhile fun m => Decimal.isDigit m.char).map Mark.char
  if digits.isEmpty || decide (9 < digits.length) then none
  else some (Decimal.digitsValue digits, ms.drop digits.length)

def version? (ms : List Mark) : Option (Token × List Mark) :=
  match versionNumber? (skipSpaces ms) with
  | none => none
  | some (major, rest) =>
    if startsWith '.' rest then
      (versionNumber? (rest.drop 1)).map fun r => (.version major r.1, r.2)
    else none

/-- The handle that a directive gives a meaning, behind its exclamation mark, which may stand
alone. -/
def directiveHandle? (ms : List Mark) : Option (String × List Mark) :=
  match handle? ms with
  | (some handle, rest) => some (handle, rest)
  | (none, rest) => if rest.length = ms.length then some ("!", rest) else none

/-- A handle for tags and what it stands for, behind the name of its directive. -/
def handleDirective? (ms : List Mark) : Option (Token × List Mark) :=
  let rest := skipSpaces ms
  if startsWith '!' rest then
    match directiveHandle? (rest.drop 1) with
    | none => none
    | some (handle, rest) =>
      if rest.head?.any fun m => isSpace m.char then
        match skipTagSome? true (skipSpaces rest) with
        | none => none
        | some rest => if atGap rest then some (.handle handle, rest) else none
      else none
  else none

/-- A directive behind its percent sign, with its line. -/
def directive? (ms : List Mark) : Option (Token × List Mark) :=
  let (name, rest) := wordAt ms
  let read :=
    if !atGap rest then none
    else if name = "YAML".toList then version? rest
    else if name = "TAG".toList then handleDirective? rest
    else none
  match read with
  | none => none
  | some (t, rest) =>
    let rest := skipLineRest rest
    if atLineEnd rest then some (t, rest.drop 1) else none

end Yaml
end RecordRules
