import RecordRules.Json.Tree
import RecordRules.Binary64.Shortest

/-!
# RecordRules.Json.Writing

JSON documents as compact text, without blank characters. Whole floating-point values keep a point
and a zero, so that they do not read back as integers.
-/

namespace RecordRules
namespace Json

/-- Values from 1e-5 below 1e16 are written in place, others with a signed exponent; a tie between
two shortest texts goes to the even digit. -/
def layout : Binary64.Layout :=
  ⟨.even, some (-4, 16), true, true⟩

def hexDigit (n : Nat) : Char :=
  if n < 10 then Char.ofNat ('0'.toNat + n) else Char.ofNat ('a'.toNat + (n - 10))

/-- A character inside a text: quotes, backslashes and control characters are escaped. -/
def escapedChar (c : Char) : List Char :=
  if c = '"' then ['\\', '"']
  else if c = '\\' then ['\\', '\\']
  else if c = Char.ofNat 8 then ['\\', 'b']
  else if c = Char.ofNat 12 then ['\\', 'f']
  else if c = '\n' then ['\\', 'n']
  else if c = '\r' then ['\\', 'r']
  else if c = '\t' then ['\\', 't']
  else if c.toNat < 0x20 then
    ['\\', 'u', '0', '0', hexDigit (c.toNat / 16), hexDigit (c.toNat % 16)]
  else [c]

def quoted (s : String) : List Char :=
  '"' :: (s.toList.flatMap escapedChar ++ ['"'])

mutual

/-- The text of a document. What was never read is written as null. -/
def write : Json → List Char
  | .null => ['n', 'u', 'l', 'l']
  | .bool true => ['t', 'r', 'u', 'e']
  | .bool false => ['f', 'a', 'l', 's', 'e']
  | .integer n => Decimal.intDigits n
  | .float x => if x.isFinite then layout.finite x else ['n', 'u', 'l', 'l']
  | .text s => quoted s
  | .list items => '[' :: (writeItems items ++ [']'])
  | .object entries => '\x7b' :: (writeEntries entries ++ ['\x7d'])
  | .unreadable => ['n', 'u', 'l', 'l']
  | .tooDeep v => write v
  | .broken => ['n', 'u', 'l', 'l']

def writeItems : List Json → List Char
  | [] => []
  | [v] => write v
  | v :: w :: vs => write v ++ ',' :: writeItems (w :: vs)

def writeEntries : List (Option String × Json) → List Char
  | [] => []
  | [(k, v)] => quoted (k.getD "") ++ ':' :: write v
  | (k, v) :: e :: es => quoted (k.getD "") ++ ':' :: (write v ++ ',' :: writeEntries (e :: es))

end

end Json
end RecordRules
