/-!
# RecordRules.Yaml.Mark

YAML text as characters with their places. Block structure is decided by columns, and a key must
end on the line where it starts, so each character carries its line and its column.
-/

namespace RecordRules
namespace Yaml

/-- A character with its line and column, both counted from zero. -/
structure Mark where
  char : Char
  line : Nat
  column : Nat

/-- Line ends of every kind but the two separator characters, as one newline. -/
def oneNewline : List Char → List Char
  | [] => []
  | '\r' :: '\n' :: cs => '\n' :: oneNewline cs
  | '\r' :: cs => '\n' :: oneNewline cs
  | c :: cs => (if c = Char.ofNat 0x85 then '\n' else c) :: oneNewline cs

/-- A newline, or one of the two separator characters that also end a line. -/
def isBreak (c : Char) : Bool :=
  c = '\n' || c = Char.ofNat 0x2028 || c = Char.ofNat 0x2029

def isSpace (c : Char) : Bool :=
  c = ' ' || c = '\t'

def marksFrom : (line column : Nat) → List Char → List Mark
  | _, _, [] => []
  | line, column, c :: cs =>
    ⟨c, line, column⟩ :: if isBreak c then marksFrom (line + 1) 0 cs
      else marksFrom line (column + 1) cs

/-- The characters a text may hold: control characters other than tab and line ends are refused. -/
def isAllowed (c : Char) : Bool :=
  let n := c.toNat
  n == 0x9 || n == 0xA || n == 0xD || (0x20 ≤ n && n ≤ 0x7E) || n == 0x85 ||
    (0xA0 ≤ n && n ≤ 0xD7FF) || (0xE000 ≤ n && n ≤ 0xFFFD) || 0x10000 ≤ n

/-- The marks of a text, or none where a character is not allowed. -/
def marks (cs : List Char) : Option (List Mark) :=
  if cs.all isAllowed then some (marksFrom 0 0 (oneNewline cs)) else none

/-- The byte order mark. It counts for nothing at the start of a line, though it takes a column. -/
def byteOrderMark : Char := Char.ofNat 0xFEFF

/-- The text ends or goes on with a blank or a line end. -/
def atGap : List Mark → Bool
  | [] => true
  | m :: _ => isSpace m.char || isBreak m.char

/-- The line ends here, or the text does. -/
def atLineEnd : List Mark → Bool
  | [] => true
  | m :: _ => isBreak m.char

def startsWith (c : Char) : List Mark → Bool
  | [] => false
  | m :: _ => m.char == c

/-- An indicator that counts only before a gap. -/
def atIndicator (c : Char) (ms : List Mark) : Bool :=
  startsWith c ms && atGap (ms.drop 1)

/-- Three equal characters at the start of a line, before a gap. -/
def atDocumentLine (c : Char) : List Mark → Bool
  | a :: b :: d :: ms => a.column == 0 && a.char == c && b.char == c && d.char == c && atGap ms
  | _ => false

def skipSpaces (ms : List Mark) : List Mark :=
  ms.dropWhile fun m => isSpace m.char

/-- Skips blanks and a comment up to the end of the line. -/
def skipLineRest (ms : List Mark) : List Mark :=
  let rest := skipSpaces ms
  if startsWith '#' rest then rest.dropWhile fun m => !isBreak m.char else rest

/-- The line that starts or ends a document. -/
def atDocumentMark (ms : List Mark) : Bool :=
  atDocumentLine '-' ms || atDocumentLine '.' ms

end Yaml
end RecordRules
