import RecordRules.Decimal
import RecordRules.Yaml.Mark

/-!
# RecordRules.Yaml.Scalar

The three ways to write a scalar in a line: plain, in single quotes and in double quotes. A scalar
may run over several lines; a single line end inside it reads as a space, and of several the first
is dropped.

Each function gives the characters of the scalar and the rest of the text, or nothing where the
scalar is not well formed. The bounds only limit the number of lines.
-/

namespace RecordRules
namespace Yaml

/-- A gap inside a scalar: the blanks before its first line end, its line ends, and the text
behind it. A tab left of the given column, in the indentation of a line, is refused. -/
structure Gap where
  blanks : List Char
  breaks : List Char
  rest : List Mark

def gap (column : Nat) : (blanks breaks : List Char) → List Mark → Option Gap
  | blanks, breaks, [] => some ⟨blanks, breaks, []⟩
  | blanks, breaks, m :: ms =>
    if isBreak m.char then gap column blanks (breaks ++ [m.char]) ms
    else if isSpace m.char then
      if breaks.isEmpty then gap column (blanks ++ [m.char]) breaks ms
      else if m.char = '\t' && decide (m.column < column) then none
      else gap column blanks breaks ms
    else some ⟨blanks, breaks, m :: ms⟩

/-- What a gap inside a scalar stands for. -/
def Gap.folded (g : Gap) : List Char :=
  match g.breaks with
  | [] => g.blanks
  | '\n' :: [] => [' ']
  | '\n' :: more => more
  | breaks => breaks

def isFlowIndicator (c : Char) : Bool :=
  c = ',' || c = '[' || c = ']' || c = '\x7b' || c = '\x7d'

/-! ## Plain scalars -/

/-- A scalar with the rest of the text, and whether its end lies behind a line end. -/
structure Plain where
  text : List Char
  newLine : Bool
  rest : List Mark

/-- The characters of a plain scalar up to the next gap or the end of the scalar. Inside a
collection, a colon must not touch one of its indicators. -/
def plainRun (flow : Bool) : List Mark → Option (List Char × List Mark)
  | [] => some ([], [])
  | m :: ms =>
    if isSpace m.char || isBreak m.char then some ([], m :: ms)
    else if m.char = ':' && atGap ms then some ([], m :: ms)
    else if flow && m.char = ':' &&
        (ms.head?.any fun n => isFlowIndicator n.char || n.char = '?') then none
    else if flow && isFlowIndicator m.char then some ([], m :: ms)
    else
      match plainRun flow ms with
      | none => none
      | some (cs, rest) => some (m.char :: cs, rest)

/-- The rest of a plain scalar behind a gap: it goes on while the next run is not empty, outside
collections only right of its parent's column. -/
def plainMore (flow : Bool) (column : Nat) : (bound : Nat) → List Mark → Option Plain
  | 0, _ => none
  | bound + 1, ms =>
    match gap column [] [] ms with
    | none => none
    | some g =>
      let stop : Plain := ⟨[], !g.breaks.isEmpty, g.rest⟩
      let continues := match g.rest with
        | [] => false
        | m :: _ =>
          (flow || g.breaks.isEmpty || decide (column ≤ m.column)) &&
            m.char != '#' && !atDocumentMark g.rest
      if continues && !(g.blanks.isEmpty && g.breaks.isEmpty) then
        match plainRun flow g.rest with
        | none => none
        | some ([], _) => some stop
        | some (cs, rest) =>
          match plainMore flow column bound rest with
          | none => none
          | some p => some { p with text := g.folded ++ cs ++ p.text }
      else some stop

/-- A plain scalar whose further lines must reach a column. -/
def readPlain (flow : Bool) (column : Nat) (ms : List Mark) : Option Plain :=
  match plainRun flow ms with
  | none => none
  | some (cs, rest) =>
    match plainMore flow column (ms.length + 1) rest with
    | none => none
    | some p => some { p with text := cs ++ p.text }

def startsPlain (flow : Bool) : List Mark → Bool
  | [] => false
  | m :: ms =>
    let c := m.char
    if isSpace c || isBreak c then false
    else if c = '-' then !(atGap ms)
    else if c = '?' || c = ':' then !flow && !(atGap ms)
    else !(isFlowIndicator c || c = '#' || c = '&' || c = '*' || c = '!' || c = '|' || c = '>' ||
      c = Char.ofNat 0x27 || c = '"' || c = '%' || c = '@' || c = Char.ofNat 0x60)

/-! ## Quotes -/

/-- The character written by its number in `digits` hexadecimal digits. -/
def hexChar? (digits : Nat) (ms : List Mark) : Option Char :=
  let taken := (ms.take digits).map Mark.char
  if taken.length < digits then none
  else
    match Text.hexValue? taken with
    | none => none
    | some n =>
      if (0xD800 ≤ n && n ≤ 0xDFFF) || 0x10FFFF < n then none else some (Char.ofNat n)

/-- How many hexadecimal digits an escape letter takes. -/
def escapeDigits? (c : Char) : Option Nat :=
  if c = 'x' then some 2 else if c = 'u' then some 4 else if c = 'U' then some 8 else none

/-- The character that an escape letter stands for. -/
def escaped? : Char → Option Char
  | '0' => some (Char.ofNat 0)
  | 'a' => some (Char.ofNat 7)
  | 'b' => some (Char.ofNat 8)
  | 't' => some '\t'
  | '\t' => some '\t'
  | 'n' => some '\n'
  | 'v' => some (Char.ofNat 11)
  | 'f' => some (Char.ofNat 12)
  | 'r' => some '\r'
  | 'e' => some (Char.ofNat 27)
  | ' ' => some ' '
  | '"' => some '"'
  | '/' => some '/'
  | '\\' => some '\\'
  | 'N' => some (Char.ofNat 0x85)
  | '_' => some (Char.ofNat 0xA0)
  | 'L' => some (Char.ofNat 0x2028)
  | 'P' => some (Char.ofNat 0x2029)
  | _ => none

def singleQuote : Char := Char.ofNat 0x27

/-- A scalar in quotes, behind the opening one. In single quotes, two of them stand for one. In
double quotes, a backslash starts an escape, and before a line end it joins the lines. -/
def quotedFrom (single : Bool) : (bound : Nat) → List Mark → Option (List Char × List Mark)
  | 0, _ => none
  | _, [] => none
  | bound + 1, m :: ms =>
    if atDocumentMark (m :: ms) then none
    else if single && m.char = singleQuote then
      if startsWith singleQuote ms then
        match quotedFrom single bound (ms.drop 1) with
        | none => none
        | some (cs, rest) => some (singleQuote :: cs, rest)
      else some ([], ms)
    else if !single && m.char = '"' then some ([], ms)
    else if !single && m.char = '\\' then
      match ms with
      | [] => none
      | e :: ms =>
        if isBreak e.char then
          match gap 0 [] ['\n'] ms with
          | none => none
          | some g =>
            match quotedFrom single bound g.rest with
            | none => none
            | some (cs, rest) => some (g.breaks.drop 1 ++ cs, rest)
        else
          match escapeDigits? e.char with
          | some digits =>
            match hexChar? digits ms with
            | none => none
            | some c =>
              match quotedFrom single bound (ms.drop digits) with
              | none => none
              | some (cs, rest) => some (c :: cs, rest)
          | none =>
            match escaped? e.char with
            | none => none
            | some c =>
              match quotedFrom single bound ms with
              | none => none
              | some (cs, rest) => some (c :: cs, rest)
    else if isSpace m.char || isBreak m.char then
      match gap 0 [] [] (m :: ms) with
      | none => none
      | some g =>
        match quotedFrom single bound g.rest with
        | none => none
        | some (cs, rest) => some (g.folded ++ cs, rest)
    else
      match quotedFrom single bound ms with
      | none => none
      | some (cs, rest) => some (m.char :: cs, rest)

def readQuoted (single : Bool) (ms : List Mark) : Option (List Char × List Mark) :=
  quotedFrom single (ms.length + 1) ms

end Yaml
end RecordRules
