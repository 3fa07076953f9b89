import RecordRules.Yaml.Scalar

/-!
# RecordRules.Yaml.BlockScalar

Scalars in block style: lines that are kept as they are, or folded into one another. They are
indented by a column of their own, which a digit in the header gives or the first line.
-/

namespace RecordRules
namespace Yaml

/-- What happens to the line ends at the end of a block scalar: all go, one stays, or all stay. -/
inductive Chomping where
  | strip
  | clip
  | keep
deriving DecidableEq

structure BlockHeader where
  chomping : Chomping
  increment : Option Nat

def chomping? (ms : List Mark) : Option Chomping :=
  if startsWith '+' ms then some .keep else if startsWith '-' ms then some .strip else none

def digit? : List Mark → Option Nat
  | [] => none
  | m :: _ => if Decimal.isDigit m.char then Text.hexDigit? m.char else none

/-- A header and the text behind its line. The digit for the indentation is none of zero. -/
def blockHeader? (ms : List Mark) : Option (BlockHeader × List Mark) :=
  let first := chomping? ms
  let ms := if first.isSome then ms.drop 1 else ms
  let increment := digit? ms
  let ms := if increment.isSome then ms.drop 1 else ms
  let second := if first.isNone && increment.isSome then chomping? ms else none
  let ms := if second.isSome then ms.drop 1 else ms
  let rest := skipLineRest ms
  if increment = some 0 || !atLineEnd rest then none
  else some (⟨(first.or second).getD .clip, increment⟩, rest.drop 1)

/-- Line ends between the lines of a block scalar, with the indentation of the next line. The column
is that of the widest indentation, of lines without content too. -/
structure BlockGap where
  breaks : List Char
  column : Nat
  rest : List Mark

/-- Skips indentation up to a column, or any indentation where none is given. A tab is no
indentation. -/
def blockGap? (column : Option Nat) : BlockGap → List Mark → Option BlockGap
  | g, [] => some { g with rest := [] }
  | g, m :: ms =>
    let indentation := column.all (m.column < ·)
    if indentation && m.char = ' ' then blockGap? column g ms
    else
      let g := { g with column := max g.column m.column }
      if indentation && m.char = '\t' then none
      else if isBreak m.char then
        blockGap? column { g with breaks := g.breaks ++ [m.char] } ms
      else some { g with rest := m :: ms }

/-- What was read of a block scalar before a line: whether its last line started with a blank, the
end of that line, and further line ends. -/
structure BlockState where
  blank : Bool
  lineEnd : List Char
  breaks : List Char

/-- What stands for the line ends before a line. Folding joins lines that start with no blank. -/
def BlockState.joined (s : BlockState) (folded blank : Bool) : List Char :=
  if folded && s.lineEnd == ['\n'] && !s.blank && !blank then
    if s.breaks.isEmpty then [' '] else s.breaks
  else s.lineEnd ++ s.breaks

/-- What stands for the line ends behind the last line. -/
def BlockState.last (s : BlockState) : Chomping → List Char
  | .strip => []
  | .clip => s.lineEnd
  | .keep => s.lineEnd ++ s.breaks

/-- The lines of a block scalar at a column. -/
def blockLines (folded : Bool) (chomping : Chomping) (column : Nat) :
    (bound : Nat) → BlockState → List Mark → Option (List Char × List Mark)
  | 0, _, _ => none
  | _, s, [] => some (s.last chomping, [])
  | bound + 1, s, m :: ms =>
    if m.column = column then
      let blank := isSpace m.char
      let line := (m :: ms).takeWhile fun m => !isBreak m.char
      let rest := (m :: ms).dropWhile fun m => !isBreak m.char
      match blockGap? (some column) ⟨[], 0, []⟩ (rest.drop 1) with
      | none => none
      | some g =>
        let next : BlockState := ⟨blank, (rest.take 1).map Mark.char, g.breaks⟩
        match blockLines folded chomping column bound next g.rest with
        | none => none
        | some (cs, rest) => some (s.joined folded blank ++ line.map Mark.char ++ cs, rest)
    else some (s.last chomping, m :: ms)

/-- A block scalar behind its indicator, in a block at the given column, if it is in one. -/
def readBlock (folded : Bool) (parent : Option Nat) (ms : List Mark) :
    Option (List Char × List Mark) :=
  match blockHeader? ms with
  | none => none
  | some (header, rest) =>
    let given := header.increment.map fun n => parent.getD 0 + n
    match blockGap? given ⟨[], 0, []⟩ rest with
    | none => none
    | some g =>
      let least := (parent.map (· + 1)).getD 1
      let column := given.getD (max g.column least)
      blockLines folded header.chomping column (ms.length + 1) ⟨false, [], g.breaks⟩ g.rest

end Yaml
end RecordRules
