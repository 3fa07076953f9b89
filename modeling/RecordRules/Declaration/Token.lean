import RecordRules.Declaration.Literal
import RecordRules.Text.Blank

/-!
# RecordRules.Declaration.Token

The tokens of record declarations: names, lifetimes, literals, punctuation, and groups in matching
brackets. Comments are blank; a documentation comment stands for an attribute called `doc`.

A name keeps its `r#` where it is written raw. A punctuation character is joint where another one
follows it without a gap. The bounds of the reading functions are the lengths of their texts.
-/

namespace RecordRules
namespace Declaration

inductive Bracket where
  | round
  | square
  | curly
deriving DecidableEq

inductive Token where
  | name (s : String)
  | lifetime
  | literal (kind : LiteralKind)
  | punct (c : Char) (joint : Bool)
  | group (bracket : Bracket) (content : List Token)

/-- A token before brackets are matched. -/
inductive Piece where
  | token (t : Token)
  | opening (b : Bracket)
  | closing (b : Bracket)

def bracket? (c : Char) : Option Piece :=
  if c = '(' then some (.opening .round)
  else if c = '[' then some (.opening .square)
  else if c = '\x7b' then some (.opening .curly)
  else if c = ')' then some (.closing .round)
  else if c = ']' then some (.closing .square)
  else if c = '\x7d' then some (.closing .curly)
  else none

def startsComment (cs : List Char) : Bool :=
  beginsWith "//" cs || beginsWith "/*" cs

def startsPunct (cs : List Char) : Bool :=
  !startsComment cs &&
    cs.head?.any fun c => "~!@#$%^&*-=+|;:,<.>/?".toList.contains c || c = quoteChar

/-! ## Gaps and comments -/

/-- A space of any kind, or a mark that gives a direction of writing. -/
def isGap (c : Char) : Bool :=
  Text.isBlank c || c = Char.ofNat 0x200E || c = Char.ofNat 0x200F

/-- Skips the rest of a block comment, in which comments may lie in each other. -/
def skipBlock : (depth : Nat) → List Char → Option (List Char)
  | _, [] => none
  | depth, '/' :: '*' :: cs => skipBlock (depth + 1) cs
  | depth, '*' :: '/' :: cs =>
    match depth with
    | 0 => some cs
    | depth + 1 => skipBlock depth cs
  | depth, _ :: cs => skipBlock depth cs

/-- What kind of documentation a comment is: of what follows, or of what encloses it. -/
inductive DocKind where
  | outer
  | inner

def docLine? (cs : List Char) : Option DocKind :=
  if beginsWith "//!" cs then some .inner
  else if beginsWith "///" cs && !beginsWith "////" cs then some .outer
  else none

def docBlock? (cs : List Char) : Option DocKind :=
  if beginsWith "/*!" cs then some .inner
  else if beginsWith "/**" cs && !beginsWith "/**/" cs && !beginsWith "/***" cs then some .outer
  else none

/-- A carriage return without a line feed behind it. -/
def hasLoneReturn : List Char → Bool
  | [] => false
  | '\r' :: cs => cs.head? != some '\n' || hasLoneReturn cs
  | _ :: cs => hasLoneReturn cs

def docAttribute (kind : DocKind) (content : List Char) : List Token :=
  let group : Token := .group .square
    [.name "doc", .punct '=' false, .literal (.text (String.ofList content))]
  match kind with
  | .outer => [.punct '#' false, group]
  | .inner => [.punct '#' false, .punct '!' false, group]

/-- The rest of the text from the end of its first line on. -/
def skipLine (cs : List Char) : List Char :=
  cs.dropWhile (· != '\n')

/-- The tokens of a comment and the rest behind it. Documentation holds no lone carriage
return. -/
def comment? (cs : List Char) : Option (List Token × List Char) :=
  if beginsWith "//" cs then
    let rest := skipLine cs
    match docLine? cs with
    | none => some ([], rest)
    | some kind =>
      let content := (readBefore cs rest).drop 3
      let content := if content.getLast? == some '\r' && !rest.isEmpty then content.dropLast
        else content
      if content.contains '\r' then none else some (docAttribute kind content, rest)
  else
    match skipBlock 0 (cs.drop 2) with
    | none => none
    | some rest =>
      match docBlock? cs with
      | none => some ([], rest)
      | some kind =>
        let content := ((readBefore cs rest).drop 3).dropLast.dropLast
        if hasLoneReturn content then none else some (docAttribute kind content, rest)

/-! ## Tokens -/

/-- The token behind a single quote that starts no literal: a lifetime, or the quote alone before
a literal that starts like a name. -/
def quoted? (cs : List Char) : Option (Token × List Char) :=
  match name? cs with
  | none => none
  | some (_, rest) =>
    if rest.head? == some quoteChar || (rest.head? == some '#' && !beginsWith "r#" cs) then none
    else if (literal? cs).isSome then some (.punct quoteChar true, cs)
    else if startsLiteral cs then none
    else some (.lifetime, rest)

/-- How a literal that could not be read is written. -/
def brokenLiteral : String := "(/*ERROR*/)"

/-- The token at the start of a text that starts with no gap, comment or bracket. -/
def token? (cs : List Char) : Option (Token × List Char) :=
  match literal? cs with
  | some (kind, rest) => some (.literal kind, rest)
  | none =>
    match cs with
    | [] => none
    | c :: rest =>
      if c = quoteChar then quoted? rest
      else if startsPunct cs then some (.punct c (startsPunct rest), rest)
      else if startsLiteral cs then none
      else (name? cs).map fun r => (.name (String.ofList r.1), r.2)

def piecesOf : (bound : Nat) → List Char → Option (List Piece)
  | 0, _ => none
  | _, [] => some []
  | bound + 1, c :: cs =>
    if isGap c then piecesOf bound cs
    else if startsComment (c :: cs) then
      match comment? (c :: cs) with
      | none => none
      | some (tokens, rest) => (piecesOf bound rest).map (tokens.map .token ++ ·)
    else if beginsWith brokenLiteral (c :: cs) then
      (piecesOf bound (cs.drop (brokenLiteral.length - 1))).map (.token (.literal .other) :: ·)
    else
      match bracket? c with
      | some piece => (piecesOf bound cs).map (piece :: ·)
      | none =>
        match token? (c :: cs) with
        | none => none
        | some (t, rest) => (piecesOf bound rest).map (.token t :: ·)

/-- Open groups, innermost first, each with its bracket and its tokens so far, last first. -/
abbrev OpenGroups := List (Bracket × List Token)

/-- Matches brackets from the left. The tokens read so far stand last first. -/
def matched : OpenGroups → List Token → List Piece → Option (List Token)
  | [], tokens, [] => some tokens.reverse
  | _ :: _, _, [] => none
  | open_, tokens, .token t :: ps => matched open_ (t :: tokens) ps
  | open_, tokens, .opening b :: ps => matched ((b, tokens) :: open_) [] ps
  | [], _, .closing _ :: _ => none
  | (b, outer) :: open_, tokens, .closing b' :: ps =>
    if b = b' then matched open_ (.group b tokens.reverse :: outer) ps else none

/-- A text without the byte order mark in front. -/
def withoutMark (cs : List Char) : List Char :=
  (Text.stripLead? [Char.ofNat 0xFEFF] cs).getD cs

def tokens? (cs : List Char) : Option (List Token) :=
  match piecesOf (cs.length + 1) (withoutMark cs) with
  | none => none
  | some ps => matched [] [] ps

mutual

/-- The number of tokens, those in groups included. -/
def tokenCount : Token → Nat
  | .group _ content => tokenCountAll content + 1
  | _ => 1

def tokenCountAll : List Token → Nat
  | [] => 0
  | t :: ts => tokenCount t + tokenCountAll ts

end

end Declaration
end RecordRules
