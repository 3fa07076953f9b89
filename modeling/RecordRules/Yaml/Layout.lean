import RecordRules.Yaml.Token

/-!
# RecordRules.Yaml.Layout

From text to tokens. What a block is made of shows only from columns: tokens that start a block are
put in where the column grows, and tokens that end one where it shrinks.

That something is a key shows only at the colon behind it. The place where a key may have started is
kept for that, one for each collection that is open, and the tokens before the key are put in at it.
Such a key must lie in one line and be of limited length. Where a line starts at the column of its
block, what stands there must turn out to be a key.
-/

namespace RecordRules
namespace Yaml

/-- The place where a key may have started: the number of tokens before it, its line and column, and
whether it must turn out to be a key. -/
structure KeyPlace where
  tokens : Nat
  line : Nat
  column : Nat
  required : Bool

/-- What is left to be read and what was read: the tokens with the last one first, whether a key may
start here, the columns of the open blocks with the innermost one first, and the place of a key in
this collection and in each of those around it. -/
structure Layout where
  rest : List Mark
  tokens : List Token
  keyAllowed : Bool
  blocks : List Nat
  key : Option KeyPlace
  outerKeys : List (Option KeyPlace)

namespace Layout

def start (ms : List Mark) : Layout :=
  ⟨ms, [], true, [], none, []⟩

/-- Inside a collection in brackets. -/
def inFlow (s : Layout) : Bool :=
  !s.outerKeys.isEmpty

def put (s : Layout) (t : Token) : Layout :=
  { s with tokens := t :: s.tokens }

/-- Adds a token in front of all but the first `place` ones. -/
def putAt (s : Layout) (place : Nat) (t : Token) : Layout :=
  let later := s.tokens.length - place
  { s with tokens := s.tokens.take later ++ t :: s.tokens.drop later }

/-! ## Gaps -/

/-- Skips blanks, comments and line ends up to the next token, and tells whether a key may start
there: behind a line end it may, outside collections. A tab is no blank where a key may start. -/
def skipGap (flow : Bool) : (keyAllowed inComment : Bool) → List Mark → Bool × List Mark
  | keyAllowed, _, [] => (keyAllowed, [])
  | keyAllowed, inComment, m :: ms =>
    if isBreak m.char then skipGap flow (keyAllowed || !flow) false ms
    else if inComment then skipGap flow keyAllowed true ms
    else if m.char = byteOrderMark && m.column = 0 then skipGap flow keyAllowed false ms
    else if m.char = ' ' || (m.char = '\t' && (flow || !keyAllowed)) then
      skipGap flow keyAllowed false ms
    else if m.char = '#' then skipGap flow keyAllowed true ms
    else (keyAllowed, m :: ms)

/-- The state at the next token. -/
def atNext (s : Layout) : Layout :=
  let (keyAllowed, rest) := skipGap s.inFlow s.keyAllowed false s.rest
  { s with keyAllowed := keyAllowed, rest := rest }

/-! ## Blocks -/

/-- Ends the blocks that lie right of a column, or all of them. -/
def closeBlocks (s : Layout) (column : Option Nat) : Layout :=
  if s.inFlow then s
  else
    let closed := s.blocks.takeWhile fun b => column.all (· < b)
    { s with
      tokens := List.replicate closed.length .blockEnd ++ s.tokens
      blocks := s.blocks.drop closed.length }

def isDeeper (s : Layout) (column : Nat) : Bool :=
  !s.inFlow && s.blocks.head?.all (· < column)

/-- Starts a block at a column if that lies deeper than the open ones; its first token stands at a
place among the tokens. -/
def openBlock (s : Layout) (column place : Nat) (t : Token) : Layout :=
  if s.isDeeper column then { s.putAt place t with blocks := column :: s.blocks } else s

def openBlockHere (s : Layout) (column : Nat) (t : Token) : Layout :=
  s.openBlock column s.tokens.length t

/-! ## Keys -/

/-- How many characters a key may have, with what stands between it and its colon. -/
def keyLimit : Nat := 1024

/-- A place cannot belong to a key any more whose colon would stand at a mark. -/
def isPast (k : KeyPlace) (m : Mark) : Bool :=
  k.line < m.line || k.column + keyLimit < m.column

/-- The place of a key unless it is past; one that is required must not be. -/
def current? (m : Mark) : Option KeyPlace → Option (Option KeyPlace)
  | none => some none
  | some k => if isPast k m then if k.required then none else some none else some (some k)

/-- The state without the places of keys that are past. -/
def withoutPast? (s : Layout) (m : Mark) : Option Layout := do
  let key ← current? m s.key
  let outerKeys ← s.outerKeys.mapM (current? m)
  return { s with key := key, outerKeys := outerKeys }

/-- Gives the place of a key up, unless it is required. -/
def dropKey? (s : Layout) : Option Layout :=
  if s.key.any KeyPlace.required then none else some { s with key := none }

/-- Keeps this place for a key, where one may start. -/
def keepKey? (s : Layout) (m : Mark) : Option Layout :=
  if s.keyAllowed then
    let place : KeyPlace :=
      ⟨s.tokens.length, m.line, m.column, !s.inFlow && s.blocks.head? == some m.column⟩
    s.dropKey?.map fun s => { s with key := some place }
  else some s

/-- Skips some characters and adds a token for them; a key may start behind it or not. -/
def take (s : Layout) (n : Nat) (t : Token) (keyAllowed : Bool) : Layout :=
  { s.put t with rest := s.rest.drop n, keyAllowed := keyAllowed }

/-- Goes on behind a token that was read. -/
def goOn (s : Layout) (rest : List Mark) (t : Token) (keyAllowed : Bool) : Layout :=
  { s.put t with rest := rest, keyAllowed := keyAllowed }

/-! ## Tokens -/

def directive (s : Layout) : Option Layout := do
  let s ← (s.closeBlocks none).dropKey?
  let (t, rest) ← directive? (s.rest.drop 1)
  return s.goOn rest t false

def documentLine (s : Layout) (t : Token) : Option Layout := do
  let s ← (s.closeBlocks none).dropKey?
  return s.take 3 t false

def openFlow (s : Layout) (m : Mark) (t : Token) : Option Layout := do
  let s ← s.keepKey? m
  return { s.take 1 t true with key := none, outerKeys := s.key :: s.outerKeys }

def closeFlow (s : Layout) (t : Token) : Option Layout := do
  let s ← s.dropKey?
  let s := s.take 1 t false
  return match s.outerKeys with
    | [] => s
    | key :: outerKeys => { s with key := key, outerKeys := outerKeys }

def flowEntry (s : Layout) : Option Layout := do
  let s ← s.dropKey?
  return s.take 1 .flowEntry true

/-- The dash of a sequence, which may start a block where a key may start. -/
def blockEntry (s : Layout) (m : Mark) : Option Layout :=
  if s.inFlow || s.keyAllowed then do
    let s ← (s.openBlockHere m.column .blockSequence).dropKey?
    return s.take 1 .blockEntry true
  else none

/-- The question mark before a key. -/
def keyMark (s : Layout) (m : Mark) : Option Layout :=
  if s.inFlow || s.keyAllowed then do
    let s ← (s.openBlockHere m.column .blockMapping).dropKey?
    return s.take 1 .key (!s.inFlow)
  else none

/-- The colon before a value. What stands at the kept place turns out to be a key; otherwise the
colon starts the value of a key with a mark. -/
def valueMark (s : Layout) (m : Mark) : Option Layout :=
  match s.key with
  | some k =>
    let s := (s.putAt k.tokens .key).openBlock k.column k.tokens .blockMapping
    some { s.take 1 .value false with key := none }
  | none =>
    if s.inFlow || s.keyAllowed then
      some ((s.openBlockHere m.column .blockMapping).take 1 .value (!s.inFlow))
    else none

def reference (s : Layout) (m : Mark) : Option Layout := do
  let s ← s.keepKey? m
  let (name, rest) ← anchorName? (s.rest.drop 1)
  return s.goOn rest (.reference name) false

def anchor (s : Layout) (m : Mark) : Option Layout := do
  let s ← s.keepKey? m
  let (name, rest) ← anchorName? (s.rest.drop 1)
  return s.goOn rest (.anchor name) false

def tag (s : Layout) (m : Mark) : Option Layout := do
  let s ← s.keepKey? m
  let (t, rest) ← tag? s.inFlow (s.rest.drop 1)
  return s.goOn rest t false

def scalarToken (plain : Bool) (cs : List Char) : Token :=
  .scalar plain (String.ofList cs)

def block (s : Layout) (folded : Bool) : Option Layout := do
  let s ← s.dropKey?
  let (cs, rest) ← readBlock folded s.blocks.head? (s.rest.drop 1)
  return s.goOn rest (scalarToken false cs) true

def quoted (s : Layout) (m : Mark) (single : Bool) : Option Layout := do
  let s ← s.keepKey? m
  let (cs, rest) ← readQuoted single (s.rest.drop 1)
  return s.goOn rest (scalarToken false cs) false

/-- A plain scalar. Its further lines lie right of the block. -/
def plain (s : Layout) (m : Mark) : Option Layout := do
  let s ← s.keepKey? m
  let p ← readPlain s.inFlow ((s.blocks.head?.map (· + 1)).getD 0) s.rest
  return s.goOn p.rest (scalarToken true p.text) p.newLine

/-- The token at a mark, where the text goes on. -/
def token (s : Layout) (m : Mark) : Option Layout :=
  let ms := s.rest
  let indicator := fun c => startsWith c ms && (s.inFlow || atGap (ms.drop 1))
  if m.column = 0 && m.char = '%' then s.directive
  else if atDocumentLine '-' ms then s.documentLine .documentStart
  else if atDocumentLine '.' ms then s.documentLine .documentEnd
  else if m.char = '[' then s.openFlow m .flowSequence
  else if m.char = '\x7b' then s.openFlow m .flowMapping
  else if m.char = ']' then s.closeFlow .flowSequenceEnd
  else if m.char = '\x7d' then s.closeFlow .flowMappingEnd
  else if m.char = ',' then s.flowEntry
  else if atIndicator '-' ms then s.blockEntry m
  else if indicator '?' then s.keyMark m
  else if indicator ':' then s.valueMark m
  else if m.char = '*' then s.reference m
  else if m.char = '&' then s.anchor m
  else if m.char = '!' then s.tag m
  else if m.char = '|' && !s.inFlow then s.block false
  else if m.char = '>' && !s.inFlow then s.block true
  else if m.char = singleQuote then s.quoted m true
  else if m.char = '"' then s.quoted m false
  else if startsPlain s.inFlow ms then s.plain m
  else none

/-- The tokens from here on, of which there are fewer than `bound`, behind those that were read. -/
def tokensFrom : (bound : Nat) → Layout → Option (List Token)
  | 0, _ => none
  | bound + 1, s =>
    let s := s.atNext
    match s.rest with
    | [] => (s.closeBlocks none).dropKey?.map fun s => s.tokens.reverse
    | m :: _ =>
      match s.withoutPast? m with
      | none => none
      | some s =>
        match (s.closeBlocks (some m.column)).token m with
        | none => none
        | some s => tokensFrom bound s

end Layout

/-- The tokens of a text. Each of them but those for blocks takes a character. -/
def tokens? (cs : List Char) : Option (List Token) :=
  match marks cs with
  | none => none
  | some ms => (Layout.start ms).tokensFrom (ms.length + 1)

end Yaml
end RecordRules
