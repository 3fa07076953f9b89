import RecordRules.Declaration.Token

/-!
# RecordRules.Declaration.Reader

Readers of tokens. A reader takes tokens from the front of its input, or fails; a reader that
fails takes nothing, so another one can be tried in its place.

The tokens in brackets are an input of their own. What is left over in brackets does not stop the
reading, it is only noted: a declaration with such a surplus is refused as a whole in the end.

What comes next is looked at by plain functions on the tokens, whose names begin with `at`.
-/

namespace RecordRules
namespace Declaration

structure Input where
  tokens : List Token
  surplus : Bool

abbrev Reader := StateT Input Option

/-! ## Looking ahead -/

/-- A run of punctuation characters, all but the last of them joint. -/
def atRun : List Char → List Token → Bool
  | [], _ => true
  | c :: cs, .punct d joint :: ts => c == d && (cs.isEmpty || joint && atRun cs ts)
  | _ :: _, _ => false

def atSign (s : String) (ts : List Token) : Bool :=
  atRun s.toList ts

def atName (s : String) : List Token → Bool
  | .name n :: _ => n == s
  | _ => false

def atSomeName : List Token → Bool
  | .name _ :: _ => true
  | _ => false

def atLifetime : List Token → Bool
  | .lifetime :: _ => true
  | _ => false

def atGroup (b : Bracket) : List Token → Bool
  | .group b' _ :: _ => b == b'
  | _ => false

def atSomeGroup : List Token → Bool
  | .group _ _ :: _ => true
  | _ => false

/-- A point that is not the first of two. -/
def atPoint (ts : List Token) : Bool :=
  atSign "." ts && !atSign ".." ts

/-- A number with a minus sign in front. -/
def atNegative : List Token → Bool
  | .punct '-' _ :: .literal (.number _) :: _ => true
  | _ => false

/-- A literal; the two truth values are literals too. -/
def atLiteral : List Token → Bool
  | .literal _ :: _ => true
  | ts => atName "true" ts || atName "false" ts || atNegative ts

def atText : List Token → Bool
  | .literal (.text _) :: _ => true
  | _ => false

/-- Names with a meaning in the language, which cannot name anything else. -/
def keywords : List String :=
  ["_", "abstract", "as", "async", "await", "become", "box", "break", "const", "continue", "crate",
    "do", "dyn", "else", "enum", "extern", "false", "final", "fn", "for", "if", "impl", "in", "let",
    "loop", "macro", "match", "mod", "move", "mut", "override", "priv", "pub", "ref", "return",
    "Self", "self", "static", "struct", "super", "trait", "true", "try", "type", "typeof", "unsafe",
    "unsized", "use", "virtual", "where", "while", "yield"]

def isKeyword (s : String) : Bool :=
  keywords.contains s

/-- A name that is no keyword. -/
def atWord : List Token → Bool
  | .name n :: _ => !isKeyword n
  | _ => false

def atOneOf (names : List String) : List Token → Bool
  | .name n :: _ => names.contains n
  | _ => false

def atSignOf (signs : List String) (ts : List Token) : Bool :=
  signs.any fun s => atSign s ts

/-- A name that a plain path may hold. -/
def atPathName (ts : List Token) : Bool :=
  atWord ts || atOneOf ["super", "self", "Self", "crate"] ts

/-! ## Taking -/

def ahead : Reader (List Token) := do
  return (← get).tokens

def goTo (ts : List Token) : Reader Unit :=
  modify fun i => { i with tokens := ts }

def atEnd : Reader Bool := do
  return (← ahead).isEmpty

def drop (n : Nat) : Reader Unit :=
  modify fun i => { i with tokens := i.tokens.drop n }

/-- Takes a sign where there is one, and says whether it did. -/
def sign? (s : String) : Reader Bool := do
  if atSign s (← ahead) then
    drop s.length
    return true
  else return false

def sign (s : String) : Reader Unit := do
  if !(← sign? s) then failure

def given? (s : String) : Reader Bool := do
  if atName s (← ahead) then
    drop 1
    return true
  else return false

def given (s : String) : Reader Unit := do
  if !(← given? s) then failure

def oneSign? (signs : List String) : Reader Bool := do
  if atSignOf signs (← ahead) then
    drop 1
    return true
  else return false

def oneGiven? (names : List String) : Reader Bool := do
  if atOneOf names (← ahead) then
    drop 1
    return true
  else return false

def someName : Reader String := do
  match ← ahead with
  | .name n :: ts => goTo ts; return n
  | _ => failure

/-- Takes a name that is no keyword. -/
def word : Reader String := do
  if atWord (← ahead) then someName else failure

def word? : Reader Bool := do
  if atWord (← ahead) then
    drop 1
    return true
  else return false

def lifetime? : Reader Bool := do
  if atLifetime (← ahead) then
    drop 1
    return true
  else return false

def lifetime : Reader Unit := do
  if !(← lifetime?) then failure

/-- Takes a literal. A sign belongs to its number. -/
def literal : Reader LiteralKind := do
  let ts ← ahead
  if !atLiteral ts then failure
  else if atNegative ts then
    drop 2
    return .other
  else
    drop 1
    match ts with
    | .literal kind :: _ => return kind
    | _ => return .other

/-- Takes a group of any kind, and gives its bracket. -/
def someGroup : Reader Bracket := do
  match ← ahead with
  | .group b _ :: ts => goTo ts; return b
  | _ => failure

/-- Takes a group and reads in it. What is left over in it is a surplus. -/
def inGroup {α : Type} (b : Bracket) (inner : Reader α) : Reader α := do
  match ← get with
  | ⟨.group b' content :: ts, surplus⟩ =>
    if b ≠ b' then failure
    else
      match inner.run ⟨content, false⟩ with
      | none => failure
      | some (a, rest) =>
        set (⟨ts, surplus || rest.surplus || !rest.tokens.isEmpty⟩ : Input)
        return a
  | _ => failure

/-- Reads without taking anything where the reader fails. -/
def attempt {α : Type} (r : Reader α) : Reader (Option α) :=
  (some <$> r) <|> pure none

def canRead {α : Type} (r : Reader α) (ts : List Token) : Bool :=
  (r.run ⟨ts, false⟩).isSome

/-! ## Repeating -/

/-- Repeats a step from a value on until it gives no further value, fewer than `bound` times. -/
def repeatUpTo {α : Type} (step : α → Reader (Option α)) : (bound : Nat) → α → Reader α
  | 0, _ => failure
  | bound + 1, a => do
    match ← step a with
    | none => return a
    | some b => repeatUpTo step bound b

/-- Repeats a step from a value on until it gives no further value. Every step before the last one
takes a token, so there are no more steps than the input has tokens. -/
def repeatFrom {α : Type} (a : α) (step : α → Reader (Option α)) : Reader α := do
  repeatUpTo step ((← ahead).length + 1) a

def repeatWhile (step : Reader Bool) : Reader Unit :=
  repeatFrom () fun _ => do
    if ← step then return some () else return none

/-- Items with a separator between them, up to a place where none may follow; a separator may
stand at the end. -/
def separated {α : Type} (separator : String) (stop : List Token → Bool) (item : Reader α) :
    Reader (List α) := do
  let items ← repeatFrom ([] : List α) fun items => do
    if stop (← ahead) then return none
    else if items.isEmpty then return some [← item]
    else
      sign separator
      if stop (← ahead) then return none
      else return some ((← item) :: items)
  return items.reverse

/-- Items with commas between them, up to the end of the input. -/
def listed {α : Type} (item : Reader α) : Reader (List α) :=
  separated "," List.isEmpty item

/-- Items with a separator between them, as far as it goes on: up to a place where none may follow
or to one without a separator. -/
def chained (separator : String) (stop : List Token → Bool) (item : Reader Unit) : Reader Unit :=
  repeatWhile do
    if stop (← ahead) then return false
    else
      item
      sign? separator

/-- Items without separators, up to the end of the input. -/
def untilEnd (item : Reader Unit) : Reader Unit :=
  repeatWhile do
    if ← atEnd then return false
    else
      item
      return true

/-- The last token taken between two places is a group in curly brackets. -/
def endsInCurly (before after : List Token) : Bool :=
  match (before.take (before.length - after.length)).getLast? with
  | some (.group .curly _) => true
  | _ => false

end Declaration
end RecordRules
