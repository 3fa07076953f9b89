import RecordRules.Declaration.Grammar.Value

/-!
# RecordRules.Declaration.Grammar.Statement

Statements: bindings, items, calls of macros, and values. A value that does not end with a block
needs a semicolon behind it, but for the last one.
-/

namespace RecordRules
namespace Declaration
namespace Grammar

/-! ## What starts a statement -/

/-- What stands behind a plain path and an exclamation mark. -/
def behindCall? (ts : List Token) : Option (List Token) :=
  match plainPath.run ⟨ts, false⟩ with
  | some (_, rest) => if atSign "!" rest.tokens then some (rest.tokens.drop 1) else none
  | none => none

/-- A call of a macro that defines an item by name. -/
def atNamedCall (ts : List Token) : Bool :=
  (behindCall? ts).any fun ts => atWord ts || atName "try" ts

/-- A call of a macro that is a statement by itself: nothing behind its curly brackets makes it an
operand. -/
def atStatementCall (ts : List Token) : Bool :=
  (behindCall? ts).any fun ts =>
    atGroup .curly ts && !atPoint (ts.drop 1) && !atSign "?" (ts.drop 1)

/-- A constant item rather than a constant block or closure. -/
def atConstantItem (ts : List Token) : Bool :=
  let next := ts.drop 1
  atName "const" ts &&
    !(atGroup .curly next || atOneOf ["static", "move"] next || atSign "|" next ||
      (atName "async" next && !atOneOf ["unsafe", "extern", "fn"] (ts.drop 2)))

/-- An item starts here rather than a value. -/
def atItem (ts : List Token) : Bool :=
  let next := ts.drop 1
  atOneOf ["pub", "extern", "use", "fn", "mod", "type", "struct", "enum", "trait", "impl",
      "macro"] ts ||
    (atName "crate" ts && !atSign "::" next) ||
    (atName "static" ts && (atName "mut" next || atWord next)) ||
    atConstantItem ts ||
    (atName "unsafe" ts && !atGroup .curly next) ||
    (atName "async" ts && atOneOf ["unsafe", "extern", "fn"] next) ||
    (atName "union" ts && atWord next) ||
    (atName "auto" ts && atName "trait" next) ||
    (atName "default" ts && atOneOf ["unsafe", "impl"] next) ||
    atNamedCall ts

/-! ## Statements -/

/-- A binding of a pattern. A block for other values than the pattern's cannot stand behind a value
that ends with a curly bracket. -/
def binding (g : Grammar) : Reader Unit := do
  given "let"
  discard g.pattern
  if ← sign? ":" then discard (g.type true)
  if ← sign? "=" then
    let before ← ahead
    discard (g.value true)
    if !endsInCurly before (← ahead) then
      if ← given? "else" then g.block
  sign ";"

/-- A statement; it tells whether it still needs a semicolon. -/
def statement (g : Grammar) : Reader Bool := do
  discard g.outerAttributes
  let ts ← ahead
  if atStatementCall ts then
    discard plainPath
    sign "!"
    discard someGroup
    discard (sign? ";")
    return false
  else if atName "let" ts then
    g.binding
    return false
  else if atItem ts then
    g.item
    return false
  else
    let shape ← g.statementValue
    if ← sign? ";" then return false else return shape.needsSemicolon

/-- Statements up to the end of the input; semicolons may stand anywhere between them. -/
def statementList (g : Grammar) : Reader Unit :=
  repeatWhile do
    repeatWhile (sign? ";")
    if ← atEnd then return false
    else
      let needsSemicolon ← g.statement
      if ← atEnd then return false
      else if needsSemicolon then failure
      else return true

end Grammar
end Declaration
end RecordRules
