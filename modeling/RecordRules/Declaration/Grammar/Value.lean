import RecordRules.Declaration.Grammar.Pattern

/-!
# RecordRules.Declaration.Grammar.Value

Values: operators around operands, operands with what stands behind them, and the atoms they start
with.

Operators bind by precedence. Comparisons do not follow each other, a range with an end has no
operator behind it, and a conversion has nothing behind it that belongs to an operand.
-/

namespace RecordRules
namespace Declaration
namespace Grammar

/-! ## Operators -/

/-- The operators between two operands, in the order in which they are looked for. -/
def operatorTable : List (String × Precedence) :=
  [("+=", .assign), ("-=", .assign), ("*=", .assign), ("/=", .assign), ("%=", .assign),
    ("^=", .assign), ("&=", .assign), ("|=", .assign), ("<<=", .assign), (">>=", .assign),
    ("&&", .and), ("||", .or), ("<<", .shift), (">>", .shift), ("==", .compare), ("<=", .compare),
    ("!=", .compare), (">=", .compare), ("+", .sum), ("-", .sum), ("*", .product),
    ("/", .product), ("%", .product), ("^", .bitXor), ("&", .bitAnd), ("|", .bitOr),
    ("<", .compare), (">", .compare)]

def operator? (ts : List Token) : Option (String × Precedence) :=
  operatorTable.find? fun o => atSign o.1 ts

def atAssignment (ts : List Token) : Bool :=
  atSign "=" ts && !atSign "=>" ts

def nextPrecedence (ts : List Token) : Precedence :=
  match operator? ts with
  | some o => o.2
  | none =>
    if atAssignment ts then .assign
    else if atSign ".." ts then .range
    else if atName "as" ts then .cast
    else .lowest

/-- The right side of an operator: an operand and the operators that bind more tightly than this
one. An assignment takes further assignments to its right. -/
def rightSide (g : Grammar) (records : Bool) (p : Precedence) : Reader ValueShape := do
  let first ← g.operand records
  repeatFrom first fun right => do
    let ts ← ahead
    let next := nextPrecedence ts
    if p.rank < next.rank || (next = p && p = .assign) then
      let right ← g.operators records next right
      if (← ahead).length == ts.length then return none else return some right
    else return none

/-- A range ends here, where nothing stands behind its dots. -/
def atRangeEnd (records : Bool) (ts : List Token) : Bool :=
  ts.isEmpty || atPoint ts ||
    atSignOf [",", ";", "?", "=>", "=", "+", "/", "%", "^", ">", "<=", "!=", "-=", "*=", "&=", "|=",
      "<<="] ts ||
    (!records && atGroup .curly ts) || atName "as" ts

/-- The dots of a range and what stands behind them. -/
def rangeRest (g : Grammar) (records : Bool) : Reader ValueShape := do
  let limit ← rangeLimit false
  if limit = .below && atRangeEnd records (← ahead) then return .range false
  else
    discard (g.rightSide records .range)
    return .range true

/-- What belongs to an operand may not stand behind a conversion. -/
def checkConversion : Reader Unit := do
  let ts ← ahead
  if atPoint ts || atSign "?" ts || atGroup .square ts ||
      atGroup .round ts then
    failure

/-- One operator behind a value and its right side, where it binds at least as tightly as asked
for. -/
def operatorStep (g : Grammar) (records : Bool) (least : Precedence) (left : ValueShape) :
    Reader (Option ValueShape) := do
  let ts ← ahead
  match left, operator? ts with
  | .range true, _ => return none
  | _, some (symbol, p) =>
    if p.rank < least.rank || (p = .assign && left.isRange) then return none
    else
      match p, left with
      | .compare, .comparison => failure
      | _, _ =>
        drop symbol.length
        discard (g.rightSide records p)
        return some (if p = .compare then .comparison else .other)
  | _, none =>
    if least.rank ≤ Precedence.assign.rank && atAssignment ts && !left.isRange then
      drop 1
      discard (g.rightSide records .assign)
      return some .other
    else if least.rank ≤ Precedence.range.rank && atSign ".." ts then
      return some (← g.rangeRest records)
    else if atName "as" ts then
      drop 1
      discard (g.type false)
      checkConversion
      return some .other
    else return none

/-- A value behind its first operand. -/
def operatorsBehind (g : Grammar) (records : Bool) (least : Precedence) (first : ValueShape) :
    Reader ValueShape :=
  repeatFrom first (g.operatorStep records least)

/-! ## Atoms -/

/-- The fields of a record value. What stands behind two dots gives the other fields. -/
def fieldValues (g : Grammar) : Reader Unit :=
  repeatWhile do
    if ← atEnd then return false
    else if ← sign? ".." then
      if !(← atEnd) then discard (g.value true)
      return false
    else
      discard g.outerAttributes
      let named ← member
      if !named || atSign ":" (← ahead) then
        sign ":"
        discard (g.value true)
      if ← atEnd then return false
      else
        sign ","
        return true

def pathValue (g : Grammar) (records : Bool) : Reader ValueShape := do
  let p ← g.anyPath true
  let ts ← ahead
  if p.any PathShape.bare && atCall ts then
    drop 1
    return if (← someGroup) = .curly then .curlyCall else .other
  else if records && atGroup .curly ts then
    inGroup .curly g.fieldValues
    return .other
  else return .other

/-- The items of a list value, or an item and how often it is repeated. -/
def listContent (g : Grammar) : Reader Unit := do
  if !(← atEnd) then
    discard (g.value true)
    if ← sign? ";" then discard (g.value true)
    else
      repeatWhile do
        if ← atEnd then return false
        else
          sign ","
          if ← atEnd then return false
          else
            discard (g.value true)
            return true

/-- One argument of a closure, with its type where it has one. -/
def closureArgument (g : Grammar) : Reader Unit := do
  discard g.outerAttributes
  discard g.pattern
  if ← sign? ":" then discard (g.type true)

/-- A function without a name. Its body is a block where it tells its type. -/
def closure (g : Grammar) (records : Bool) : Reader Unit := do
  discard g.quantifier?
  discard (given? "const")
  discard (given? "static")
  discard (given? "async")
  discard (given? "move")
  sign "|"
  discard (separated "," (atSign "|") g.closureArgument)
  sign "|"
  if ← sign? "->" then
    discard (g.type true)
    g.block
  else discard (g.value records)

def atValue (ts : List Token) : Bool :=
  (atSomeName ts && !atName "as" ts) || atSomeGroup ts || atLiteral ts || atLifetime ts ||
    (atSign "!" ts && !atSign "!=" ts) || (atSign "-" ts && !atSignOf ["-=", "->"] ts) ||
    (atSign "*" ts && !atSign "*=" ts) || (atSign "|" ts && !atSign "|=" ts) ||
    (atSign "&" ts && !atSign "&=" ts) || (atSign "<" ts && !atSignOf ["<=", "<<="] ts) ||
    atSignOf ["..", "::", "#"] ts

def value? (g : Grammar) : Reader Unit := do
  if atValue (← ahead) then discard (g.value true)

/-- What leaves a loop, with the loop's label and with a value. A labelled loop is no such value. -/
def leaveLoop (g : Grammar) (records : Bool) : Reader Unit := do
  given "break"
  if (← lifetime?) && atSign ":" (← ahead) then failure
  if records || !atGroup .curly (← ahead) then g.value?

/-- A binding of a pattern as a condition. -/
def letValue (g : Grammar) (records : Bool) : Reader Unit := do
  given "let"
  discard g.alternatives
  sign "="
  discard (g.operators records .compare (← g.operand records))

/-- A condition and its block, with what is done otherwise. -/
def ifValue (g : Grammar) : Reader Unit :=
  repeatWhile do
    given "if"
    discard (g.value false)
    g.block
    if ← given? "else" then
      if atName "if" (← ahead) then return true
      else
        g.block
        return false
    else return false

def whileValue (g : Grammar) : Reader Unit := do
  given "while"
  discard (g.value false)
  g.attributedBlock

def forValue (g : Grammar) : Reader Unit := do
  given "for"
  discard g.alternatives
  given "in"
  discard (g.value false)
  g.attributedBlock

def loopValue (g : Grammar) : Reader Unit := do
  given "loop"
  g.attributedBlock

def labelledValue (g : Grammar) : Reader Unit := do
  lifetime
  sign ":"
  let ts ← ahead
  if atName "while" ts then g.whileValue
  else if atName "for" ts then g.forValue
  else if atName "loop" ts then g.loopValue
  else g.attributedBlock

/-- The parameters of a quantified closure start here, rather than a loop. -/
def atQuantifiedClosure (ts : List Token) : Bool :=
  atName "for" ts && atSign "<" (ts.drop 1) && (atLifetime (ts.drop 2) || atSign ">" (ts.drop 2))

/-- A value that ends a statement by itself starts here. -/
def atBlockValue (ts : List Token) : Bool :=
  atOneOf ["if", "while", "loop", "match", "unsafe"] ts || atGroup .curly ts || atLifetime ts ||
    (atName "for" ts && !atQuantifiedClosure ts) ||
    (atOneOf ["try", "const"] ts && atGroup .curly (ts.drop 1))

/-- One arm of a choice: a pattern, a condition where there is one, and a value. A comma must stand
behind the arm unless its value ends a statement by itself. -/
def arm (g : Grammar) : Reader Unit := do
  discard g.outerAttributes
  discard g.alternatives
  if ← given? "if" then discard (g.value true)
  sign "=>"
  let shape ← g.statementValue
  let free := match shape with
    | .block => true
    | _ => false
  if free || (← atEnd) then discard (sign? ",") else sign ","

def matchValue (g : Grammar) : Reader Unit := do
  given "match"
  discard (g.value false)
  inGroup .curly do
    g.innerAttributes
    untilEnd g.arm

/-- A value that ends a statement by itself. -/
def blockValue (g : Grammar) : Reader Unit := do
  let ts ← ahead
  if atName "if" ts then g.ifValue
  else if atName "while" ts then g.whileValue
  else if atName "for" ts then g.forValue
  else if atName "loop" ts then g.loopValue
  else if atName "match" ts then g.matchValue
  else if atLifetime ts then g.labelledValue
  else if ← given? "try" then g.block
  else
    discard (given? "unsafe")
    discard (given? "const")
    g.attributedBlock

/-- A block that runs later starts here. -/
def atLaterBlock (ts : List Token) : Bool :=
  atName "async" ts && (atGroup .curly (ts.drop 1) ||
    (atName "move" (ts.drop 1) && atGroup .curly (ts.drop 2)))

def atClosure (ts : List Token) : Bool :=
  let next := ts.drop 1
  atSign "|" ts || atOneOf ["move", "static"] ts || atQuantifiedClosure ts ||
    (atName "const" ts && !atGroup .curly next) ||
    (atName "async" ts && (atSign "|" next || atName "move" next))

def atPathValue (ts : List Token) : Bool :=
  atPathName ts || atSignOf ["::", "<"] ts ||
    (atName "try" ts && atSignOf ["!", "::"] (ts.drop 1))

/-- A value that belongs to the language itself, with anything in its brackets. -/
def builtinValue : Reader Unit := do
  given "builtin"
  sign "#"
  discard word
  if (← someGroup) ≠ .round then failure

def atom (g : Grammar) (records : Bool) : Reader ValueShape := do
  let ts ← ahead
  if atLiteral ts then
    match ← literal with
    | .text s => return .text s
    | _ => return .other
  else if atLaterBlock ts then
    drop 1
    discard (given? "move")
    g.block
    return .other
  else if atClosure ts then
    g.closure records
    return .other
  else if atName "builtin" ts && atSign "#" (ts.drop 1) then
    builtinValue
    return .other
  else if atPathValue ts then g.pathValue records
  else if atGroup .round ts then
    discard (inGroup .round (listed (g.value true)))
    return .other
  else if atName "break" ts then
    g.leaveLoop records
    return .other
  else if ← given? "continue" then
    discard lifetime?
    return .other
  else if ← oneGiven? ["return", "yield"] then
    g.value?
    return .other
  else if ← given? "become" then
    discard (g.value true)
    return .other
  else if atGroup .square ts then
    inGroup .square g.listContent
    return .other
  else if atName "let" ts then
    g.letValue records
    return .other
  else if atBlockValue ts then
    g.blockValue
    return .block
  else if atSign ".." ts then g.rangeRest records
  else
    given "_"
    return .other

/-! ## Operands -/

/-- The pieces of a number between its points are places of fields. It tells whether the number
ends with a point. -/
def places? (written : List Char) : Option Bool :=
  let open_ := written.getLast? == some '.'
  let whole := if open_ then written.dropLast else written
  if (Text.pieces '.' whole).all isPlace then some open_ else none

/-- The name of a field or a method behind a point, with the method's arguments. -/
def namedMember (g : Grammar) : Reader Unit := do
  if !(← given? "await") then
    if ← member then
      let explicit ← sign? "::"
      if explicit then discard g.arguments
      if explicit || atGroup .round (← ahead) then
        discard (inGroup .round (listed (g.value true)))

/-- What stands behind a point. A number may name the places of several fields. -/
def memberBehindPoint (g : Grammar) : Reader Unit := do
  match ← ahead with
  | .literal (.number written) :: ts =>
    match places? written with
    | none => failure
    | some open_ =>
      goTo ts
      if open_ then g.namedMember
  | _ => g.namedMember

/-- Calls, members, indexes and question marks behind an operand. -/
def trailers (g : Grammar) (first : ValueShape) : Reader ValueShape :=
  repeatFrom first fun shape => do
    let ts ← ahead
    if atGroup .round ts then
      discard (inGroup .round (listed (g.value true)))
      return some .other
    else if atPoint ts && !shape.isRange then
      drop 1
      g.memberBehindPoint
      return some .other
    else if atGroup .square ts then
      discard (inGroup .square (g.value true))
      return some .other
    else if atSign "?" ts && !shape.isRange then
      drop 1
      return some .other
    else return none

/-- An operand with what stands before it and behind it. A range without a start has no
attributes. -/
def oneOperand (g : Grammar) (records : Bool) : Reader ValueShape := do
  let attributes ← g.outerAttributes
  if ← sign? "&" then
    let ts ← ahead
    if atName "raw" ts && atOneOf ["mut", "const"] (ts.drop 1) then drop 2
    else discard (given? "mut")
    discard (g.operand records)
    return .other
  else if ← oneSign? ["*", "!", "-"] then
    discard (g.operand records)
    return .other
  else
    let shape ← g.trailers (← g.atom records)
    if !attributes.isEmpty && shape.isRange then failure else return shape

def anyValue (g : Grammar) (records : Bool) : Reader ValueShape := do
  g.operatorsBehind records .lowest (← g.oneOperand records)

/-- A value that ends where a statement may end: behind curly brackets it goes on only with a point
or a question mark. -/
def anyStatementValue (g : Grammar) : Reader ValueShape := do
  discard g.outerAttributes
  if atBlockValue (← ahead) then
    g.blockValue
    let ts ← ahead
    if atPoint ts || atSign "?" ts then
      g.operatorsBehind true .lowest (← g.trailers .block)
    else return .block
  else g.anyValue true

end Grammar
end Declaration
end RecordRules
