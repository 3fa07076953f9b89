import RecordRules.Declaration.Grammar.Type

/-!
# RecordRules.Declaration.Grammar.Function

Functions with a name: the words before it, its arguments and what it gives, and its body.
-/

namespace RecordRules
namespace Declaration
namespace Grammar

/-- The words before the name of a function. A foreign function may be called safe. -/
def functionWords (foreign : Bool) : Reader Unit := do
  discard (given? "const")
  discard (given? "async")
  discard (oneGiven? (if foreign then ["unsafe", "safe"] else ["unsafe"]))
  discard convention?
  given "fn"

/-- A function with a name starts here. -/
def atDefinition (foreign : Bool) (ts : List Token) : Bool :=
  canRead (functionWords foreign) ts

/-! ## Arguments -/

/-- The value that a method belongs to. -/
def receiver (g : Grammar) : Reader Unit := do
  if ← sign? "&" then
    discard lifetime?
    discard (given? "mut")
    given "self"
  else
    discard (given? "mut")
    given "self"
    if ← sign? ":" then discard (g.type true)

/-- What an argument of a function is: the value that a method belongs to, a pattern with a type, or
the dots for further arguments. -/
inductive ArgumentKind where
  | receiver
  | typed
  | dots
deriving DecidableEq

/-- One argument of a function with a name. A type with arguments of its own may stand alone. -/
def definedArgument (g : Grammar) : Reader ArgumentKind := do
  discard g.outerAttributes
  if ← sign? "..." then return .dots
  else if (← attempt g.receiver).isSome then return .receiver
  else
    let ts ← ahead
    if atWord ts && atSign "<" (ts.drop 1) then
      discard (g.type true)
      return .typed
    else
      discard g.pattern
      sign ":"
      if ← sign? "..." then return .dots
      else
        discard (g.type true)
        return .typed

/-- The arguments of a function with a name. The receiver stands first, dots stand last. -/
def definedArguments (g : Grammar) : Reader Unit :=
  discard <| repeatFrom true fun first => do
    if ← atEnd then return none
    else
      let kind ← g.definedArgument
      if kind = .receiver && !first then failure
      if ← atEnd then return none
      else
        sign ","
        return if kind = .dots then none else some false

/-! ## Functions -/

/-- A function up to its body. -/
def signature (g : Grammar) (foreign : Bool) : Reader Unit := do
  functionWords foreign
  discard word
  g.generics
  inGroup .round g.definedArguments
  g.returnType true
  g.conditions

/-- A function with its body, or with a semicolon in the place of one. -/
def definition (g : Grammar) (foreign : Bool) : Reader Unit := do
  g.signature foreign
  if !(← sign? ";") then g.attributedBlock

end Grammar
end Declaration
end RecordRules
