import RecordRules.Declaration.Grammar.Bound

/-!
# RecordRules.Declaration.Grammar.Type

Types: named ones, tuples and other groups, functions, traits, references and pointers, slices and
arrays. A sum of bounds is a type only where a plus sign cannot belong to something else.
-/

namespace RecordRules
namespace Declaration
namespace Grammar

/-! ## Traits -/

/-- Bounds of which one at least is a trait. -/
def traitSum (g : Grammar) (sums captures constants : Bool) : Reader Unit := do
  let kinds ← g.boundSum sums captures constants
  if !kinds.any fun k => k == .trait || k == .constant then failure

/-- The rest of a sum that started with a group: plus signs with a bound behind each of them. -/
def boundsBehindGroup (g : Grammar) : Reader TypeShape := do
  let single := !atSign "+" (← ahead)
  repeatWhile do
    if ← sign? "+" then
      discard (g.bound false false)
      return true
    else return false
  return .bounds single

/-- The rest of a sum that started with a path; a plus sign may stand at the end. -/
def boundsBehindPath (g : Grammar) (sums : Bool) : Reader TypeShape := do
  let single := !(sums && atSign "+" (← ahead))
  if !single then
    repeatWhile do
      if ← sign? "+" then
        let ts ← ahead
        if atSomeName ts || atSignOf ["::", "?"] ts || atLifetime ts || atGroup .round ts then
          discard (g.bound false false)
          return true
        else return false
      else return false
  return .bounds single

/-! ## Groups -/

/-- What stands in the round brackets at the start of a type. -/
inductive GroupShape where
  | optionalTrait
  | single (t : TypeShape)
  | several

/-- Items behind the first one, each with a comma before it; a comma may stand at the end. -/
def furtherItems {α : Type} (item : Reader α) : Reader Unit :=
  repeatWhile do
    if ← atEnd then return false
    else
      sign ","
      if ← atEnd then return false
      else
        discard item
        return true

/-- The inside of the round brackets at the start of a type. -/
def groupContent (g : Grammar) : Reader GroupShape := do
  let ts ← ahead
  if ts.isEmpty then return .several
  else if atLifetime ts then
    g.traitSum true false false
    return .single .other
  else if atSign "?" ts then
    discard (g.traitBound false)
    return .optionalTrait
  else
    let t ← g.type true
    if atSign "," (← ahead) then
      furtherItems (g.type true)
      return .several
    else return .single t

def groupType (g : Grammar) (sums : Bool) : Reader TypeShape := do
  match ← inGroup .round g.groupContent with
  | .optionalTrait => g.boundsBehindGroup
  | .several => return .other
  | .single t =>
    if sums && atSign "+" (← ahead) then
      match t with
      | .path _ => g.boundsBehindGroup
      | .bounds true => g.boundsBehindGroup
      | _ => return .other
    else return .other

/-! ## Functions -/

/-- The calling convention of a function, where there is one. -/
def convention? : Reader Bool := do
  if ← given? "extern" then
    if atText (← ahead) then drop 1
    return true
  else return false

/-- One argument of a function type. The first one may be the receiver. -/
def functionArgument (g : Grammar) (first : Bool) : Reader Unit := do
  let ts ← ahead
  let receiver := fun ts => first && atName "mut" ts && atName "self" (ts.drop 1)
  let mutable := receiver ts
  if mutable then drop 1
  let ts ← ahead
  let self := first && atName "self" ts
  let named := (atWord ts || atName "_" ts || self) && atColon (ts.drop 1)
  if named then drop 2
  let ts ← ahead
  if !(named && self) && receiver ts then drop 2
  else if mutable && !named then given "self"
  else discard (g.type true)

/-- The dots for further arguments start here, with a name or without. -/
def atDots (ts : List Token) : Bool :=
  atSign "..." ts ||
    ((atWord ts || atName "_" ts) && atSign ":" (ts.drop 1) && atSign "..." (ts.drop 2))

def functionArguments (g : Grammar) : Reader Unit :=
  discard <| repeatFrom true fun first => do
    if ← atEnd then return none
    else
      discard g.outerAttributes
      let ts ← ahead
      if atDots ts then
        if !atSign "..." ts then drop 2
        sign "..."
        discard (sign? ",")
        return none
      else
        g.functionArgument first
        if ← atEnd then return none
        else
          sign ","
          return some false

def functionType (g : Grammar) : Reader Unit := do
  discard (given? "unsafe")
  discard convention?
  given "fn"
  inGroup .round g.functionArguments
  g.returnType false

/-! ## Types -/

/-- A type that starts with a path. Behind a quantifier it is a trait. -/
def namedType (g : Grammar) (sums quantified : Bool) : Reader TypeShape := do
  match ← g.anyPath false with
  | none => return .other
  | some p =>
    let ts ← ahead
    if p.bare && atCall ts then
      drop 1
      discard someGroup
      return .other
    else if quantified || (sums && atSign "+" ts) then g.boundsBehindPath sums
    else return .path p

def squareType (g : Grammar) : Reader Unit :=
  inGroup .square do
    discard (g.type true)
    if ← sign? ";" then discard (g.value true)

def pointerType (g : Grammar) : Reader Unit := do
  sign "*"
  if !(← given? "const") then given "mut"
  discard (g.type false)

def referenceType (g : Grammar) : Reader Unit := do
  sign "&"
  discard lifetime?
  discard (given? "mut")
  discard (g.type false)

def atFunction (ts : List Token) : Bool :=
  atOneOf ["fn", "unsafe", "extern"] ts

def anyType (g : Grammar) (sums : Bool) : Reader TypeShape := do
  let quantified ← g.quantifier?
  let ts ← ahead
  if quantified && !(atFunction ts || atPathName ts) then failure
  else if atGroup .round ts then g.groupType sums
  else if atFunction ts then
    g.functionType
    return .other
  else if atPathName ts || atSignOf ["::", "<"] ts then g.namedType sums quantified
  else if ← given? "dyn" then
    discard (sign? "*")
    g.traitSum sums false false
    return .other
  else if atGroup .square ts then
    g.squareType
    return .other
  else if atSign "*" ts then
    g.pointerType
    return .other
  else if atSign "&" ts then
    g.referenceType
    return .other
  else if ← sign? "!" then return .other
  else if ← given? "impl" then
    g.traitSum sums true true
    return .other
  else if ← given? "_" then return .other
  else if atLifetime ts then
    g.traitSum true false false
    return .bounds false
  else failure

end Grammar
end Declaration
end RecordRules
