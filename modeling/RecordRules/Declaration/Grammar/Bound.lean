import RecordRules.Declaration.Grammar.Basic

/-!
# RecordRules.Declaration.Grammar.Bound

Paths with arguments, bounds, and the parameters and conditions of generic declarations.
-/

namespace RecordRules
namespace Declaration
namespace Grammar

/-! ## Paths -/

/-- A name of a path, with its arguments where it has angle brackets. -/
structure PathSegment where
  name : String
  arguments : Option ArgumentsShape

/-- The arguments of a path's name start here. In a value, a separator must stand before them. -/
def atArguments (inValue : Bool) (ts : List Token) : Bool :=
  (!inValue && atSign "<" ts && !atSignOf ["<=", "<<="] ts) ||
    (atSign "::" ts && atSign "<" (ts.drop 2))

def pathSegment (g : Grammar) (inValue : Bool) : Reader PathSegment := do
  if atOneOf ["super", "self", "crate", "try"] (← ahead) then return ⟨← someName, none⟩
  else
    let n ← if ← given? "Self" then pure "Self" else word
    if atArguments inValue (← ahead) then
      discard (sign? "::")
      return ⟨n, some (← g.arguments)⟩
    else return ⟨n, none⟩

/-- A path with its segments, from the last one to the first. -/
def pathShape (rooted : Bool) (segments : List PathSegment) : PathShape :=
  ⟨rooted, segments.length == 1, segments.all fun s => s.arguments.isNone,
    segments.head?.all fun s => s.arguments.all (· == .empty),
    segments.head?.any fun s => s.name == "Option" && s.arguments == some .typed⟩

/-- A path. It ends before a separator with round brackets behind it. -/
def path (g : Grammar) (inValue : Bool) : Reader PathShape := do
  let rooted ← sign? "::"
  let first ← g.pathSegment inValue
  let segments ← repeatFrom [first] fun segments => do
    let ts ← ahead
    if atSign "::" ts && !atGroup .round (ts.drop 2) then
      drop 2
      return some ((← g.pathSegment inValue) :: segments)
    else return none
  return pathShape rooted segments

/-- A path, or nothing for one that starts at a type in angle brackets. -/
def anyPath (g : Grammar) (inValue : Bool) : Reader (Option PathShape) := do
  if ← sign? "<" then
    discard (g.type true)
    if ← given? "as" then discard (g.path false)
    sign ">"
    sign "::"
    discard (g.pathSegment inValue)
    repeatWhile do
      if ← sign? "::" then
        discard (g.pathSegment inValue)
        return true
      else return false
    return none
  else return some (← g.path inValue)

/-- The call of a macro starts here, behind a bare path. -/
def atCall (ts : List Token) : Bool :=
  atSign "!" ts && !atSign "!=" ts

/-- One argument in angle brackets, and whether it is a type. A name with an equals sign or a colon
behind it is none. -/
def argument (g : Grammar) : Reader Bool := do
  let ts ← ahead
  if atLifetime ts && !atSign "+" (ts.drop 1) then
    drop 1
    return false
  else if atLiteral ts || atGroup .curly ts then
    g.constantArgument
    return false
  else
    match ← g.type true with
    | .path p =>
      if p.rooted || !p.single then return true
      else if ← sign? "=" then
        let ts ← ahead
        if atLiteral ts || atGroup .curly ts then g.constantArgument
        else discard (g.type true)
        return false
      else if ← sign? ":" then
        chained "+" (atSignOf [",", ">"]) (discard (g.bound false true))
        return false
      else return true
    | _ => return true

def argumentList (g : Grammar) : Reader ArgumentsShape := do
  sign "<"
  let types ← separated "," (atSign ">") g.argument
  sign ">"
  return match types with
    | [] => .empty
    | typed :: _ => if typed then .typed else .untyped

/-! ## Parameters -/

def atParameterEnd (ts : List Token) : Bool :=
  ts.isEmpty || atSignOf [",", ">"] ts

def lifetimeParameter : Reader Unit := do
  lifetime
  if ← sign? ":" then chained "+" atParameterEnd lifetime

def typeParameter (g : Grammar) : Reader Unit := do
  discard word
  if ← sign? ":" then
    chained "+" (fun ts => atParameterEnd ts || atSign "=" ts) (discard (g.bound false true))
  if ← sign? "=" then discard (g.type true)

def constantParameter (g : Grammar) : Reader Unit := do
  given "const"
  discard word
  sign ":"
  discard (g.type true)
  if ← sign? "=" then g.constantArgument

/-- A parameter that quantifies or makes generic. -/
def parameter (g : Grammar) : Reader Unit := do
  discard g.outerAttributes
  let ts ← ahead
  if atWord ts then g.typeParameter
  else if atLifetime ts then lifetimeParameter
  else g.constantParameter

/-- The parameters that quantify what follows, where there are any. -/
def quantifier? (g : Grammar) : Reader Bool := do
  if ← given? "for" then
    sign "<"
    discard (separated "," (atSign ">") g.parameter)
    sign ">"
    return true
  else return false

/-- A parameter of a generic declaration; it may be left without a name. -/
def genericParameter (g : Grammar) : Reader Unit := do
  discard g.outerAttributes
  if !(← given? "_") then g.parameter

/-- The parameters of a generic declaration, where there are any. -/
def generics (g : Grammar) : Reader Unit := do
  if ← sign? "<" then
    discard (separated "," (atSign ">") g.genericParameter)
    sign ">"

/-! ## Bounds -/

/-- The parameters that a type captures. -/
def capture : Reader Unit := do
  given "use"
  sign "<"
  discard <| separated "," (atSign ">") do
    let ts ← ahead
    if atLifetime ts || atWord ts || atName "Self" ts then drop 1 else failure
  sign ">"

/-- Takes the mark of a trait that is wanted only at compile time. -/
def constant? : Reader Bool := do
  if atGroup .square (← ahead) then
    inGroup .square (given "const")
    return true
  else given? "const"

/-- A trait with what stands before its path, and whether it is wanted only at compile time. A trait
that may be missing is not quantified. -/
def traitBound (g : Grammar) (constants : Bool) : Reader BoundKind := do
  let quantified ← g.quantifier?
  let constant ← constant?
  if constant && !constants then failure
  if ← sign? "?" then
    if quantified then failure
  let p ← g.path false
  let ts ← ahead
  if p.lastEmpty && (atGroup .round ts || (atSign "::" ts && atGroup .round (ts.drop 2))) then
    discard (sign? "::")
    g.roundArguments
  return if constant then .constant else .trait

/-- One bound. Captured parameters and traits wanted at compile time are refused where the rule
around the bound does not allow them. -/
def oneBound (g : Grammar) (captures constants : Bool) : Reader BoundKind := do
  let ts ← ahead
  if atLifetime ts then
    drop 1
    return .lifetime
  else if atName "use" ts then
    if captures then
      capture
      return .capture
    else failure
  else if atGroup .round ts then inGroup .round (g.traitBound constants)
  else g.traitBound constants

/-- A further bound starts here, behind a plus sign. -/
def atBound (ts : List Token) : Bool :=
  atSomeName ts || atSignOf ["::", "?"] ts || atLifetime ts || atGroup .round ts ||
    atGroup .square ts

/-- Bounds with plus signs between them where `sums` says so, one at least; a plus sign may stand
at the end. -/
def boundSum (g : Grammar) (sums captures constants : Bool) : Reader (List BoundKind) := do
  let first ← g.bound captures constants
  let kinds ← repeatFrom [first] fun kinds => do
    if !sums then return none
    else if ← sign? "+" then
      if atBound (← ahead) then return some ((← g.bound captures constants) :: kinds)
      else return none
    else return none
  return kinds.reverse

/-! ## Conditions -/

/-- Parameters in angle brackets start here, rather than a path that starts at a type. -/
def atParameters (ts : List Token) : Bool :=
  let second := ts.drop 1
  let third := ts.drop 2
  atSign "<" ts &&
    (atSignOf [">", "#"] second || atName "const" second ||
      ((atLifetime second || atWord second) &&
        (atSignOf [">", ",", "="] third || (atSign ":" third && !atSign "::" third))))

/-- The end of a condition, but for a colon. -/
def atConditionEnd (ts : List Token) : Bool :=
  ts.isEmpty || atGroup .curly ts || atSignOf [",", ";", "="] ts

def atColon (ts : List Token) : Bool :=
  atSign ":" ts && !atSign "::" ts

/-- One condition on a lifetime or a type. -/
def condition (g : Grammar) : Reader Unit := do
  let ts ← ahead
  if atLifetime ts && atSign ":" (ts.drop 1) then
    drop 2
    chained "+" (fun ts => atConditionEnd ts || atSign ":" ts) lifetime
  else
    discard g.quantifier?
    discard (g.type true)
    sign ":"
    chained "+" (fun ts => atConditionEnd ts || atColon ts) (discard (g.bound false true))

/-- The conditions of a generic declaration, where there are any. -/
def conditions (g : Grammar) : Reader Unit := do
  if ← given? "where" then
    if atParameters (← ahead) then failure
    chained "," (fun ts => atConditionEnd ts || atColon ts) g.condition

/-! ## Visibility -/

/-- Takes a visibility where there is one. Round brackets belong to it only around a single path
keyword, or where they start with `in`. -/
def visibility? : Reader Bool := do
  if ← given? "pub" then
    match ← ahead with
    | .group .round content :: _ =>
      if atOneOf ["crate", "self", "super"] content then
        if content.length == 1 then drop 1
      else if atName "in" content then
        inGroup .round do
          given "in"
          discard plainPath
      return true
    | _ => return true
  else return false

end Grammar
end Declaration
end RecordRules
