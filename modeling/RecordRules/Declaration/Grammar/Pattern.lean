import RecordRules.Declaration.Grammar.Bound

/-!
# RecordRules.Declaration.Grammar.Pattern

Patterns: names, paths with what belongs to them, literals and ranges, references, tuples and
slices, and alternatives of patterns.
-/

namespace RecordRules
namespace Declaration
namespace Grammar

/-- How a range reaches its end. -/
inductive RangeLimit where
  | below
  | upTo
deriving DecidableEq

/-- The dots of a range. Three dots are an old way to write a range with its end. -/
def rangeLimit (old : Bool) : Reader RangeLimit := do
  let ts ← ahead
  if ← sign? "..=" then return .upTo
  else if atSign "..." ts then
    if old then
      drop 3
      return .upTo
    else failure
  else
    sign ".."
    return .below

/-- The name or the place of a field. It tells whether it is a name. -/
def member : Reader Bool := do
  if ← word? then return true
  else
    match ← ahead with
    | .literal (.number written) :: ts =>
      if isPlace written then
        goTo ts
        return false
      else failure
    | _ => failure

/-- A pattern, or alternatives with bars between them; a bar may stand in front. -/
def alternatives (g : Grammar) : Reader PatternShape := do
  let leading ← sign? "|"
  let first ← g.pattern
  let further := fun ts => atSign "|" ts && !atSignOf ["||", "|="] ts
  let several := leading || further (← ahead)
  repeatWhile do
    if further (← ahead) then
      drop 1
      discard g.pattern
      return true
    else return false
  return if several then .other else first

/-- One end of a range, or nothing where the pattern ends. -/
def rangeEnd? (g : Grammar) : Reader Bool := do
  let ts ← ahead
  if ts.isEmpty || atSignOf ["|", "=", ",", ";"] ts || atColon ts || atName "if" ts then
    return false
  else if atLiteral ts then
    discard literal
    return true
  else if atPathName ts || atSignOf ["::", "<"] ts then
    discard (g.anyPath true)
    return true
  else
    given "const"
    g.attributedBlock
    return true

/-- A range behind its start, where it has one. -/
def rangeBehind (g : Grammar) : Reader PatternShape := do
  let limit ← rangeLimit true
  if ← g.rangeEnd? then return .other
  else if limit = .upTo then failure
  else return .openRange

def fieldPattern (g : Grammar) : Reader Unit := do
  let boxed ← given? "box"
  let byReference ← given? "ref"
  let mutable ← given? "mut"
  if boxed || byReference || mutable then discard word
  else
    let named ← member
    if !named || atSign ":" (← ahead) then
      sign ":"
      discard g.alternatives

/-- The inside of a record pattern's brackets. Two dots for the other fields stand last. -/
def fieldPatterns (g : Grammar) : Reader Unit :=
  repeatWhile do
    if ← atEnd then return false
    else
      discard g.outerAttributes
      if ← sign? ".." then return false
      else
        g.fieldPattern
        if ← atEnd then return false
        else
          sign ","
          return true

def pathPattern (g : Grammar) : Reader PatternShape := do
  let p ← g.anyPath true
  let ts ← ahead
  if p.any PathShape.bare && atCall ts then
    drop 1
    discard someGroup
    return .other
  else if atGroup .curly ts then
    inGroup .curly g.fieldPatterns
    return .other
  else if atGroup .round ts then
    discard (inGroup .round (listed g.alternatives))
    return .other
  else if atSign ".." ts then g.rangeBehind
  else return .other

/-- A name that a value is bound to, with a pattern for the value behind an at sign. -/
def namePattern (g : Grammar) : Reader Unit := do
  discard (given? "ref")
  discard (given? "mut")
  if !(← given? "self") then discard word
  if ← sign? "@" then discard g.pattern

/-- A literal or a range that starts with one. -/
def literalPattern (g : Grammar) : Reader PatternShape := do
  if !(← g.rangeEnd?) then failure
  if atSign ".." (← ahead) then g.rangeBehind else return .other

/-- The items of a slice. A range without one of its ends is none. -/
def slicePatterns (g : Grammar) : Reader Unit :=
  discard <| listed do
    if (← g.alternatives) = .openRange then failure

/-- A range without a start, or two dots alone. -/
def startlessPattern (g : Grammar) : Reader PatternShape := do
  let limit ← rangeLimit false
  if ← g.rangeEnd? then return .openRange
  else if limit = .upTo then failure
  else return .other

/-- A path starts here rather than a name alone. -/
def atPathPattern (ts : List Token) : Bool :=
  let next := ts.drop 1
  (atWord ts && (atSignOf ["::", "!", ".."] next || atGroup .curly next || atGroup .round next)) ||
    (atName "self" ts && atSign "::" next) || atSignOf ["::", "<"] ts ||
    atOneOf ["Self", "super", "crate"] ts

/-- A pattern without alternatives. -/
def onePattern (g : Grammar) : Reader PatternShape := do
  let ts ← ahead
  if atPathPattern ts then g.pathPattern
  else if ← given? "_" then return .other
  else if ← given? "box" then
    discard g.pattern
    return .other
  else if atSign "-" ts || atLiteral ts || atName "const" ts then g.literalPattern
  else if atOneOf ["ref", "mut", "self"] ts || atWord ts then
    g.namePattern
    return .other
  else if ← sign? "&" then
    discard (given? "mut")
    discard g.pattern
    return .other
  else if atGroup .round ts then
    discard (inGroup .round (listed g.alternatives))
    return .other
  else if atGroup .square ts then
    inGroup .square g.slicePatterns
    return .other
  else g.startlessPattern

end Grammar
end Declaration
end RecordRules
