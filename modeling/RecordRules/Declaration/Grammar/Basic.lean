import RecordRules.Declaration.Reader
import RecordRules.Declaration.Record

/-!
# RecordRules.Declaration.Grammar.Basic

The parts of the grammar that lie in each other: types, values, patterns, blocks and items. Types
hold values, values hold types, and both hold items, so every reader of one kind is given the
readers of all kinds for what lies inside it, and only those are used for it.

Of what is read only its shape is kept: as much as the rules around it ask for.
-/

namespace RecordRules
namespace Declaration

/-- What arguments in angle brackets are: none at all, some of which the first is a type, or
others. -/
inductive ArgumentsShape where
  | empty
  | typed
  | untyped
deriving DecidableEq

/-- A path of names. It is bare where no name of it has angle brackets; its last name is empty where
it has no argument in them; it is optional where its last name is `Option` with a type as its first
argument. -/
structure PathShape where
  rooted : Bool
  single : Bool
  bare : Bool
  lastEmpty : Bool
  optional : Bool

/-- What a type is: a plain path, bounds without a keyword, or anything else. -/
inductive TypeShape where
  | path (p : PathShape)
  | bounds (single : Bool)
  | other

def TypeShape.isOptional : TypeShape → Bool
  | .path p => p.optional
  | _ => false

/-- What a value is: a text literal, a value that ends a statement by itself, a call of a macro
with curly brackets, a range, a comparison, or anything else. -/
inductive ValueShape where
  | text (s : String)
  | block
  | curlyCall
  | range (ended : Bool)
  | comparison
  | other

def ValueShape.isRange : ValueShape → Bool
  | .range _ => true
  | _ => false

/-- A statement made of the value needs a semicolon behind it. -/
def ValueShape.needsSemicolon : ValueShape → Bool
  | .block => false
  | .curlyCall => false
  | _ => true

/-- What a pattern is: a range without one of its ends, or anything else. -/
inductive PatternShape where
  | openRange
  | other
deriving DecidableEq

/-- What a bound is: a lifetime, the parameters that are captured, a trait, or a trait that is
wanted only at compile time. -/
inductive BoundKind where
  | lifetime
  | capture
  | trait
  | constant
deriving DecidableEq

/-- How tightly an operator binds. -/
inductive Precedence where
  | lowest
  | assign
  | range
  | or
  | and
  | compare
  | bitOr
  | bitXor
  | bitAnd
  | shift
  | sum
  | product
  | cast
deriving DecidableEq

/-- The place of a precedence, the loosest first. -/
def Precedence.rank : Precedence → Nat
  | .lowest => 0
  | .assign => 1
  | .range => 2
  | .or => 3
  | .and => 4
  | .compare => 5
  | .bitOr => 6
  | .bitXor => 7
  | .bitAnd => 8
  | .shift => 9
  | .sum => 10
  | .product => 11
  | .cast => 12

/-- The readers of every kind. A type may be a sum of bounds where `sums` says so. A value may be
a record value with curly brackets where `records` says so: not before a block. `operators` reads
on behind an operand, through operators that bind at least as tightly as the given one. A statement
value ends where a statement may end. Imports may start with a separator where `roots` says so.
`fields` are those of a record in curly brackets. -/
structure Grammar where
  type : (sums : Bool) → Reader TypeShape
  arguments : Reader ArgumentsShape
  bound : (captures constants : Bool) → Reader BoundKind
  value : (records : Bool) → Reader ValueShape
  operand : (records : Bool) → Reader ValueShape
  operators : (records : Bool) → Precedence → ValueShape → Reader ValueShape
  statementValue : Reader ValueShape
  pattern : Reader PatternShape
  statements : Reader Unit
  item : Reader Unit
  imports : (roots : Bool) → Reader Unit
  fields : Reader Unit

def Grammar.nothing : Grammar :=
  ⟨fun _ => failure, failure, fun _ _ => failure, fun _ => failure, fun _ => failure,
    fun _ _ _ => failure, failure, failure, failure, failure, fun _ => failure, failure⟩

namespace Grammar

/-! ## Attributes and plain paths -/

/-- A name of a plain path. -/
def pathName : Reader String := do
  if atPathName (← ahead) then someName else failure

/-- A path of names without arguments. -/
def plainPath : Reader AttributePath := do
  let rooted ← sign? "::"
  let first ← pathName
  let more ← repeatFrom ([] : List String) fun more => do
    if ← sign? "::" then return some ((← pathName) :: more) else return none
  return ⟨rooted, first :: more.reverse⟩

def attributePath : Reader AttributePath := do
  if ← given? "unsafe" then return ⟨false, ["unsafe"]⟩ else plainPath

/-- The value behind an attribute's equals sign, which has no attribute of its own. -/
def attributeValue (g : Grammar) : Reader ValueShape := do
  let ts ← ahead
  if atSign "#" ts && atGroup .square (ts.drop 1) then failure else g.value true

/-- An attribute as it stands: its path, and the tokens in brackets behind it. -/
structure AttributeTokens where
  path : AttributePath
  arguments : Option (List Token)

/-- The inside of an attribute's brackets. -/
def attributeBody (g : Grammar) : Reader AttributeTokens := do
  let path ← attributePath
  match ← ahead with
  | .group _ content :: _ =>
    drop 1
    return ⟨path, some content⟩
  | _ =>
    if ← sign? "=" then discard g.attributeValue
    return ⟨path, none⟩

def outerAttributes (g : Grammar) : Reader (List AttributeTokens) := do
  let attributes ← repeatFrom ([] : List AttributeTokens) fun attributes => do
    if ← sign? "#" then return some ((← inGroup .square g.attributeBody) :: attributes)
    else return none
  return attributes.reverse

/-- The attributes at the start of what they belong to. -/
def innerAttributes (g : Grammar) : Reader Unit :=
  repeatWhile do
    let ts ← ahead
    if atSign "#" ts && atSign "!" (ts.drop 1) then
      drop 2
      discard (inGroup .square g.attributeBody)
      return true
    else return false

def attributeItem (g : Grammar) : Reader AttributeItem := do
  let path ← attributePath
  let ts ← ahead
  if atSomeGroup ts then
    drop 1
    return .group path
  else if ← sign? "=" then
    match ← g.attributeValue with
    | .text s => return .value path (some s)
    | _ => return .value path none
  else return .path path

/-- The attribute with its items, if all of them can be read. A surplus in brackets inside an item
does not matter here: an item with brackets is refused anyway. -/
def attributeOf (g : Grammar) (a : AttributeTokens) : Attribute :=
  ⟨a.path, a.arguments.bind fun content =>
    ((listed g.attributeItem).run ⟨content, false⟩).map fun r => r.1⟩

/-! ## Blocks -/

def block (g : Grammar) : Reader Unit :=
  inGroup .curly g.statements

/-- Statements in curly brackets, with attributes at their start. -/
def attributedBlock (g : Grammar) : Reader Unit :=
  inGroup .curly do
    g.innerAttributes
    g.statements

/-! ## Paths with arguments -/

/-- A value as an argument of a type. -/
def constantArgument (g : Grammar) : Reader Unit := do
  let ts ← ahead
  if atLiteral ts then discard literal
  else if atWord ts then drop 1
  else g.attributedBlock

def returnType (g : Grammar) (sums : Bool) : Reader Unit := do
  if ← sign? "->" then discard (g.type sums)

/-- Arguments of a trait in round brackets. -/
def roundArguments (g : Grammar) : Reader Unit := do
  discard (inGroup .round (listed (g.type true)))
  g.returnType false

end Grammar

end Declaration
end RecordRules
