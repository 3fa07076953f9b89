import RecordRules.Declaration.Grammar.Item
import RecordRules.Declaration.Grammar.Statement

/-!
# RecordRules.Declaration.Grammar

The grammar of record declarations. Its rules are closed over each other up to a depth: the rules of
one depth use those of the depth below for what lies inside. Every step down goes with a token or
with a change of rule, and there are few rules between two tokens, so a depth that grows with the
number of tokens is enough for all of them.
-/

namespace RecordRules
namespace Declaration
namespace Grammar

/-- The readers of every kind for texts that need no more than the given depth. -/
def atDepth : (depth : Nat) → Grammar
  | 0 => nothing
  | depth + 1 =>
    { type := fun sums input => anyType (atDepth depth) sums input
      arguments := fun input => argumentList (atDepth depth) input
      bound := fun captures constants input => oneBound (atDepth depth) captures constants input
      value := fun records input => anyValue (atDepth depth) records input
      operand := fun records input => oneOperand (atDepth depth) records input
      operators := fun records least left input =>
        operatorsBehind (atDepth depth) records least left input
      statementValue := fun input => anyStatementValue (atDepth depth) input
      pattern := fun input => onePattern (atDepth depth) input
      statements := fun input => statementList (atDepth depth) input
      item := fun input => anyItem (atDepth depth) input
      imports := fun roots input => importTree (atDepth depth) roots input
      fields := fun input => (discard (namedFields (atDepth depth))) input }

def forTokens (ts : List Token) : Grammar :=
  atDepth (16 * (tokenCountAll ts + 1))

def fieldOf (g : Grammar) (f : NamedField) : Field :=
  ⟨f.name, f.type.isOptional, f.attributes.map g.attributeOf⟩

/-- What is declared: a record, a choice or a union. -/
def declaration (g : Grammar) : Reader Item := do
  discard g.outerAttributes
  discard visibility?
  if ← given? "struct" then
    discard word
    g.generics
    match ← g.recordBody with
    | some fields => return .record (fields.map g.fieldOf)
    | none => return .unnamed
  else if atName "enum" (← ahead) then
    g.choiceItem
    return .other
  else
    g.unionItem
    return .other

end Grammar

/-- What a text declares, or nothing where it is not well formed. Nothing may be left over, in
brackets neither. -/
def read (text : String) : Option Item :=
  match tokens? text.toList with
  | none => none
  | some ts =>
    match (Grammar.forTokens ts).declaration.run ⟨ts, false⟩ with
    | some (item, ⟨[], false⟩) => some item
    | _ => none

/-- The name that a text consists of, blanks and comments aside. A keyword is none. -/
def identifier? (cs : List Char) : Option String :=
  match tokens? cs with
  | some [.name n] => if isKeyword n then none else some n
  | _ => none

end Declaration
end RecordRules
