import RecordRules.Error
import RecordRules.Text.Blank

/-!
# RecordRules.Stored.Groups

Cutting a text into its bracket groups. Brackets inside a group must balance and belong to its
content; between groups only blank characters may stand. The first defect from the left is
reported with its position in bytes, an unclosed group at the end.
-/

namespace RecordRules
namespace Stored

/-- Where the reading stands: between groups, or inside one, with the number of brackets open
inside it and its content so far, last character first. -/
inductive GroupState where
  | outside
  | inside (depth : Nat) (content : List Char)

/-- The contents of the groups from a given state and position on. -/
def groupsFrom : GroupState → (position : Nat) → List Char → Except ParseFault (List (List Char))
  | .outside, _, [] => .ok []
  | .inside _ _, _, [] => .error .unclosed
  | .outside, position, c :: cs =>
    if c = '[' then groupsFrom (.inside 0 []) (position + c.utf8Size) cs
    else if c = ']' then .error (.unbalanced position)
    else if Text.isBlank c then groupsFrom .outside (position + c.utf8Size) cs
    else .error (.stray c position)
  | .inside depth content, position, c :: cs =>
    if c = '[' then groupsFrom (.inside (depth + 1) (c :: content)) (position + c.utf8Size) cs
    else if c = ']' then
      match depth with
      | 0 =>
        match groupsFrom .outside (position + c.utf8Size) cs with
        | .error e => .error e
        | .ok gs => .ok (content.reverse :: gs)
      | depth + 1 => groupsFrom (.inside depth (c :: content)) (position + c.utf8Size) cs
    else groupsFrom (.inside depth (c :: content)) (position + c.utf8Size) cs

def groups (cs : List Char) : Except ParseFault (List (List Char)) :=
  groupsFrom .outside 0 cs

end Stored
end RecordRules
