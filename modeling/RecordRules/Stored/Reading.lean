import RecordRules.Stored.Format
import RecordRules.Stored.Groups

/-!
# RecordRules.Stored.Reading

Reading stored rules. Everything up to the first marker is ignored, and blank characters around
the rest. The reading is flat: a group with a combining operator after the first opens a nested
rule, which takes the conditions up to the next such group and has no nested rules of its own.

Values are text, except those of the numeric field, which must be numbers. `Stored.read` gives the
rule or the first fault; `Stored.readLog` the lines that report how far the reading came.
-/

namespace RecordRules
namespace Stored

/-- The rule text in a stored text: behind the first marker if there is one, without blank
characters around it. -/
def body (f : StoredFormat) (text : List Char) : List Char :=
  Text.trim ((Text.afterFirst? f.marker.toList text).getD text)

/-- The combining operator that a whole group spells. -/
def combining? (group : List Char) : Option Operator :=
  match Operator.ofToken? (String.ofList group) with
  | some op => if op.isLogical then some op else none
  | none => none

def comparing? (suffix : List Char) : Option Operator :=
  match Operator.ofToken? (String.ofList ('_' :: suffix)) with
  | some op => if op.isLogical then none else some op
  | none => none

/-- One value of a field: a number under the numeric field, text elsewhere. -/
def readScalar (f : StoredFormat) (field raw : List Char) : Except ParseFault Scalar :=
  let text := unescape raw
  if field = f.numericField.toList then
    match Number.read? text with
    | some n => .ok (.number n)
    | none => .error (.notANumber (String.ofList text) (String.ofList field))
  else .ok (.text (String.ofList text))

def readScalars (f : StoredFormat) (field : List Char) :
    List (List Char) → Except ParseFault (List Scalar)
  | [] => .ok []
  | raw :: raws =>
    match readScalar f field raw with
    | .error e => .error e
    | .ok s =>
      match readScalars f field raws with
      | .error e => .error e
      | .ok ss => .ok (s :: ss)

/-- The constant an operator takes, from its written value. An empty value is an empty list. -/
def readConstant (f : StoredFormat) (field : List Char) (op : Operator) (raw : List Char) :
    Except ParseFault Constant :=
  if op.kind = .text then .ok (.pattern (String.ofList (unescape raw)))
  else if op.isMembership then
    if raw.isEmpty then .ok (.array [])
    else
      match readScalars f field (Text.pieces '|' raw) with
      | .error e => .error e
      | .ok items => .ok (.array items)
  else
    match readScalar f field raw with
    | .error e => .error e
    | .ok s => .ok (.single s)

/-- The condition in a group: exactly three parts between underscores. -/
def readCondition (f : StoredFormat) (group : List Char) : Except RuleError Condition :=
  match Text.pieces '_' group with
  | [field, suffix, raw] =>
    if Text.allBlank field then .error (.parse (.blankField (String.ofList group)))
    else
      match comparing? suffix with
      | none => .error (.parse (.unknownSuffix (String.ofList suffix) (String.ofList group)))
      | some op =>
        match readConstant f field op raw with
        | .error e => .error (.parse e)
        | .ok value => Condition.make (String.ofList field) op value
  | _ => .error (.parse (.wrongParts (String.ofList group)))

/-- The conditions up to the next combining group, and the sections from there on, each with its
operator and conditions. -/
def readSections (f : StoredFormat) :
    List (List Char) → Except RuleError (List Condition × List (Operator × List Condition))
  | [] => .ok ([], [])
  | g :: gs =>
    match combining? g with
    | some op =>
      match readSections f gs with
      | .error e => .error e
      | .ok (cs, sections) => .ok ([], (op, cs) :: sections)
    | none =>
      match readCondition f g with
      | .error e => .error e
      | .ok c =>
        match readSections f gs with
        | .error e => .error e
        | .ok (cs, sections) => .ok (c :: cs, sections)

def sectionRules : List (Operator × List Condition) → Except RuleError (List Rule)
  | [] => .ok []
  | (op, cs) :: sections =>
    match Rule.make op cs [] with
    | .error e => .error e
    | .ok r =>
      match sectionRules sections with
      | .error e => .error e
      | .ok rs => .ok (r :: rs)

/-- The rule that groups spell. The first must combine. -/
def readGroups (f : StoredFormat) : List (List Char) → Except RuleError Rule
  | [] => .error (.parse .noGroups)
  | g :: gs =>
    match combining? g with
    | none => .error (.parse (.noOpening (String.ofList g)))
    | some op =>
      match readSections f gs with
      | .error e => .error e
      | .ok (cs, sections) =>
        match sectionRules sections with
        | .error e => .error e
        | .ok rs => Rule.make op cs rs

def read (f : StoredFormat) (text : List Char) : Except RuleError Rule :=
  let rest := body f text
  if rest.isEmpty then .error (.parse .emptyText)
  else
    match groups rest with
    | .error e => .error (.parse e)
    | .ok gs => readGroups f gs

/-- The rule in a stored value that may be absent. -/
def readStored (f : StoredFormat) : Option (List Char) → Except RuleError Rule
  | none => .error (.parse .nothingStored)
  | some text => read f text

/-- One line per group, counted from `position`, up to the first condition that fails. -/
def sectionLog (f : StoredFormat) : (position : Nat) → List (List Char) → List LogLine
  | _, [] => []
  | position, g :: gs =>
    match combining? g with
    | some op =>
      ⟨.trace, s!"group {position}: opens nested {op.token}"⟩ :: sectionLog f (position + 1) gs
    | none =>
      ⟨.trace, s!"group {position}: condition [{String.ofList g}]"⟩ ::
        match readCondition f g with
        | .error _ => []
        | .ok _ => sectionLog f (position + 1) gs

def readLog (f : StoredFormat) (text : List Char) : List LogLine :=
  let rest := body f text
  ⟨.debug, s!"parsing matrix from {Text.byteLength rest} bytes"⟩ ::
    match groups rest with
    | .error _ => []
    | .ok [] => []
    | .ok (g :: gs) =>
      match combining? g with
      | none => []
      | some _ => sectionLog f 2 gs

/-- What reading a stored value reports: nothing where nothing is stored. -/
def readStoredLog (f : StoredFormat) : Option (List Char) → List LogLine
  | none => []
  | some text => readLog f text

end Stored

def StoredFormat.read (f : StoredFormat) (text : String) : Except RuleError Rule :=
  Stored.read f text.toList

def StoredFormat.readStored (f : StoredFormat) (text : Option String) : Except RuleError Rule :=
  Stored.readStored f (text.map String.toList)

end RecordRules
