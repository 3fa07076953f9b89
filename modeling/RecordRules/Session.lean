import RecordRules.Builder
import RecordRules.Engine

/-!
# RecordRules.Session

A working session: an engine, rules by name, and stored texts by name. Rules and texts have names
of their own, so one name can stand for both. A step that fails leaves the session as it was.
-/

namespace RecordRules

inductive SessionFault where
  | noSuchName
  | failed (error : RuleError)

structure Session where
  engine : Engine
  rules : List (String × Rule)
  texts : List (String × String)

namespace Session

def start : Session :=
  ⟨.standard, [], []⟩

/-- What a name stands for; the entry made last counts. -/
def lookup {α : Type} (name : String) (entries : List (String × α)) : Except SessionFault α :=
  match entries.find? fun e => e.1 == name with
  | some e => .ok e.2
  | none => .error .noSuchName

def rule (s : Session) (name : String) : Except SessionFault Rule :=
  lookup name s.rules

def text (s : Session) (name : String) : Except SessionFault String :=
  lookup name s.texts

def keepRule (s : Session) (name : String) (r : Rule) : Session :=
  { s with rules := (name, r) :: s.rules }

def keepText (s : Session) (name text : String) : Session :=
  { s with texts := (name, text) :: s.texts }

def keepResult (s : Session) (into : String) :
    Except RuleError Rule → Except SessionFault (Session × Rule)
  | .error e => .error (.failed e)
  | .ok r => .ok (s.keepRule into r, r)

/-- Replaces the engine by that of a configuration document. -/
def configure (s : Session) (document : String) : Except SessionFault (Session × Settings) :=
  match Engine.ofDocument document with
  | .error e => .error (.failed e)
  | .ok engine => .ok ({ s with engine := engine }, engine.settings)

def readInto (s : Session) (text : Option String) (into : String) :
    Except SessionFault (Session × Rule) :=
  s.keepResult into (s.engine.readStored text)

def writeInto (s : Session) (of into : String) : Except SessionFault (Session × String) :=
  match s.rule of with
  | .error e => .error e
  | .ok r => .ok (s.keepText into r.stored, r.stored)

/-- The text that reading a named text behind another one starts from. -/
def rereadText (s : Session) (lead of : String) : Except SessionFault String :=
  match s.text of with
  | .error e => .error e
  | .ok text => .ok (lead ++ text)

/-- Reads a named text, with another text before it, into a named rule. -/
def rereadInto (s : Session) (lead of into : String) : Except SessionFault (Session × Rule) :=
  match s.rereadText lead of with
  | .error e => .error e
  | .ok text => s.readInto (some text) into

def buildInto (s : Session) (steps : List BuildStep) (into : String) :
    Except SessionFault (Session × Rule) :=
  s.keepResult into <|
    match Builder.empty.run steps with
    | .error e => .error e
    | .ok b => .ok b.build

def addNamed (s : Session) (b : Builder) : List String → Except SessionFault Builder
  | [] => .ok b
  | name :: names =>
    match s.rule name with
    | .error e => .error e
    | .ok r => s.addNamed (b.addRule r) names

/-- Combines named rules into a named rule. -/
def nestInto (s : Session) (token : String) (of : List String) (into : String) :
    Except SessionFault (Session × Rule) :=
  match Builder.empty.step (.combineWith token) with
  | .error e => .error (.failed e)
  | .ok b =>
    match s.addNamed b of with
    | .error e => .error e
    | .ok b => .ok (s.keepRule into b.build, b.build)

def equal (s : Session) (a b : String) : Except SessionFault Bool :=
  match s.rule a with
  | .error e => .error e
  | .ok r =>
    match s.rule b with
    | .error e => .error e
    | .ok r' => .ok (r.same r')

end Session
end RecordRules
