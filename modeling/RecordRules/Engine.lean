import RecordRules.Compile.Entity
import RecordRules.Compile.Owned
import RecordRules.Settings
import RecordRules.Stored.Reading

/-!
# RecordRules.Engine

Reading, compiling and filtering under the settings of one deployment.
-/

namespace RecordRules

structure Engine where
  settings : Settings

namespace Engine

def standard : Engine :=
  ⟨.standard⟩

def ofDocument (text : String) : Except RuleError Engine :=
  match Settings.read text with
  | .error e => .error e
  | .ok s => .ok ⟨s⟩

def readStored (e : Engine) (text : Option String) : Except RuleError Rule :=
  e.settings.format.readStored text

def compileRows {α : Type} (_ : Engine) (t : RecordType α) (r : Rule) :
    Except RuleError (Predicate α) :=
  Flat.compile t r

def compileEntities {α : Type} (e : Engine) (t : EntityType α) (r : Rule) :
    Except RuleError (Predicate α) :=
  Entities.compile e.settings.conventions t r

def compileAttributes {α β : Type} (e : Engine) (t : AttributeType α β) (r : Rule) :
    Except RuleError (Predicate α) :=
  Owned.compile e.settings.conventions t r

def filterRows {α : Type} (_ : Engine) (t : RecordType α) (r : Rule) (as : List α) :
    Except RuleError (List α) :=
  Flat.filter t r as

def filterEntities {α : Type} (e : Engine) (t : EntityType α) (r : Rule) (as : List α) :
    Except RuleError (List α) :=
  Entities.filter e.settings.conventions t r as

def filterAttributes {α β : Type} (e : Engine) (t : AttributeType α β) (r : Rule) (as : List α) :
    Except RuleError (List α) :=
  Owned.filter e.settings.conventions t r as

end Engine
end RecordRules
