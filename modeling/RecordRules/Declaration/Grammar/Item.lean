import RecordRules.Declaration.Grammar.Fields
import RecordRules.Declaration.Grammar.Function

/-!
# RecordRules.Declaration.Grammar.Item

Items: functions, imports, values with a name, types, traits and what implements them, modules and
calls of macros. They may stand in any block, so in values too.
-/

namespace RecordRules
namespace Declaration
namespace Grammar

/-! ## Calls of macros -/

/-- The path of an item that is a call of a macro starts here. -/
def atItemCall (ts : List Token) : Bool :=
  atWord ts || atOneOf ["self", "super", "crate"] ts || atSign "::" ts

/-- Takes the brackets of a call, and the semicolon behind them unless they are curly. -/
def callBrackets : Reader Unit := do
  if (← someGroup) ≠ .curly then sign ";"

/-- A call of a macro among the items of a trait, an implementation or a foreign module. -/
def memberCall : Reader Unit := do
  if !atItemCall (← ahead) then failure
  discard plainPath
  sign "!"
  callBrackets

/-- A call of a macro as an item; it may define something by name. -/
def itemCall : Reader Unit := do
  if !atItemCall (← ahead) then failure
  discard plainPath
  sign "!"
  if !(← given? "try") then discard word?
  callBrackets

def macroDefinition : Reader Unit := do
  given "macro"
  discard word
  if atGroup .round (← ahead) then drop 1
  if (← someGroup) ≠ .curly then failure

/-! ## Imports -/

/-- The name that an import is given, where it is given one. -/
def newName? : Reader Unit := do
  if ← given? "as" then
    if !(← given? "_") then discard word

/-- What is imported from a path: a name, everything, or several imports in curly brackets. The
brackets may hold paths that start with a separator where `roots` says so. -/
def importTree (g : Grammar) (roots : Bool) : Reader Unit := do
  let ts ← ahead
  if atWord ts || atOneOf ["self", "super", "crate", "try"] ts then
    drop 1
    if ← sign? "::" then g.imports false else newName?
  else if atGroup .curly ts then
    discard <| inGroup .curly <| listed do
      let rooted ← if roots then sign? "::" else pure false
      g.imports (roots && !rooted)
  else sign "*"

def importList (g : Grammar) : Reader Unit := do
  let rooted ← sign? "::"
  g.imports !rooted
  sign ";"

def foreignLibrary : Reader Unit := do
  given "extern"
  given "crate"
  if !(← given? "self") then discard word
  newName?
  sign ";"

/-! ## Values and types with a name -/

def assigned? (g : Grammar) : Reader Unit := do
  if ← sign? "=" then discard (g.value true)

def constantItem (g : Grammar) : Reader Unit := do
  given "const"
  if !(← given? "_") then discard word
  g.generics
  sign ":"
  discard (g.type true)
  g.assigned?
  g.conditions
  sign ";"

/-- A variable. Its type may be left out where it has a value, unless it is a foreign one. -/
def variableItem (g : Grammar) (foreign : Bool) : Reader Unit := do
  given "static"
  discard (given? "mut")
  discard word
  if foreign || !atSign "=" (← ahead) then
    sign ":"
    discard (g.type true)
  g.assigned?
  sign ";"

/-- Where the conditions of a named type may stand. -/
inductive ConditionPlace where
  | beforeType
  | behindType
  | either
deriving DecidableEq

def typeItem (g : Grammar) (place : ConditionPlace) : Reader Unit := do
  given "type"
  discard word
  g.generics
  if ← sign? ":" then
    chained "+" (fun ts => atName "where" ts || atSignOf ["=", ";"] ts)
      (discard (g.bound false true))
  let early := place ≠ .behindType && atName "where" (← ahead)
  if early then g.conditions
  if ← sign? "=" then discard (g.type true)
  if place = .behindType || (place = .either && !early) then g.conditions
  sign ";"

/-! ## Traits -/

def members (g : Grammar) (member : Reader Unit) : Reader Unit :=
  inGroup .curly do
    g.innerAttributes
    untilEnd member

/-- A constant of a trait or an implementation starts here rather than a function. -/
def atConstantMember (ts : List Token) : Bool :=
  atName "const" ts && (atWord (ts.drop 1) || atName "_" (ts.drop 1))

def traitMember (g : Grammar) : Reader Unit := do
  discard g.outerAttributes
  let visible ← visibility?
  let marked ← given? "default"
  let ts ← ahead
  if atDefinition false ts then g.definition false
  else if atConstantMember ts then g.constantItem
  else if atName "type" ts then g.typeItem .behindType
  else if visible || marked then failure
  else memberCall

/-- The rest of a trait behind its parameters. -/
def traitBody (g : Grammar) : Reader Unit := do
  if ← sign? ":" then
    chained "+" (fun ts => atName "where" ts || atGroup .curly ts) (discard (g.bound false true))
  g.conditions
  g.members g.traitMember

/-- The rest of another name for traits. -/
def traitAliasBody (g : Grammar) : Reader Unit := do
  sign "="
  chained "+" (fun ts => atName "where" ts || atSign ";" ts) (discard (g.bound false false))
  g.conditions
  sign ";"

/-- A trait, or another name for some traits, which has no word before its keyword. -/
def traitItem (g : Grammar) : Reader Unit := do
  let marked ← given? "unsafe"
  let auto ← given? "auto"
  given "trait"
  discard word
  g.generics
  if !marked && !auto && atSign "=" (← ahead) then g.traitAliasBody else g.traitBody

/-! ## Implementations -/

/-- The word for what may be replaced, not a macro of that name. -/
def atDefault (ts : List Token) : Bool :=
  atName "default" ts && !atSign "!" (ts.drop 1)

def implementationMember (g : Grammar) : Reader Unit := do
  discard g.outerAttributes
  let visible ← visibility?
  let marked := atDefault (← ahead)
  if marked then drop 1
  let ts ← ahead
  if atDefinition false ts then g.definition false
  else if atName "const" ts then g.constantItem
  else if atName "type" ts then g.typeItem .behindType
  else if visible || marked then failure
  else memberCall

/-- Takes the mark of an implementation that can be used at compile time, or may be. -/
def constantMark? : Reader Unit := do
  let ts ← ahead
  if atName "const" ts then drop 1
  else if atSign "?" ts && atName "const" (ts.drop 1) then drop 2

/-- An implementation of a trait or of a type alone. Only that of a trait can be a denial. -/
def implementation (g : Grammar) : Reader Unit := do
  discard (given? "default")
  discard (given? "unsafe")
  given "impl"
  if atParameters (← ahead) then g.generics
  constantMark?
  let ts ← ahead
  let denied := atSign "!" ts && !atGroup .curly (ts.drop 1)
  if denied then drop 1
  discard (g.type true)
  if ← given? "for" then discard (g.type true)
  else if denied then failure
  g.conditions
  g.members g.implementationMember

/-! ## Modules -/

/-- A module with its items, or by its name alone. -/
def moduleItem (g : Grammar) : Reader Unit := do
  discard (given? "unsafe")
  given "mod"
  if !(← given? "try") then discard word
  if !(← sign? ";") then g.members g.item

def atForeignVariable (ts : List Token) : Bool :=
  atName "static" ts || (atOneOf ["unsafe", "safe"] ts && atName "static" (ts.drop 1))

def foreignMember (g : Grammar) : Reader Unit := do
  discard g.outerAttributes
  let visible ← visibility?
  let ts ← ahead
  if atDefinition true ts then g.definition true
  else if atForeignVariable ts then
    discard (oneGiven? ["unsafe", "safe"])
    g.variableItem true
  else if atName "type" ts then g.typeItem .either
  else if visible then failure
  else memberCall

def foreignModule (g : Grammar) : Reader Unit := do
  discard (given? "unsafe")
  if !(← convention?) then failure
  g.members g.foreignMember

/-! ## Items -/

def recordItem (g : Grammar) : Reader Unit := do
  given "struct"
  discard word
  g.generics
  discard g.recordBody

def choiceItem (g : Grammar) : Reader Unit := do
  given "enum"
  discard word
  g.generics
  g.choiceBody

def unionItem (g : Grammar) : Reader Unit := do
  given "union"
  discard word
  g.generics
  g.unionBody

def atTrait (ts : List Token) : Bool :=
  let ts := if atName "unsafe" ts then ts.drop 1 else ts
  let ts := if atName "auto" ts then ts.drop 1 else ts
  atName "trait" ts

def atImplementation (ts : List Token) : Bool :=
  atName "impl" ts || atDefault ts || (atName "unsafe" ts && atName "impl" (ts.drop 1))

/-- An item. Foreign modules and calls of macros have no visibility. -/
def anyItem (g : Grammar) : Reader Unit := do
  discard g.outerAttributes
  let visible ← visibility?
  let ts ← ahead
  let next := ts.drop 1
  if atDefinition false ts then g.definition false
  else if atName "extern" ts && atName "crate" next then foreignLibrary
  else if atName "extern" ts || (atName "unsafe" ts && atName "extern" next) then
    if visible then failure else g.foreignModule
  else if ← given? "use" then g.importList
  else if atName "static" ts then g.variableItem false
  else if atName "const" ts then g.constantItem
  else if atName "mod" ts || (atName "unsafe" ts && atName "mod" next) then g.moduleItem
  else if atName "type" ts then g.typeItem .beforeType
  else if atName "struct" ts then g.recordItem
  else if atName "enum" ts then g.choiceItem
  else if atName "union" ts && atWord next then g.unionItem
  else if atTrait ts then g.traitItem
  else if atImplementation ts then g.implementation
  else if atName "macro" ts then macroDefinition
  else if visible then failure
  else itemCall

end Grammar
end Declaration
end RecordRules
