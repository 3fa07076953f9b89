import RecordRules.Binary64

/-!
# RecordRules.Json.Tree

JSON documents as trees. A document is read up to its first mistake, and the mistake stands in the
tree at the place where it was met (`broken`), so that what comes before it can still be looked at
in order. A value that is well formed but stands for nothing (a number out of range, a text with
half a surrogate pair) is `unreadable`; so is the key of an entry that is `none`. A container that
lies too deep is `tooDeep`, with what it holds: it can be passed over, but not be used.
-/

namespace RecordRules

inductive Json where
  | null
  | bool (b : Bool)
  | integer (n : Int)
  | float (x : Binary64)
  | text (s : String)
  | list (items : List Json)
  | object (entries : List (Option String × Json))
  | unreadable
  | tooDeep (v : Json)
  | broken

namespace Json

mutual

/-- The document has no mistake up to the end of this value. -/
def intact : Json → Bool
  | .broken => false
  | .list items => allIntact items
  | .object entries => entriesIntact entries
  | .tooDeep v => intact v
  | _ => true

def allIntact : List Json → Bool
  | [] => true
  | v :: vs => intact v && allIntact vs

def entriesIntact : List (Option String × Json) → Bool
  | [] => true
  | (_, v) :: es => intact v && entriesIntact es

end

end Json
end RecordRules
