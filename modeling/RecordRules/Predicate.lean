import RecordRules.Error

/-!
# RecordRules.Predicate

A compiled rule as a predicate on records, and the ways to apply it to a list of them. Evaluation
may fail. Filtering and counting look at every record and give the first failure; searching stops
at the first match, so a failure behind it is never met.
-/

namespace RecordRules

structure Predicate (α : Type) where
  record : String
  evaluate : α → Except RuleError Bool

namespace Predicate

variable {α : Type}

/-- How a predicate is shown: by the name of its record type. -/
def shown (p : Predicate α) : String :=
  s!"Predicate<{p.record}>"

def filter (p : Predicate α) : List α → Except RuleError (List α)
  | [] => .ok []
  | a :: as =>
    match p.evaluate a with
    | .error e => .error e
    | .ok matched =>
      match p.filter as with
      | .error e => .error e
      | .ok rest => .ok (if matched then a :: rest else rest)

/-- The matching records of a predicate that may not have compiled. -/
def filterWith (compiled : Except RuleError (Predicate α)) (as : List α) :
    Except RuleError (List α) :=
  match compiled with
  | .error e => .error e
  | .ok p => p.filter as

/-- The matching records of any source, in the order in which it yields its records. -/
def filterFrom {σ : Type} (p : Predicate α) (yields : σ → List α) (source : σ) :
    Except RuleError (List α) :=
  p.filter (yields source)

/-- Copies of the matching records, in order. -/
def filterCopies (p : Predicate α) (copy : α → α) (as : List α) : Except RuleError (List α) :=
  match p.filter as with
  | .error e => .error e
  | .ok matching => .ok (matching.map copy)

def count (p : Predicate α) : List α → Except RuleError Nat
  | [] => .ok 0
  | a :: as =>
    match p.evaluate a with
    | .error e => .error e
    | .ok matched =>
      match p.count as with
      | .error e => .error e
      | .ok rest => .ok (if matched then rest + 1 else rest)

def find (p : Predicate α) : List α → Except RuleError (Option α)
  | [] => .ok none
  | a :: as =>
    match p.evaluate a with
    | .error e => .error e
    | .ok true => .ok (some a)
    | .ok false => p.find as

def any (p : Predicate α) (as : List α) : Except RuleError Bool :=
  match p.find as with
  | .error e => .error e
  | .ok found => .ok found.isSome

end Predicate
end RecordRules
