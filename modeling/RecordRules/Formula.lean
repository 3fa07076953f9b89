import RecordRules.Error

/-!
# RecordRules.Formula

Boolean formulas over tests of any kind, the form a compiled rule takes. A test may fail;
evaluation goes from left to right, stops as soon as the answer is known, and gives the first
failure it meets.

`combine` joins formulas under a combining operator: no formula at all always holds, a single one
stands for itself, and negation takes exactly one.
-/

namespace RecordRules

inductive Formula (L : Type) where
  | test (l : L)
  | always
  | all (parts : List (Formula L))
  | any (parts : List (Formula L))
  | not (part : Formula L)

namespace Formula

variable {L ε : Type}

mutual

def evaluate (value : L → Except ε Bool) : Formula L → Except ε Bool
  | .test l => value l
  | .always => .ok true
  | .all parts => evaluateAll value parts
  | .any parts => evaluateAny value parts
  | .not part =>
    match evaluate value part with
    | .error e => .error e
    | .ok b => .ok (!b)

/-- All hold; the first that does not, decides. -/
def evaluateAll (value : L → Except ε Bool) : List (Formula L) → Except ε Bool
  | [] => .ok true
  | f :: fs =>
    match evaluate value f with
    | .error e => .error e
    | .ok false => .ok false
    | .ok true => evaluateAll value fs

/-- One holds; the first that does, decides. -/
def evaluateAny (value : L → Except ε Bool) : List (Formula L) → Except ε Bool
  | [] => .ok false
  | f :: fs =>
    match evaluate value f with
    | .error e => .error e
    | .ok true => .ok true
    | .ok false => evaluateAny value fs

end

mutual

/-- The tests an evaluation reaches, in order. -/
def reached (value : L → Except ε Bool) : Formula L → List L
  | .test l => [l]
  | .always => []
  | .all parts => reachedAll value parts
  | .any parts => reachedAny value parts
  | .not part => reached value part

def reachedAll (value : L → Except ε Bool) : List (Formula L) → List L
  | [] => []
  | f :: fs =>
    match evaluate value f with
    | .ok true => reached value f ++ reachedAll value fs
    | _ => reached value f

def reachedAny (value : L → Except ε Bool) : List (Formula L) → List L
  | [] => []
  | f :: fs =>
    match evaluate value f with
    | .ok false => reached value f ++ reachedAny value fs
    | _ => reached value f

end

/-- Formulas joined under an operator. -/
def combine (op : Operator) (parts : List (Formula L)) : Except RuleError (Formula L) :=
  match op with
  | .and =>
    match parts with
    | [] => .ok .always
    | [f] => .ok f
    | fs => .ok (.all fs)
  | .or =>
    match parts with
    | [] => .ok .always
    | [f] => .ok f
    | fs => .ok (.any fs)
  | .not =>
    match parts with
    | [f] => .ok (.not f)
    | fs => .error (.invalidArity .not 1 fs.length)
  | op => .error (.unsupportedOperator (.cannotCombine op))

end Formula
end RecordRules
