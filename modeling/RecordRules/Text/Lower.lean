import RecordRules.Text.CaseTable

/-!
# RecordRules.Text.Lower

Lower-casing of texts by the full Unicode rules. It is not a map of single characters: capital
dotted I becomes two characters, and capital sigma becomes the final form at the end of a word.
-/

namespace RecordRules
namespace Text

/-- The small letter of a character, by the simple mapping; other characters stay. -/
def simpleLower (c : Char) : Char :=
  match lowerRuns.find? fun r =>
      decide (r.first ≤ c.toNat) && decide (c.toNat ≤ r.last) &&
        (c.toNat - r.first) % r.step == 0 with
  | some r => Char.ofNat (c.toNat + r.distance).toNat
  | none => c

/-- Capital I with dot above, the one character whose small form is two characters. -/
def dottedCapitalI : Char := Char.ofNat 0x130

def dotAbove : Char := Char.ofNat 0x307

def capitalSigma : Char := Char.ofNat 0x3A3

/-- The small sigma written at the end of a word. -/
def finalSigma : Char := Char.ofNat 0x3C2

/-- The small sigma written everywhere else. -/
def smallSigma : Char := Char.ofNat 0x3C3

/-- The first character that case rules do not pass over is cased. -/
def startsCased (cs : List Char) : Bool :=
  match cs.dropWhile isCaseIgnorable with
  | c :: _ => isCased c
  | [] => false

/-- The small form of one character between the characters before it (nearest first) and the
characters after it. -/
def lowerAt (before : List Char) (c : Char) (after : List Char) : List Char :=
  if c = dottedCapitalI then ['i', dotAbove]
  else if c = capitalSigma then
    [if startsCased before && !startsCased after then finalSigma else smallSigma]
  else [simpleLower c]

/-- Lower-casing from the left, with the characters already passed nearest first. -/
def lowerFrom (before : List Char) : List Char → List Char
  | [] => []
  | c :: cs => lowerAt before c cs ++ lowerFrom (c :: before) cs

def lower (cs : List Char) : List Char :=
  lowerFrom [] cs

end Text
end RecordRules
