/-!
# RecordRules.Text.Blank

Blank characters: the Unicode property White_Space. A text is blank when it holds nothing else;
trimming drops blank characters from both ends and touches nothing between them.

Like the other character classes of the library, the blank characters are tabulated as closed
ranges of code points.
-/

namespace RecordRules
namespace Text

/-- A character is in a table when one of the closed ranges holds its code point. -/
def inRanges (ranges : List (Nat × Nat)) (c : Char) : Bool :=
  ranges.any fun r => decide (r.1 ≤ c.toNat) && decide (c.toNat ≤ r.2)

/-- A character is in a strided table when one of the runs `(first, last, step)` meets its code
point exactly. -/
def inRuns (runs : List (Nat × Nat × Nat)) (c : Char) : Bool :=
  runs.any fun r =>
    decide (r.1 ≤ c.toNat) && decide (c.toNat ≤ r.2.1) && (c.toNat - r.1) % r.2.2 == 0

def blankRanges : List (Nat × Nat) :=
  [
    (0x9, 0xD), (0x20, 0x20), (0x85, 0x85), (0xA0, 0xA0), (0x1680, 0x1680), (0x2000, 0x200A),
    (0x2028, 0x2029), (0x202F, 0x202F), (0x205F, 0x205F), (0x3000, 0x3000)]

/-- Unicode White_Space. -/
def isBlank (c : Char) : Bool :=
  inRanges blankRanges c

def trimStart (cs : List Char) : List Char :=
  cs.dropWhile isBlank

def trimEnd (cs : List Char) : List Char :=
  (cs.reverse.dropWhile isBlank).reverse

def trim (cs : List Char) : List Char :=
  trimEnd (trimStart cs)

/-- Nothing but blank characters, or nothing at all. -/
def allBlank (cs : List Char) : Bool :=
  cs.all isBlank

end Text
end RecordRules
