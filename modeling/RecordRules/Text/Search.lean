/-!
# RecordRules.Text.Search

Finding and cutting in texts, as functions on lists of characters: the rest after a leading text,
the rest after the first occurrence of a text, occurrence itself, and the pieces between
separators. An empty text occurs everywhere, first at the start.
-/

namespace RecordRules
namespace Text

/-- The rest of a text that starts with `lead`. -/
def stripLead? : (lead text : List Char) → Option (List Char)
  | [], text => some text
  | _ :: _, [] => none
  | p :: lead, c :: text => if p = c then stripLead? lead text else none

/-- The rest after the first occurrence of `mark`. -/
def afterFirst? (mark : List Char) : (text : List Char) → Option (List Char)
  | [] => stripLead? mark []
  | c :: text =>
    match stripLead? mark (c :: text) with
    | some rest => some rest
    | none => afterFirst? mark text

/-- `part` occurs in the text as a run of neighbouring characters. -/
def occursIn (part text : List Char) : Bool :=
  (afterFirst? part text).isSome

/-- The pieces between occurrences of `sep`: one more than there are separators. -/
def pieces (sep : Char) : List Char → List (List Char)
  | [] => [[]]
  | c :: cs =>
    if c = sep then [] :: pieces sep cs
    else
      match pieces sep cs with
      | [] => [[c]]
      | p :: ps => (c :: p) :: ps

/-- Texts joined with `sep` between neighbours. -/
def joined (sep : Char) (parts : List (List Char)) : List Char :=
  [sep].intercalate parts

/-- Every occurrence of one character replaced by another. -/
def substitute (old new : Char) (cs : List Char) : List Char :=
  cs.map fun c => if c = old then new else c

/-- The length of a text in UTF-8 bytes. -/
def byteLength : List Char → Nat
  | [] => 0
  | c :: cs => c.utf8Size + byteLength cs

theorem pieces_ne_nil (sep : Char) (cs : List Char) : pieces sep cs ≠ [] := by
  cases cs with
  | nil => simp [pieces]
  | cons c cs =>
    simp only [pieces]
    split
    · simp
    · split <;> simp

theorem stripLead?_append (lead rest : List Char) : stripLead? lead (lead ++ rest) = some rest := by
  induction lead with
  | nil => rfl
  | cons p lead ih => simp [stripLead?, ih]

theorem eq_append_of_stripLead? {lead text rest : List Char}
    (h : stripLead? lead text = some rest) : text = lead ++ rest := by
  induction lead generalizing text with
  | nil => simp only [stripLead?, Option.some.injEq] at h; simp [h]
  | cons p lead ih =>
    cases text with
    | nil => simp [stripLead?] at h
    | cons c text =>
      simp only [stripLead?] at h
      split at h
      · rename_i hc; simp [hc, ih h]
      · cases h

end Text
end RecordRules
