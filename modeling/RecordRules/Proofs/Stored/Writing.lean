import RecordRules.Proofs.Stored.Brackets
import RecordRules.Proofs.Stored.Part
import RecordRules.Proofs.Text.Search
import RecordRules.Stored.Reading

/-!
# RecordRules.Proofs.Stored.Writing

The text that is written for a rule. It starts and ends with a bracket, so where no marker is in it
it is its own rule text (`body_write`). Escaping is undone by the reading where there was no tilde
before (`unescape_escape`), and leaves all characters but spaces and tildes where they are. The
brackets of a condition are those of its field and its texts (`brackets_conditionText`).
-/

namespace RecordRules

namespace Operator

theorem toList_token (op : Operator) : op.token.toList = '_' :: op.suffix.toList := by
  rw [token, String.toList_append]
  rfl

/-- Suffixes are words, free of the characters that structure a stored rule. -/
theorem suffix_plain (op : Operator) :
    '_' ∉ op.suffix.toList ∧ '[' ∉ op.suffix.toList ∧ ']' ∉ op.suffix.toList := by
  cases op <;> decide

theorem suffix_inj {op op' : Operator} (h : op.suffix = op'.suffix) : op = op' := by
  have ht := ofToken?_token op
  rw [token, h, ← token, ofToken?_token] at ht
  exact (Option.some.inj ht).symm

end Operator

namespace Stored

theorem unescape_escape {cs : List Char} (h : '~' ∉ cs) : unescape (escape cs) = cs :=
  Text.substitute_substitute h

theorem mem_escape_iff {c : Char} {cs : List Char} (hs : c ≠ ' ') (ht : c ≠ '~') :
    c ∈ escape cs ↔ c ∈ cs :=
  Text.mem_substitute_iff hs ht

/-- Apart from the bars between items, the characters of a constant's text are those of its
texts. -/
theorem mem_constantText {c : Char} {v : Constant} (hbar : c ≠ '|') (h : c ∈ constantText v) :
    ∃ t ∈ v.texts, c ∈ t := by
  cases v with
  | single s => exact ⟨_, List.mem_singleton.mpr rfl, h⟩
  | pattern p => exact ⟨_, List.mem_singleton.mpr rfl, h⟩
  | array items => exact (Text.mem_joined h).resolve_left hbar

theorem not_mem_escape_constantText {v : Constant} (h : ∀ t ∈ v.texts, '_' ∉ t) :
    '_' ∉ escape (constantText v) := by
  intro hu
  obtain ⟨t, ht, hut⟩ :=
    mem_constantText (by decide) ((mem_escape_iff (by decide) (by decide)).mp hu)
  exact h t ht hut

/-! ## Brackets -/

theorem brackets_substitute {old new : Char} (ho : old ≠ '[' ∧ old ≠ ']')
    (hn : new ≠ '[' ∧ new ≠ ']') (cs : List Char) :
    brackets (Text.substitute old new cs) = brackets cs := by
  induction cs with
  | nil => rfl
  | cons c cs ih =>
    rw [Text.substitute_cons]
    split
    · rename_i h
      rw [brackets_cons_plain hn.1 hn.2, ih, h, brackets_cons_plain ho.1 ho.2]
    · rw [← List.singleton_append, brackets_append, ih, ← brackets_append, List.singleton_append]

theorem brackets_escape (cs : List Char) : brackets (escape cs) = brackets cs :=
  brackets_substitute (by decide) (by decide) cs

theorem brackets_unescape (cs : List Char) : brackets (unescape cs) = brackets cs :=
  brackets_substitute (by decide) (by decide) cs

theorem brackets_joined (ps : List (List Char)) :
    brackets (Text.joined '|' ps) = ps.flatMap brackets := by
  induction ps with
  | nil => rfl
  | cons p ps ih =>
    cases ps with
    | nil => rw [Text.joined_singleton, List.flatMap_singleton]
    | cons q ps =>
      rw [Text.joined_cons_cons, brackets_append, brackets_cons_plain (by decide) (by decide), ih]
      rfl

theorem brackets_constantText (v : Constant) :
    brackets (constantText v) = v.texts.flatMap brackets := by
  cases v with
  | single s => rw [constantText, Constant.texts, List.flatMap_singleton]
  | array items => exact brackets_joined _
  | pattern p => rw [constantText, Constant.texts, List.flatMap_singleton]

/-- Of three parts the middle one, a suffix, has no brackets. -/
theorem brackets_parts (field : List Char) (op : Operator) (raw : List Char) :
    brackets (field ++ '_' :: (op.suffix.toList ++ '_' :: raw)) =
      brackets field ++ brackets raw := by
  have hu : ∀ cs, brackets ('_' :: cs) = brackets cs := brackets_cons_plain (by decide) (by decide)
  rw [brackets_append, hu, brackets_append, hu, brackets_eq_nil_iff.mpr op.suffix_plain.2]
  rfl

theorem brackets_conditionText (c : Condition) :
    brackets (conditionText c) = brackets c.field.toList ++ c.value.texts.flatMap brackets := by
  rw [conditionText, brackets_parts, brackets_escape, brackets_constantText]

/-! ## Texts of rules -/

theorem balanced_token (op : Operator) : Balanced op.token.toList := by
  obtain ⟨-, ho, hc⟩ := op.suffix_plain
  rw [Operator.toList_token]
  exact .plain (by decide) (by decide) (.of_not_mem ho hc)

theorem write_starts (r : Rule) : ∃ rest, write r = '[' :: '_' :: rest := by
  rw [write, groupsOf_eq, parts_eq_cons, List.map_cons, List.flatMap_cons, bracketed_append,
    Part.text, Operator.toList_token]
  exact ⟨_, rfl⟩

theorem write_ends (r : Rule) : ∃ before, write r = before ++ [']'] := by
  have hlast : ∀ (g : List Char) (gs : List (List Char)),
      ∃ before, (g :: gs).flatMap bracketed = before ++ [']'] := by
    intro g gs
    induction gs generalizing g with
    | nil => exact ⟨'[' :: g, by simp [bracketed]⟩
    | cons g' gs ih =>
      obtain ⟨before, e⟩ := ih g'
      exact ⟨bracketed g ++ before, by rw [List.flatMap_cons, e, List.append_assoc]⟩
  rw [write, groupsOf_eq, parts_eq_cons, List.map_cons]
  exact hlast _ _

theorem body_write {f : StoredFormat} {r : Rule} (hm : ¬f.marker.toList <:+: write r) :
    body f (write r) = write r := by
  obtain ⟨rest, hs⟩ := write_starts r
  obtain ⟨before, he⟩ := write_ends r
  rw [body, Text.afterFirst?_eq_none hm, Option.getD_none]
  exact Text.trim_eq_self hs (by decide) he (by decide)

theorem laid_write {r : Rule} (h : ∀ g ∈ groupsOf r, Balanced g) :
    Laid (groupsOf r) (write r) := by
  refine laid_flatMap_bracketed ?_ h
  rw [groupsOf_eq, parts_eq_cons]
  simp

end Stored
end RecordRules
