import RecordRules.Text.Search

/-!
# RecordRules.Proofs.Text.Search

Laws of cutting and finding. `Text.pieces` and `Text.joined` undo each other on parts that do not
hold the separator (`pieces_joined`, `joined_pieces`); a substitution is undone by the opposite
one where the new character was not there before; and `Text.afterFirst?` gives what stands behind
the first occurrence (`afterFirst?_eq_some_iff`), and nothing exactly where there is none
(`occursIn_iff`). A separator keeps the occurrences of what it is not in on one of its sides
(`infix_append_cons_iff`).
-/

namespace RecordRules
namespace Text

/-! ## Pieces -/

theorem pieces_of_not_mem {sep : Char} {p : List Char} (h : sep ∉ p) : pieces sep p = [p] := by
  induction p with
  | nil => rfl
  | cons c cs ih =>
    have hc : c ≠ sep := fun e => h (by simp [e])
    have hcs : sep ∉ cs := fun e => h (by simp [e])
    simp only [pieces, if_neg hc, ih hcs]

theorem pieces_append_cons {sep : Char} {p : List Char} (h : sep ∉ p) (rest : List Char) :
    pieces sep (p ++ sep :: rest) = p :: pieces sep rest := by
  induction p with
  | nil => simp [pieces]
  | cons c cs ih =>
    have hc : c ≠ sep := fun e => h (by simp [e])
    have hcs : sep ∉ cs := fun e => h (by simp [e])
    simp only [List.cons_append, pieces, if_neg hc, ih hcs]

theorem joined_cons_cons (sep : Char) (p q : List Char) (ps : List (List Char)) :
    joined sep (p :: q :: ps) = p ++ sep :: joined sep (q :: ps) := by
  simp [joined]

theorem joined_singleton (sep : Char) (p : List Char) : joined sep [p] = p :=
  List.intercalate_singleton

theorem joined_nil (sep : Char) : joined sep [] = [] :=
  List.intercalate_nil

theorem pieces_joined {sep : Char} {ps : List (List Char)} (hne : ps ≠ [])
    (h : ∀ p ∈ ps, sep ∉ p) : pieces sep (joined sep ps) = ps := by
  induction ps with
  | nil => exact absurd rfl hne
  | cons p ps ih =>
    cases ps with
    | nil => rw [joined_singleton, pieces_of_not_mem (h p (by simp))]
    | cons q ps =>
      have hrest : ∀ r ∈ q :: ps, sep ∉ r := fun r hr => h r (List.mem_cons_of_mem _ hr)
      rw [joined_cons_cons, pieces_append_cons (h p (by simp)), ih (by simp) hrest]

theorem joined_pieces (sep : Char) (cs : List Char) : joined sep (pieces sep cs) = cs := by
  induction cs with
  | nil => simp [pieces, joined_singleton]
  | cons c cs ih =>
    simp only [pieces]
    split
    · rename_i hc
      cases hp : pieces sep cs with
      | nil => exact absurd hp (pieces_ne_nil sep cs)
      | cons p ps =>
        rw [joined_cons_cons, ← hp, ih, hc]
        rfl
    · cases hp : pieces sep cs with
      | nil => exact absurd hp (pieces_ne_nil sep cs)
      | cons p ps =>
        rw [hp] at ih
        cases ps with
        | nil => rw [joined_singleton] at ih ⊢; rw [ih]
        | cons q ps => rw [joined_cons_cons] at ih ⊢; rw [List.cons_append, ih]

theorem not_mem_of_mem_pieces {sep : Char} {cs p : List Char} (h : p ∈ pieces sep cs) :
    sep ∉ p := by
  induction cs generalizing p with
  | nil =>
    simp only [pieces, List.mem_singleton] at h
    simp [h]
  | cons c cs ih =>
    simp only [pieces] at h
    split at h
    · rcases List.mem_cons.mp h with rfl | h
      · simp
      · exact ih h
    · rename_i hc
      cases hp : pieces sep cs with
      | nil => exact absurd hp (pieces_ne_nil sep cs)
      | cons q qs =>
        rw [hp] at h ih
        rcases List.mem_cons.mp h with rfl | h
        · have hq := ih List.mem_cons_self
          intro hm
          rcases List.mem_cons.mp hm with e | e
          · exact hc e.symm
          · exact hq e
        · exact ih (List.mem_cons_of_mem _ h)

/-- One piece more than there are separators. -/
theorem length_pieces (sep : Char) (cs : List Char) :
    (pieces sep cs).length = cs.count sep + 1 := by
  induction cs with
  | nil => rfl
  | cons c cs ih =>
    simp only [pieces]
    split
    · rename_i hc
      rw [List.length_cons, ih, hc, List.count_cons_self]
    · rename_i hc
      rw [List.count_cons_of_ne hc, ← ih]
      cases hp : pieces sep cs with
      | nil => exact absurd hp (pieces_ne_nil sep cs)
      | cons p ps => rfl

theorem mem_joined_of_mem {sep c : Char} {ps : List (List Char)} {p : List Char} (h : p ∈ ps)
    (hc : c ∈ p) : c ∈ joined sep ps := by
  induction ps with
  | nil => cases h
  | cons q ps ih =>
    cases ps with
    | nil =>
      rw [joined_singleton]
      rcases List.mem_cons.mp h with rfl | h
      · exact hc
      · cases h
    | cons r ps =>
      rw [joined_cons_cons]
      rcases List.mem_cons.mp h with rfl | h
      · simp [hc]
      · simp [ih h]

theorem mem_of_mem_pieces {sep c : Char} {cs p : List Char} (h : p ∈ pieces sep cs)
    (hc : c ∈ p) : c ∈ cs := by
  rw [← joined_pieces sep cs]
  exact mem_joined_of_mem h hc

theorem mem_joined {sep c : Char} {ps : List (List Char)} (h : c ∈ joined sep ps) :
    c = sep ∨ ∃ p ∈ ps, c ∈ p := by
  induction ps with
  | nil => rw [joined_nil] at h; cases h
  | cons p ps ih =>
    cases ps with
    | nil => rw [joined_singleton] at h; exact .inr ⟨p, by simp, h⟩
    | cons q ps =>
      rw [joined_cons_cons, List.mem_append, List.mem_cons] at h
      rcases h with h | h | h
      · exact .inr ⟨p, by simp, h⟩
      · exact .inl h
      · rcases ih h with h | ⟨r, hr, hc⟩
        · exact .inl h
        · exact .inr ⟨r, List.mem_cons_of_mem _ hr, hc⟩

/-- Nothing is joined to an empty text but no parts at all and one empty part. -/
theorem joined_eq_nil_iff {sep : Char} {ps : List (List Char)} :
    joined sep ps = [] ↔ ps = [] ∨ ps = [[]] := by
  constructor
  · intro h
    cases ps with
    | nil => exact .inl rfl
    | cons p ps =>
      cases ps with
      | nil => rw [joined_singleton] at h; exact .inr (by rw [h])
      | cons q ps => rw [joined_cons_cons] at h; simp at h
  · rintro (rfl | rfl)
    · exact joined_nil sep
    · exact joined_singleton sep []

/-! ## Substitution -/

@[simp] theorem substitute_nil (old new : Char) : substitute old new [] = [] := rfl

@[simp] theorem substitute_append (old new : Char) (cs ds : List Char) :
    substitute old new (cs ++ ds) = substitute old new cs ++ substitute old new ds :=
  List.map_append

theorem substitute_cons (old new c : Char) (cs : List Char) :
    substitute old new (c :: cs) = (if c = old then new else c) :: substitute old new cs := rfl

theorem substitute_eq_nil_iff {old new : Char} {cs : List Char} :
    substitute old new cs = [] ↔ cs = [] :=
  List.map_eq_nil_iff

/-- A character that plays no part in a substitution stays where it is. -/
theorem mem_substitute_iff {old new c : Char} {cs : List Char} (ho : c ≠ old) (hn : c ≠ new) :
    c ∈ substitute old new cs ↔ c ∈ cs := by
  induction cs with
  | nil => simp
  | cons d cs ih =>
    rw [substitute_cons, List.mem_cons, List.mem_cons, ih]
    by_cases hd : d = old
    · rw [if_pos hd]
      have : c ≠ d := fun e => ho (e.trans hd)
      simp [hn, this]
    · rw [if_neg hd]

theorem not_mem_substitute {old new : Char} (h : old ≠ new) (cs : List Char) :
    old ∉ substitute old new cs := by
  induction cs with
  | nil => simp
  | cons c cs ih =>
    rw [substitute_cons, List.mem_cons, not_or]
    refine ⟨?_, ih⟩
    split
    · exact h
    · rename_i hc; exact fun e => hc e.symm

/-- The opposite substitution undoes one whose new character was not there. -/
theorem substitute_substitute {old new : Char} {cs : List Char} (h : new ∉ cs) :
    substitute new old (substitute old new cs) = cs := by
  induction cs with
  | nil => rfl
  | cons c cs ih =>
    have hc : c ≠ new := fun e => h (by simp [e])
    have hcs : new ∉ cs := fun e => h (by simp [e])
    rw [substitute_cons, substitute_cons, ih hcs]
    by_cases ho : c = old
    · simp [ho]
    · simp [ho, hc]

theorem substitute_joined {old new sep : Char} (h : sep ≠ old) (ps : List (List Char)) :
    substitute old new (joined sep ps) = joined sep (ps.map (substitute old new)) := by
  induction ps with
  | nil => simp [joined_nil]
  | cons p ps ih =>
    cases ps with
    | nil => simp [joined_singleton]
    | cons q ps =>
      rw [joined_cons_cons, substitute_append, substitute_cons, if_neg h, ih]
      simp [joined_cons_cons]

/-! ## Occurrence -/

theorem stripLead?_eq_some_iff {lead text rest : List Char} :
    stripLead? lead text = some rest ↔ text = lead ++ rest :=
  ⟨eq_append_of_stripLead?, fun h => h ▸ stripLead?_append lead rest⟩

/-- `rest` stands behind the first occurrence of `mark`. -/
def BehindFirst (mark text rest : List Char) : Prop :=
  ∃ before, text = before ++ (mark ++ rest) ∧
    ∀ before' rest', text = before' ++ (mark ++ rest') → before.length ≤ before'.length

theorem behindFirst_of_stripLead? {mark text rest : List Char}
    (h : stripLead? mark text = some rest) : BehindFirst mark text rest :=
  ⟨[], (eq_append_of_stripLead? h).trans (List.nil_append _).symm, fun _ _ _ => Nat.zero_le _⟩

theorem behindFirst_of_afterFirst? {mark text rest : List Char}
    (h : afterFirst? mark text = some rest) : BehindFirst mark text rest := by
  induction text with
  | nil =>
    simp only [afterFirst?] at h
    exact behindFirst_of_stripLead? h
  | cons c text ih =>
    simp only [afterFirst?] at h
    split at h
    · rename_i rest' hs
      cases h
      exact behindFirst_of_stripLead? hs
    · rename_i hn
      obtain ⟨before, e, hfirst⟩ := ih h
      refine ⟨c :: before, by rw [e, List.cons_append], fun before' rest' e' => ?_⟩
      cases before' with
      | nil =>
        rw [List.nil_append] at e'
        rw [stripLead?_eq_some_iff.mpr e'] at hn
        cases hn
      | cons d before' => exact Nat.succ_le_succ (hfirst before' rest' (List.cons.inj e').2)

theorem BehindFirst.unique {mark text rest rest' : List Char} (h : BehindFirst mark text rest)
    (h' : BehindFirst mark text rest') : rest = rest' := by
  obtain ⟨before, e, hfirst⟩ := h
  obtain ⟨before', e', hfirst'⟩ := h'
  have hlen : before.length = before'.length :=
    Nat.le_antisymm (hfirst _ _ e') (hfirst' _ _ e)
  have he := (List.append_inj (e.symm.trans e') hlen).2
  exact List.append_cancel_left he

theorem afterFirst?_append (mark before rest : List Char) :
    (afterFirst? mark (before ++ (mark ++ rest))).isSome = true := by
  induction before with
  | nil =>
    rw [List.nil_append]
    cases hm : mark ++ rest with
    | nil =>
      rw [List.append_eq_nil_iff] at hm
      simp [afterFirst?, hm.1, stripLead?]
    | cons c text =>
      have hs : stripLead? mark (c :: text) = some rest := stripLead?_eq_some_iff.mpr hm.symm
      simp only [afterFirst?, hs, Option.isSome_some]
  | cons c before ih =>
    simp only [List.cons_append, afterFirst?]
    split
    · rfl
    · exact ih

theorem afterFirst?_eq_some_iff {mark text rest : List Char} :
    afterFirst? mark text = some rest ↔ BehindFirst mark text rest := by
  refine ⟨behindFirst_of_afterFirst?, fun h => ?_⟩
  have ⟨before, e, _⟩ := h
  obtain ⟨rest', hr⟩ := Option.isSome_iff_exists.mp (afterFirst?_append mark before rest)
  rw [← e] at hr
  rw [hr, h.unique (behindFirst_of_afterFirst? hr)]

theorem occursIn_iff {part text : List Char} : occursIn part text = true ↔ part <:+: text := by
  constructor
  · intro h
    obtain ⟨rest, hr⟩ := Option.isSome_iff_exists.mp h
    obtain ⟨before, e, -⟩ := afterFirst?_eq_some_iff.mp hr
    exact ⟨before, rest, by rw [e, List.append_assoc]⟩
  · rintro ⟨before, rest, e⟩
    rw [occursIn, ← e, List.append_assoc]
    exact afterFirst?_append part before rest

theorem afterFirst?_eq_none {mark text : List Char} (h : ¬mark <:+: text) :
    afterFirst? mark text = none := by
  cases ha : afterFirst? mark text with
  | none => rfl
  | some rest => exact absurd (occursIn_iff.mp (by rw [occursIn, ha]; rfl)) h

/-- A separator that is not in a part keeps its occurrences on one side. -/
theorem infix_append_cons_iff {part before after : List Char} {sep : Char} (h : sep ∉ part) :
    part <:+: before ++ sep :: after ↔ part <:+: before ∨ part <:+: after := by
  constructor
  · rintro ⟨lead, rest, e⟩
    rw [List.append_assoc] at e
    rcases List.append_eq_append_iff.mp e with ⟨cut, rfl, hcut⟩ | ⟨cut, -, hcut⟩
    · rcases List.append_eq_append_iff.mp hcut with ⟨more, rfl, -⟩ | ⟨more, hpart, hmore⟩
      · exact .inl ⟨lead, more, List.append_assoc ..⟩
      · cases more with
        | nil => exact .inl ⟨lead, [], by rw [hpart, List.append_nil, List.append_nil]⟩
        | cons c more =>
          rw [hpart, (List.cons.inj hmore).1] at h
          exact absurd (by simp) h
    · cases cut with
      | nil =>
        cases part with
        | nil => exact .inl List.nil_infix
        | cons c part =>
          rw [(List.cons.inj hcut).1] at h
          exact absurd List.mem_cons_self h
      | cons c cut =>
        rw [List.cons_append] at hcut
        exact .inr ⟨cut, rest, by rw [(List.cons.inj hcut).2, List.append_assoc]⟩
  · rintro (hin | hin)
    · exact hin.trans (List.prefix_append ..).isInfix
    · exact hin.trans ((List.suffix_cons ..).trans (List.suffix_append ..)).isInfix

theorem infix_cons_sep_iff {part after : List Char} {sep : Char} (h : sep ∉ part)
    (hne : part ≠ []) : part <:+: sep :: after ↔ part <:+: after := by
  have hside := @infix_append_cons_iff part [] after sep h
  rwa [List.nil_append, List.infix_nil, or_iff_right hne] at hside

end Text
end RecordRules
