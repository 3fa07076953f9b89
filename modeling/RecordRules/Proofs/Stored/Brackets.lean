import RecordRules.Proofs.Text.Blank
import RecordRules.Stored.Format
import RecordRules.Stored.Groups

/-!
# RecordRules.Proofs.Stored.Brackets

What `groups` accepts. `Balanced` says which texts may stand in a group, `Grouped` that a text is a
run of such groups with blank characters before, between and after them, and `Laid` the same for a
text that starts and ends with a group.

* `groups_eq_ok_iff`: the reader of groups accepts exactly the grouped texts, and gives the
  contents of their groups. So a text is grouped in one way at most (`Grouped.unique`).
* `grouped_iff_laid_trim`: blanks around the text aside, grouped texts are laid texts.
-/

namespace RecordRules
namespace Stored

/-- Every bracket that opens is closed again, and none is closed that was not opened. -/
inductive Balanced : List Char → Prop where
  | nil : Balanced []
  | plain {c : Char} {cs : List Char} (ho : c ≠ '[') (hc : c ≠ ']') (h : Balanced cs) :
      Balanced (c :: cs)
  | nest {cs ds : List Char} (h : Balanced cs) (h' : Balanced ds) : Balanced (bracketed cs ++ ds)

/-- A run of groups with the given contents, and blank characters around each. -/
inductive Grouped : List (List Char) → List Char → Prop where
  | nil {w : List Char} (hw : Text.allBlank w = true) : Grouped [] w
  | cons {w g cs : List Char} {gs : List (List Char)} (hw : Text.allBlank w = true)
      (hg : Balanced g) (h : Grouped gs cs) : Grouped (g :: gs) (w ++ (bracketed g ++ cs))

/-- A run of one group or more, with blank characters only between two of them. -/
inductive Laid : List (List Char) → List Char → Prop where
  | single {g : List Char} (hg : Balanced g) : Laid [g] (bracketed g)
  | cons {g w cs : List Char} {gs : List (List Char)} (hg : Balanced g)
      (hw : Text.allBlank w = true) (h : Laid gs cs) : Laid (g :: gs) (bracketed g ++ (w ++ cs))

theorem bracketed_append (cs ds : List Char) : bracketed cs ++ ds = '[' :: (cs ++ ']' :: ds) := by
  simp [bracketed]

namespace Balanced

theorem append {cs ds : List Char} (h : Balanced cs) (h' : Balanced ds) : Balanced (cs ++ ds) := by
  induction h with
  | nil => exact h'
  | plain ho hc _ ih => exact .plain ho hc ih
  | nest hcs _ _ ih => rw [List.append_assoc]; exact .nest hcs ih

theorem of_not_mem {cs : List Char} (ho : '[' ∉ cs) (hc : ']' ∉ cs) : Balanced cs := by
  induction cs with
  | nil => exact .nil
  | cons c cs ih =>
    refine .plain (fun e => ho (by simp [e])) (fun e => hc (by simp [e])) (ih ?_ ?_)
    · exact fun e => ho (by simp [e])
    · exact fun e => hc (by simp [e])

end Balanced

def brackets (cs : List Char) : List Char :=
  cs.filter fun c => c == '[' || c == ']'

theorem brackets_append (cs ds : List Char) : brackets (cs ++ ds) = brackets cs ++ brackets ds :=
  List.filter_append cs ds

theorem brackets_cons_plain {c : Char} (ho : c ≠ '[') (hc : c ≠ ']') (cs : List Char) :
    brackets (c :: cs) = brackets cs := by
  simp [brackets, ho, hc]

theorem brackets_eq_nil_iff {cs : List Char} : brackets cs = [] ↔ '[' ∉ cs ∧ ']' ∉ cs := by
  simp only [brackets, List.filter_eq_nil_iff, Bool.or_eq_true, beq_iff_eq, not_or]
  constructor
  · intro h
    exact ⟨fun hm => (h _ hm).1 rfl, fun hm => (h _ hm).2 rfl⟩
  · rintro ⟨ho, hc⟩ c hm
    exact ⟨fun e => ho (e ▸ hm), fun e => hc (e ▸ hm)⟩

theorem brackets_bracketed (cs : List Char) :
    brackets (bracketed cs) = '[' :: (brackets cs ++ [']']) := by
  simp [brackets, bracketed]

/-- Only its brackets decide whether a text balances. -/
theorem Balanced.of_brackets_eq {cs : List Char} (h : Balanced cs) :
    ∀ {ds : List Char}, brackets ds = brackets cs → Balanced ds := by
  induction h with
  | nil =>
    intro ds e
    obtain ⟨ho, hc⟩ := brackets_eq_nil_iff.mp e
    exact .of_not_mem ho hc
  | plain ho hc _ ih =>
    intro ds e
    rw [brackets_cons_plain ho hc] at e
    exact ih e
  | @nest as bs _ _ ih ih' =>
    intro ds e
    rw [brackets_append, brackets_bracketed, List.cons_append, List.append_assoc,
      List.singleton_append] at e
    -- the text up to the bracket that opens, up to the one that closes it, and behind it
    obtain ⟨before, rest, rfl, hbefore, -, hrest⟩ := List.filter_eq_cons_iff.mp e
    obtain ⟨inner, rest, rfl, hinner, hclose⟩ := List.filter_eq_append_iff.mp hrest
    obtain ⟨inner', after, rfl, hinner', -, hafter⟩ := List.filter_eq_cons_iff.mp hclose
    have hplain : ∀ {w : List Char}, (∀ c ∈ w, ¬(c == '[' || c == ']') = true) →
        brackets w = [] := fun h => List.filter_eq_nil_iff.mpr h
    obtain ⟨ho, hc⟩ := brackets_eq_nil_iff.mp (hplain hbefore)
    have hnest : Balanced (inner ++ inner') := by
      refine ih ?_
      rw [brackets_append, hplain hinner', List.append_nil]
      exact hinner
    have := (Balanced.of_not_mem ho hc).append (.nest hnest (ih' hafter))
    rwa [bracketed_append, List.append_assoc] at this

/-! ## Reading what is balanced -/

theorem byteLength_append (cs ds : List Char) :
    Text.byteLength (cs ++ ds) = Text.byteLength cs + Text.byteLength ds := by
  induction cs with
  | nil => simp [Text.byteLength]
  | cons c cs ih => rw [List.cons_append, Text.byteLength, ih, Text.byteLength, Nat.add_assoc]

section Inside

variable (depth : Nat) (content : List Char) (position : Nat) (cs : List Char)

theorem groupsFrom_inside_open :
    groupsFrom (.inside depth content) position ('[' :: cs) =
      groupsFrom (.inside (depth + 1) ('[' :: content)) (position + '['.utf8Size) cs := by
  cases depth <;> simp [groupsFrom]

theorem groupsFrom_inside_close :
    groupsFrom (.inside (depth + 1) content) position (']' :: cs) =
      groupsFrom (.inside depth (']' :: content)) (position + ']'.utf8Size) cs := by
  simp [groupsFrom]

theorem groupsFrom_inside_plain {c : Char} (ho : c ≠ '[') (hc : c ≠ ']') :
    groupsFrom (.inside depth content) position (c :: cs) =
      groupsFrom (.inside depth (c :: content)) (position + c.utf8Size) cs := by
  cases depth <;> simp [groupsFrom, ho, hc]

theorem groupsFrom_inside_end :
    groupsFrom (.inside 0 content) position (']' :: cs) =
      (groupsFrom .outside (position + ']'.utf8Size) cs).map (content.reverse :: ·) := by
  rw [groupsFrom, if_neg (by decide), if_pos rfl]
  cases groupsFrom .outside (position + ']'.utf8Size) cs <;> rfl

end Inside

/-- Inside a group a balanced text goes into the content and leaves the depth as it was. -/
theorem groupsFrom_inside_append {ds : List Char} (h : Balanced ds) :
    ∀ (depth : Nat) (content : List Char) (position : Nat) (cs : List Char),
      groupsFrom (.inside depth content) position (ds ++ cs) =
        groupsFrom (.inside depth (ds.reverse ++ content)) (position + Text.byteLength ds) cs := by
  induction h with
  | nil => intro depth content position cs; rfl
  | @plain c ds ho hc _ ih =>
    intro depth content position cs
    rw [List.cons_append, groupsFrom_inside_plain _ _ _ _ ho hc, ih, Text.byteLength,
      Nat.add_assoc]
    simp
  | @nest ds es _ _ ih ih' =>
    intro depth content position cs
    rw [List.append_assoc, bracketed_append, groupsFrom_inside_open, ih, groupsFrom_inside_close,
      ih', bracketed_append]
    simp [byteLength_append, Text.byteLength, Nat.add_assoc]

theorem groupsFrom_bracketed_append {g : List Char} (h : Balanced g) (position : Nat)
    (cs : List Char) :
    groupsFrom .outside position (bracketed g ++ cs) =
      (groupsFrom .outside (position + Text.byteLength (bracketed g)) cs).map (g :: ·) := by
  have hl : position + '['.utf8Size + Text.byteLength g + ']'.utf8Size =
      position + Text.byteLength (bracketed g) := by
    simp [bracketed, byteLength_append, Text.byteLength, Nat.add_assoc]
  rw [bracketed_append, groupsFrom, if_pos rfl, groupsFrom_inside_append h,
    groupsFrom_inside_end, hl, List.append_nil, List.reverse_reverse]

theorem not_bracket_of_isBlank {c : Char} (h : Text.isBlank c = true) : c ≠ '[' ∧ c ≠ ']' := by
  constructor
  · rintro rfl
    exact absurd h (by decide)
  · rintro rfl
    exact absurd h (by decide)

/-- Between groups blank characters are passed over. -/
theorem groupsFrom_blank_append {w : List Char} (h : Text.allBlank w = true) :
    ∀ (position : Nat) (cs : List Char),
      groupsFrom .outside position (w ++ cs) =
        groupsFrom .outside (position + Text.byteLength w) cs := by
  induction w with
  | nil => intro position cs; rfl
  | cons c w ih =>
    intro position cs
    simp only [Text.allBlank, List.all_cons, Bool.and_eq_true] at h
    obtain ⟨ho, hc⟩ := not_bracket_of_isBlank h.1
    rw [List.cons_append, groupsFrom, if_neg ho, if_neg hc, if_pos h.1, ih h.2, Text.byteLength,
      Nat.add_assoc]

theorem groupsFrom_of_grouped {gs : List (List Char)} {cs : List Char} (h : Grouped gs cs) :
    ∀ position, groupsFrom .outside position cs = .ok gs := by
  induction h with
  | @nil w hw =>
    intro position
    have := groupsFrom_blank_append hw position []
    rw [List.append_nil] at this
    rw [this]
    rfl
  | cons hw hg _ ih =>
    intro position
    rw [groupsFrom_blank_append hw, groupsFrom_bracketed_append hg, ih]
    rfl

/-! ## What was read is balanced -/

/-- What closes `depth` open brackets on its way to the end of a group: that many balanced texts,
each with a closing bracket behind it, and one more balanced text. -/
def Unwinds : Nat → List Char → Prop
  | 0, cs => Balanced cs
  | depth + 1, cs => ∃ ds es, cs = ds ++ ']' :: es ∧ Balanced ds ∧ Unwinds depth es

namespace Unwinds

theorem plain {c : Char} {cs : List Char} {depth : Nat} (ho : c ≠ '[') (hc : c ≠ ']')
    (h : Unwinds depth cs) : Unwinds depth (c :: cs) := by
  cases depth with
  | zero => exact Balanced.plain ho hc h
  | succ depth =>
    obtain ⟨ds, es, rfl, hd, he⟩ := h
    exact ⟨c :: ds, es, rfl, .plain ho hc hd, he⟩

theorem opened {cs : List Char} {depth : Nat} (h : Unwinds (depth + 1) cs) :
    Unwinds depth ('[' :: cs) := by
  obtain ⟨ds, es, rfl, hd, he⟩ := h
  rw [← bracketed_append]
  cases depth with
  | zero => exact Balanced.nest hd he
  | succ depth =>
    obtain ⟨ds', es', rfl, hd', he'⟩ := he
    exact ⟨bracketed ds ++ ds', es', by rw [List.append_assoc], .nest hd hd', he'⟩

theorem closed {cs : List Char} {depth : Nat} (h : Unwinds depth cs) :
    Unwinds (depth + 1) (']' :: cs) :=
  ⟨[], cs, rfl, .nil, h⟩

end Unwinds

/-- A reading that starts inside a group and succeeds goes on to the end of that group, and from
there between groups. -/
theorem groupsFrom_inside_ok (cs : List Char) :
    ∀ (depth : Nat) (content : List Char) (position : Nat) (gs : List (List Char)),
      groupsFrom (.inside depth content) position cs = .ok gs →
      ∃ ds rest position' gs', cs = ds ++ ']' :: rest ∧ Unwinds depth ds ∧
        groupsFrom .outside position' rest = .ok gs' ∧ gs = (content.reverse ++ ds) :: gs' := by
  induction cs with
  | nil => intro depth content position gs h; simp [groupsFrom] at h
  | cons c cs ih =>
    intro depth content position gs h
    by_cases ho : c = '['
    · rw [ho, groupsFrom_inside_open] at h
      obtain ⟨ds, rest, p, gs', rfl, hu, hr, rfl⟩ := ih _ _ _ _ h
      exact ⟨c :: ds, rest, p, gs', rfl, by rw [ho]; exact hu.opened, hr, by simp [ho]⟩
    · by_cases hc : c = ']'
      · rw [hc] at h ⊢
        cases depth with
        | zero =>
          rw [groupsFrom_inside_end] at h
          cases hr : groupsFrom .outside (position + ']'.utf8Size) cs with
          | error e => rw [hr] at h; cases h
          | ok gs' =>
            rw [hr] at h
            cases h
            exact ⟨[], cs, _, gs', rfl, .nil, hr, by simp⟩
        | succ depth =>
          rw [groupsFrom_inside_close] at h
          obtain ⟨ds, rest, p, gs', rfl, hu, hr, rfl⟩ := ih _ _ _ _ h
          exact ⟨']' :: ds, rest, p, gs', rfl, hu.closed, hr, by simp⟩
      · rw [groupsFrom_inside_plain _ _ _ _ ho hc] at h
        obtain ⟨ds, rest, p, gs', rfl, hu, hr, rfl⟩ := ih _ _ _ _ h
        exact ⟨c :: ds, rest, p, gs', rfl, hu.plain ho hc, hr, by simp⟩

theorem Grouped.blank_append {w cs : List Char} {gs : List (List Char)}
    (hw : Text.allBlank w = true) (h : Grouped gs cs) : Grouped gs (w ++ cs) := by
  have hall : ∀ v, Text.allBlank v = true → Text.allBlank (w ++ v) = true := fun v hv => by
    rw [Text.allBlank, List.all_append, Bool.and_eq_true]
    exact ⟨hw, hv⟩
  cases h with
  | nil hv => exact .nil (hall _ hv)
  | cons hv hg h => rw [← List.append_assoc]; exact .cons (hall _ hv) hg h

/-- By induction on the length of the text, since one step between groups may read a whole
group. -/
theorem grouped_of_groupsFrom :
    ∀ (n : Nat) (cs : List Char) (position : Nat) (gs : List (List Char)), cs.length ≤ n →
      groupsFrom .outside position cs = .ok gs → Grouped gs cs := by
  intro n
  induction n with
  | zero =>
    intro cs position gs hn h
    rw [List.length_eq_zero_iff.mp (Nat.le_zero.mp hn)] at h ⊢
    cases h
    exact .nil rfl
  | succ n ih =>
    intro cs position gs hn h
    cases cs with
    | nil => cases h; exact .nil rfl
    | cons c cs =>
      have hlen : cs.length ≤ n := by simpa using hn
      rw [groupsFrom] at h
      split at h
      · rename_i hc
        obtain ⟨ds, rest, p, gs', rfl, hu, hr, rfl⟩ := groupsFrom_inside_ok _ _ _ _ _ h
        have hrest : rest.length ≤ n := by simp at hlen; omega
        have := Grouped.cons (w := []) rfl hu (ih rest p gs' hrest hr)
        rw [List.nil_append, bracketed_append] at this
        rw [hc]
        exact this
      · split at h
        · cases h
        · split at h
          · rename_i hb
            refine Grouped.blank_append (w := [c]) ?_ (ih cs _ gs hlen h)
            rw [Text.allBlank, List.all_cons, hb]
            rfl
          · cases h

/-- **The reader of groups accepts exactly the grouped texts.** -/
theorem groups_eq_ok_iff {cs : List Char} {gs : List (List Char)} :
    groups cs = .ok gs ↔ Grouped gs cs :=
  ⟨fun h => grouped_of_groupsFrom cs.length cs 0 gs (Nat.le_refl _) h,
    fun h => groupsFrom_of_grouped h 0⟩

theorem Grouped.unique {cs : List Char} {gs gs' : List (List Char)} (h : Grouped gs cs)
    (h' : Grouped gs' cs) : gs = gs' := by
  have e := groups_eq_ok_iff.mpr h
  rw [groups_eq_ok_iff.mpr h'] at e
  exact (Except.ok.inj e).symm

/-! ## Without the blanks around it -/

namespace Laid

theorem starts {gs : List (List Char)} {cs : List Char} (h : Laid gs cs) :
    ∃ rest, cs = '[' :: rest := by
  cases h with
  | single _ => exact ⟨_, rfl⟩
  | cons _ _ _ => exact ⟨_, bracketed_append _ _⟩

theorem ends {gs : List (List Char)} {cs : List Char} (h : Laid gs cs) :
    ∃ before, cs = before ++ [']'] := by
  induction h with
  | @single g _ => exact ⟨'[' :: g, rfl⟩
  | @cons g w cs gs _ _ _ ih =>
    obtain ⟨before, rfl⟩ := ih
    exact ⟨bracketed g ++ (w ++ before), by simp⟩

theorem ne_nil {gs : List (List Char)} {cs : List Char} (h : Laid gs cs) : gs ≠ [] := by
  cases h with
  | single _ => simp
  | cons _ _ _ => simp

theorem balanced {gs : List (List Char)} {cs : List Char} (h : Laid gs cs) :
    ∀ g ∈ gs, Balanced g := by
  induction h with
  | single hg => exact List.forall_mem_singleton.mpr hg
  | cons hg _ _ ih => exact List.forall_mem_cons.mpr ⟨hg, ih⟩

theorem trim_eq {gs : List (List Char)} {cs : List Char} (h : Laid gs cs) :
    Text.trim cs = cs := by
  obtain ⟨rest, hs⟩ := h.starts
  obtain ⟨before, he⟩ := h.ends
  exact Text.trim_eq_self hs (by decide) he (by decide)

theorem grouped_append {gs : List (List Char)} {cs w : List Char} (h : Laid gs cs)
    (hw : Text.allBlank w = true) : Grouped gs (cs ++ w) := by
  induction h with
  | single hg => exact .cons (w := []) rfl hg (.nil hw)
  | cons hg hv _ ih =>
    rw [List.append_assoc, List.append_assoc]
    exact .cons (w := []) rfl hg (ih.blank_append hv)

theorem grouped {gs : List (List Char)} {cs : List Char} (h : Laid gs cs) : Grouped gs cs := by
  have := h.grouped_append (w := []) rfl
  rw [List.append_nil] at this
  exact this

end Laid

/-- A grouped text with groups is a laid text between two blank ones. -/
theorem Grouped.exists_laid {gs : List (List Char)} {cs : List Char} (h : Grouped gs cs)
    (hne : gs ≠ []) :
    ∃ w ds w', Text.allBlank w = true ∧ Laid gs ds ∧ Text.allBlank w' = true ∧
      cs = w ++ (ds ++ w') := by
  induction h with
  | nil _ => exact absurd rfl hne
  | @cons w g cs gs hw hg h ih =>
    cases h with
    | nil hv => exact ⟨w, bracketed g, cs, hw, .single hg, hv, rfl⟩
    | @cons v g' cs' gs' hv hg' h' =>
      obtain ⟨u, ds, u', hu, hl, hu', e⟩ := ih (by simp)
      exact ⟨w, bracketed g ++ (u ++ ds), u', hw, .cons hg hu hl, hu', by rw [e]; simp⟩

theorem grouped_iff_laid_trim {gs : List (List Char)} {cs : List Char} (hne : gs ≠ []) :
    Grouped gs cs ↔ Laid gs (Text.trim cs) := by
  constructor
  · intro h
    obtain ⟨w, ds, w', hw, hl, hw', e⟩ := h.exists_laid hne
    rw [e, Text.trim_blank_append hw, Text.trim_append_blank hw', hl.trim_eq]
    exact hl
  · intro h
    obtain ⟨w, w', hw, hw', e⟩ := Text.exists_trim cs
    rw [e]
    exact (h.grouped_append hw').blank_append hw

/-! ## Groups written without gaps -/

/-- Balanced contents in brackets, one after the other, are a laid text. -/
theorem laid_flatMap_bracketed {gs : List (List Char)} (hne : gs ≠ [])
    (h : ∀ g ∈ gs, Balanced g) : Laid gs (gs.flatMap bracketed) := by
  induction gs with
  | nil => exact absurd rfl hne
  | cons g gs ih =>
    rw [List.flatMap_cons]
    cases gs with
    | nil =>
      rw [List.flatMap_nil, List.append_nil]
      exact .single (h g List.mem_cons_self)
    | cons g' gs =>
      have hl := ih (by simp) fun x hx => h x (List.mem_cons_of_mem _ hx)
      exact .cons (w := []) (h g List.mem_cons_self) rfl hl

/-- A text of groups starts with a blank character or a bracket. -/
theorem Grouped.starts {gs : List (List Char)} {cs : List Char} (h : Grouped gs cs) {c : Char}
    (hc : cs.head? = some c) : Text.isBlank c = true ∨ c = '[' := by
  have hblank : ∀ {w rest : List Char}, Text.allBlank w = true → (w ++ rest).head? = some c →
      Text.isBlank c = true ∨ rest.head? = some c := by
    intro w rest hw e
    cases w with
    | nil => exact .inr e
    | cons b w =>
      rw [← Option.some.inj e]
      exact .inl (Text.allBlank_iff.mp hw b List.mem_cons_self)
  cases h with
  | nil hw =>
    rw [← List.append_nil cs] at hc
    exact .inl ((hblank hw hc).resolve_right (by simp))
  | cons hw _ _ =>
    refine (hblank hw hc).imp_right fun e => ?_
    rw [bracketed_append] at e
    exact (Option.some.inj e).symm

/-- A character that is no bracket and not blank stands only inside groups. -/
theorem Grouped.count_eq {gs : List (List Char)} {cs : List Char} (h : Grouped gs cs) {c : Char}
    (ho : c ≠ '[') (hc : c ≠ ']') (hb : Text.isBlank c = false) :
    cs.count c = gs.flatten.count c := by
  have hblank : ∀ w : List Char, Text.allBlank w = true → w.count c = 0 := fun w hw =>
    List.count_eq_zero.mpr fun hm => by
      rw [Text.allBlank_iff.mp hw c hm] at hb
      cases hb
  induction h with
  | nil hw => exact hblank _ hw
  | @cons w g cs gs hw _ _ ih =>
    have hg : (bracketed g).count c = g.count c := by
      simp [bracketed, ho.symm, hc.symm]
    rw [List.count_append, List.count_append, hblank w hw, hg, ih, List.flatten_cons,
      List.count_append, Nat.zero_add]

end Stored
end RecordRules
