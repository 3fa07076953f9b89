import RecordRules.Proofs.Lists
import RecordRules.Proofs.Stored.Brackets

/-!
# RecordRules.Proofs.Stored.Offsets

The groups of a text by byte offsets. `scan` goes through the characters of a text once. It counts
the open brackets, remembers where the group that is open starts, and keeps every group that was
closed as the two offsets it stands between, so that nothing is copied.

Two things could go wrong there that cannot in `groups`: the count could fall below zero, and an
offset could lie inside a character of several bytes.

* `Follows` relates the state of the loop to the part of the text behind it, and to the reader of
  groups. `leads_step` and `leads_run` say that it holds all along.
* `groups_eq_scan`: the loop finds the groups that `groups` finds, and stops at the same faults.
-/

namespace RecordRules
namespace Stored

/-! ## Offsets -/

theorem byteLength_eq_size (cs : List Char) :
    Text.byteLength cs = (String.ofList cs).toByteArray.size := by
  rw [String.size_toByteArray]
  induction cs with
  | nil => rfl
  | cons c cs ih =>
    rw [Text.byteLength, ih, ← List.singleton_append, String.ofList_append,
      String.utf8ByteSize_append, ← String.singleton_eq_ofList, String.utf8ByteSize_singleton]

theorem isValid_byteLength {text : String} {before after : List Char}
    (h : text.toList = before ++ after) :
    (⟨Text.byteLength before⟩ : String.Pos.Raw).IsValid text := by
  refine String.Pos.Raw.isValid_iff_exists_append.mpr
    ⟨String.ofList before, String.ofList after, ?_, ?_⟩
  · rw [← String.ofList_append, ← h, String.ofList_toList]
  · rw [byteLength_eq_size]
    rfl

theorem extract_between {before part after : ByteArray} {start stop : Nat}
    (hstart : start = before.size) (hstop : stop = before.size + part.size) :
    (before ++ part ++ after).extract start stop = part := by
  -- nothing behind the part is cut out
  have hafter : after.extract (start - (before ++ part).size) (stop - (before ++ part).size) =
      ByteArray.empty := by
    rw [ByteArray.extract_eq_empty_iff, ByteArray.size_append]
    omega
  rw [ByteArray.extract_append, hafter, ByteArray.append_empty,
    ByteArray.extract_append_eq_right hstart hstop]

structure Span where
  start : Nat
  stop : Nat

namespace Span

/-- The part of a text between two offsets, if both lie between characters and are in order. -/
def cut? (text : String) (s : Span) : Option String :=
  if h : (⟨s.start⟩ : String.Pos.Raw).IsValid text ∧ (⟨s.stop⟩ : String.Pos.Raw).IsValid text ∧
      s.start ≤ s.stop then
    some (String.extract (text.pos ⟨s.start⟩ h.1) (text.pos ⟨s.stop⟩ h.2.1))
  else none

/-- A text has these characters between the two offsets. -/
def Holds (cs : List Char) (s : Span) (g : List Char) : Prop :=
  ∃ before after, cs = before ++ (g ++ after) ∧ s.start = Text.byteLength before ∧
    s.stop = Text.byteLength (before ++ g)

theorem Holds.append {cs g : List Char} {s : Span} (h : s.Holds cs g) (more : List Char) :
    s.Holds (cs ++ more) g := by
  obtain ⟨before, after, rfl, hstart, hstop⟩ := h
  exact ⟨before, after ++ more, by simp, hstart, hstop⟩

/-- Cutting between the offsets of a part gives the part. -/
theorem Holds.cut? {text : String} {s : Span} {g : List Char} (h : s.Holds text.toList g) :
    s.cut? text = some (String.ofList g) := by
  obtain ⟨before, after, htext, hstart, hstop⟩ := h
  rw [← List.append_assoc] at htext
  have hsplit : text = String.ofList before ++ String.ofList g ++ String.ofList after := by
    rw [← String.ofList_append, ← String.ofList_append, ← htext, String.ofList_toList]
  have hvalid : (⟨s.start⟩ : String.Pos.Raw).IsValid text := by
    rw [hstart]
    exact isValid_byteLength (htext.trans (List.append_assoc _ _ _))
  have hvalid' : (⟨s.stop⟩ : String.Pos.Raw).IsValid text := by
    rw [hstop]
    exact isValid_byteLength htext
  have hle : s.start ≤ s.stop := by
    rw [hstart, hstop, byteLength_append]
    exact Nat.le_add_right _ _
  rw [byteLength_eq_size] at hstart
  rw [byteLength_append, byteLength_eq_size, byteLength_eq_size] at hstop
  rw [Span.cut?, dif_pos ⟨hvalid, hvalid', hle⟩, Option.some.injEq, ← String.toByteArray_inj,
    String.toByteArray_extract, String.offset_pos, String.offset_pos, hsplit,
    String.toByteArray_append, String.toByteArray_append, extract_between hstart hstop]

end Span

/-! ## The loop -/

/-- What the loop keeps: the number of open brackets, the offset behind the bracket that opened the
group it is in, and the groups that were closed. The count is an integer, so that nothing but the
checks of `Scan.step` keeps it from falling below zero. -/
structure Scan where
  depth : Int
  start : Nat
  spans : List Span

namespace Scan

def initial : Scan :=
  ⟨0, 0, []⟩

/-- One character, which stands at a position. -/
def step (s : Scan) (position : Nat) (c : Char) : Except ParseFault Scan :=
  if c = '[' then
    .ok { s with start := if s.depth = 0 then position + 1 else s.start, depth := s.depth + 1 }
  else if c = ']' then
    if s.depth = 0 then .error (.unbalanced position)
    else if s.depth - 1 = 0 then
      .ok { s with depth := s.depth - 1, spans := s.spans ++ [⟨s.start, position⟩] }
    else .ok { s with depth := s.depth - 1 }
  else if s.depth = 0 then
    if Text.isBlank c then .ok s else .error (.stray c position)
  else .ok s

/-- Characters from a position on, up to the first fault. -/
def run : Scan → (position : Nat) → List Char → Except ParseFault Scan
  | s, _, [] => .ok s
  | s, position, c :: cs =>
    match s.step position c with
    | .error e => .error e
    | .ok s => s.run (position + c.utf8Size) cs

/-- The result of the loop behind `before`: a state with the invariant, or a fault of every text
that starts like that. -/
def Reaches (inv : List Char → Scan → Prop) (faulty : List Char → ParseFault → Prop)
    (before : List Char) : Except ParseFault Scan → Prop
  | .ok s => inv before s
  | .error fault => ∀ after, faulty (before ++ after) fault

/-- What every step keeps is kept by a run, by induction on the characters that are left. -/
theorem reaches_run {inv : List Char → Scan → Prop} {faulty : List Char → ParseFault → Prop}
    (hstep : ∀ before s c, inv before s →
      Reaches inv faulty (before ++ [c]) (s.step (Text.byteLength before) c))
    {before : List Char} {s : Scan} (h : inv before s) (cs : List Char) :
    Reaches inv faulty (before ++ cs) (s.run (Text.byteLength before) cs) := by
  induction cs generalizing before s with
  | nil =>
    rw [List.append_nil]
    exact h
  | cons c cs ih =>
    have hc := hstep before s c h
    rw [List.append_cons, run]
    cases hs : s.step (Text.byteLength before) c with
    | error fault =>
      rw [hs] at hc
      intro after
      rw [List.append_assoc]
      exact hc (cs ++ after)
    | ok s' =>
      rw [hs] at hc
      have hcs := ih hc
      rw [byteLength_append] at hcs
      exact hcs

end Scan

/-- The groups of a text, each by its offsets. -/
def scan (cs : List Char) : Except ParseFault (List Span) :=
  match Scan.initial.run 0 cs with
  | .error e => .error e
  | .ok s => if s.depth = 0 then .ok s.spans else .error .unclosed

/-- The brackets that are open behind a text: those that open less those that close. -/
def opened (cs : List Char) : Int :=
  cs.count '[' - cs.count ']'

theorem opened_append (cs ds : List Char) : opened (cs ++ ds) = opened cs + opened ds := by
  simp only [opened, List.count_append]
  omega

theorem opened_plain {c : Char} (ho : c ≠ '[') (hc : c ≠ ']') : opened [c] = 0 := by
  simp [opened, ho, hc]

/-! ## The loop beside the reader -/

namespace GroupState

/-- The brackets that are open where the reader of groups stands. -/
def depth : GroupState → Nat
  | .outside => 0
  | .inside depth _ => depth + 1

/-- The offset lies where the group that is open behind `before` starts. -/
def StartsAt (before : List Char) (start : Nat) : GroupState → Prop
  | .outside => True
  | .inside _ content =>
    ∃ earlier, before = earlier ++ content.reverse ∧ start = Text.byteLength earlier

theorem StartsAt.grow {before content : List Char} {start depth : Nat}
    (h : StartsAt before start (.inside depth content)) (depth' : Nat) (c : Char) :
    StartsAt (before ++ [c]) start (.inside depth' (c :: content)) := by
  obtain ⟨earlier, rfl, hstart⟩ := h
  exact ⟨earlier, by simp, hstart⟩

end GroupState

/-- Behind `before`, the loop is where the reader of groups is, and has the same groups. What comes
after makes no difference to that: the reader goes on from its state. -/
structure Follows (before : List Char) (s : Scan) (state : GroupState) (gs : List (List Char)) :
    Prop where
  depth_eq_opened : s.depth = opened before
  depth_eq_state : s.depth = state.depth
  startsAt : state.StartsAt before s.start
  spans_hold : List.Forall₂ (Span.Holds before) s.spans gs
  groups_append : ∀ after, groups (before ++ after) =
    (groupsFrom state (Text.byteLength before) after).map (gs ++ ·)

/-- There is a place of the reader that the loop follows. -/
def Followed (before : List Char) (s : Scan) : Prop :=
  ∃ state gs, Follows before s state gs

def Refused (cs : List Char) (fault : ParseFault) : Prop :=
  groups cs = .error fault

/-- The loop is where the reader is, or has stopped at the fault at which the reader stops. -/
abbrev Leads (before : List Char) (result : Except ParseFault Scan) : Prop :=
  Scan.Reaches Followed Refused before result

theorem follows_initial : Follows [] .initial .outside [] := by
  refine ⟨rfl, rfl, trivial, .nil, fun after => ?_⟩
  show groupsFrom .outside 0 after = (groupsFrom .outside 0 after).map ([] ++ ·)
  cases groupsFrom .outside 0 after <;> rfl

section Step

variable {before content : List Char} {s : Scan} {state : GroupState} {gs : List (List Char)}
  {depth : Nat} {c : Char}

/-- A character at which the reader stops. -/
theorem Follows.leads_error (h : Follows before s state gs) {fault : ParseFault}
    (hreader : ∀ after, groupsFrom state (Text.byteLength before) (c :: after) = .error fault) :
    Leads (before ++ [c]) (.error fault) := by
  intro after
  rw [Refused, List.append_assoc, h.groups_append, List.singleton_append, hreader]
  rfl

/-- A character that closes no group. -/
theorem Follows.leads_ok (h : Follows before s state gs) {s' : Scan} (state' : GroupState)
    (hspans : s'.spans = s.spans) (hdepth : s'.depth = s.depth + opened [c])
    (hstate : s'.depth = state'.depth) (hstart : state'.StartsAt (before ++ [c]) s'.start)
    (hreader : ∀ after, groupsFrom state (Text.byteLength before) (c :: after) =
      groupsFrom state' (Text.byteLength before + c.utf8Size) after) :
    Leads (before ++ [c]) (.ok s') := by
  refine ⟨state', gs, ⟨?_, hstate, hstart, ?_, fun after => ?_⟩⟩
  · rw [hdepth, h.depth_eq_opened, opened_append]
  · rw [hspans]
    exact h.spans_hold.imp fun _ _ hold => hold.append [c]
  · rw [List.append_assoc, h.groups_append, List.singleton_append, hreader, byteLength_append]
    rfl

/-- The bracket that closes a group. -/
theorem Follows.leads_close (h : Follows before s (.inside 0 content) gs) :
    Leads (before ++ [']']) (.ok { s with
      depth := s.depth - 1, spans := s.spans ++ [⟨s.start, Text.byteLength before⟩] }) := by
  obtain ⟨earlier, hbefore, hstart⟩ := h.startsAt
  have hdepth : s.depth = 1 := h.depth_eq_state
  have hspan : Span.Holds (before ++ [']']) ⟨s.start, Text.byteLength before⟩ content.reverse :=
    ⟨earlier, [']'], by rw [hbefore, List.append_assoc], hstart, by rw [hbefore]⟩
  refine ⟨.outside, gs ++ [content.reverse], ⟨?_, ?_, trivial, ?_, fun after => ?_⟩⟩
  · rw [opened_append, ← h.depth_eq_opened]
    rfl
  · rw [hdepth]
    rfl
  · exact List.rel_append (h.spans_hold.imp fun _ _ hold => hold.append [']'])
      (.cons hspan .nil)
  · rw [List.append_assoc, h.groups_append, List.singleton_append, groupsFrom_inside_end,
      byteLength_append]
    show _ = (groupsFrom .outside (Text.byteLength before + ']'.utf8Size) after).map _
    cases groupsFrom .outside (Text.byteLength before + ']'.utf8Size) after with
    | error e => rfl
    | ok hs => exact congrArg Except.ok (List.append_assoc gs [content.reverse] hs).symm

theorem leads_step_outside (h : Follows before s .outside gs) (c : Char) :
    Leads (before ++ [c]) (s.step (Text.byteLength before) c) := by
  have hdepth : s.depth = 0 := h.depth_eq_state
  rw [Scan.step]
  by_cases ho : c = '['
  · subst ho
    rw [if_pos rfl, if_pos hdepth]
    refine h.leads_ok (.inside 0 []) rfl rfl (by rw [hdepth]; rfl) ?_ fun after => ?_
    · exact ⟨before ++ ['['], by simp, by rw [byteLength_append]; rfl⟩
    · rw [groupsFrom, if_pos rfl]
  · rw [if_neg ho]
    by_cases hc : c = ']'
    · subst hc
      rw [if_pos rfl, if_pos hdepth]
      refine h.leads_error fun after => ?_
      rw [groupsFrom, if_neg ho, if_pos rfl]
    · rw [if_neg hc, if_pos hdepth]
      by_cases hb : Text.isBlank c = true
      · rw [if_pos hb]
        refine h.leads_ok .outside rfl (by rw [opened_plain ho hc, Int.add_zero]) hdepth trivial
          fun after => ?_
        rw [groupsFrom, if_neg ho, if_neg hc, if_pos hb]
      · rw [if_neg hb]
        refine h.leads_error fun after => ?_
        rw [groupsFrom, if_neg ho, if_neg hc, if_neg hb]

theorem leads_step_inside (h : Follows before s (.inside depth content) gs) (c : Char) :
    Leads (before ++ [c]) (s.step (Text.byteLength before) c) := by
  have hdepth : s.depth = depth + 1 := h.depth_eq_state
  have hopen : s.depth ≠ 0 := by omega
  rw [Scan.step]
  by_cases ho : c = '['
  · subst ho
    rw [if_pos rfl, if_neg hopen]
    exact h.leads_ok (.inside (depth + 1) ('[' :: content)) rfl rfl (by rw [hdepth]; rfl)
      (h.startsAt.grow _ _) fun after => groupsFrom_inside_open _ _ _ _
  · rw [if_neg ho]
    by_cases hc : c = ']'
    · subst hc
      rw [if_pos rfl, if_neg hopen]
      cases depth with
      | zero =>
        rw [if_pos (by rw [hdepth]; rfl)]
        exact h.leads_close
      | succ depth =>
        have hleft : s.depth - 1 = depth + 1 := by omega
        rw [if_neg (by omega)]
        exact h.leads_ok (.inside depth (']' :: content)) rfl rfl hleft (h.startsAt.grow _ _)
          fun after => groupsFrom_inside_close _ _ _ _
    · rw [if_neg hc, if_neg hopen]
      exact h.leads_ok (.inside depth (c :: content)) rfl
        (by rw [opened_plain ho hc, Int.add_zero]) hdepth (h.startsAt.grow _ _)
        fun after => groupsFrom_inside_plain _ _ _ _ ho hc

/-- What one character leads to. -/
theorem leads_step (h : Followed before s) (c : Char) :
    Leads (before ++ [c]) (s.step (Text.byteLength before) c) := by
  obtain ⟨state, gs, h⟩ := h
  cases state with
  | outside => exact leads_step_outside h c
  | inside depth content => exact leads_step_inside h c

end Step

/-- A run from the start has followed the reader of groups, or has stopped with it. -/
theorem leads_run (cs : List Char) : Leads cs (Scan.initial.run 0 cs) :=
  Scan.reaches_run (fun _ _ c h => leads_step h c) ⟨_, _, follows_initial⟩ cs

/-- At the end of a text the reader has its groups if none is open. -/
theorem Follows.groups_eq {cs : List Char} {s : Scan} {state : GroupState}
    {gs : List (List Char)} (h : Follows cs s state gs) :
    groups cs = if s.depth = 0 then .ok gs else .error .unclosed := by
  have hend := h.groups_append []
  rw [List.append_nil] at hend
  rw [hend, h.depth_eq_state]
  cases state with
  | outside => simp [groupsFrom, Except.map, GroupState.depth]
  | inside depth content =>
    rw [if_neg (by rw [GroupState.depth]; omega)]
    rfl

/-- **The loop finds the groups that `groups` finds and stops at the same faults**, and every two
offsets that it keeps cut a part of the text out. -/
theorem groups_eq_scan (text : String) :
    (scan text.toList).map (List.map (Span.cut? text)) =
      (groups text.toList).map (List.map fun g => some (String.ofList g)) := by
  have hleads := leads_run text.toList
  rw [scan]
  cases hrun : Scan.initial.run 0 text.toList with
  | error fault =>
    rw [hrun] at hleads
    have hrefused : groups (text.toList ++ []) = .error fault := hleads []
    rw [List.append_nil] at hrefused
    rw [hrefused]
    rfl
  | ok s =>
    rw [hrun] at hleads
    obtain ⟨state, gs, h⟩ := hleads
    have hcut : s.spans.map (Span.cut? text) = gs.map fun g => some (String.ofList g) :=
      map_eq_map_iff_forall₂.mpr (h.spans_hold.imp fun _ _ hold => hold.cut?)
    rw [h.groups_eq]
    by_cases hdepth : s.depth = 0
    · simp only [if_pos hdepth]
      exact congrArg Except.ok hcut
    · simp only [if_neg hdepth]
      rfl

/-- All along the text, the count of the loop is the number of open brackets and never below zero,
and everything it cuts out lies between characters. -/
theorem run_sound {text : String} {before after : List Char} {s : Scan}
    (htext : text.toList = before ++ after) (hrun : Scan.initial.run 0 before = .ok s) :
    0 ≤ s.depth ∧ s.depth = opened before ∧
      ∀ span ∈ s.spans, ∃ g, span.cut? text = some g := by
  have hleads := leads_run before
  rw [hrun] at hleads
  obtain ⟨state, gs, h⟩ := hleads
  refine ⟨?_, h.depth_eq_opened, fun span hspan => ?_⟩
  · rw [h.depth_eq_state]
    exact Int.natCast_nonneg _
  · obtain ⟨g, -, hold⟩ := exists_mem_of_forall₂ h.spans_hold span hspan
    have := hold.append after
    rw [← htext] at this
    exact ⟨_, this.cut?⟩

end Stored
end RecordRules
