import Mathlib.Algebra.Ring.Parity
import RecordRules.Proofs.Rule.Meaning

/-!
# RecordRules.Proofs.Rule.Place

Places in a rule, for statements about what changes when one of the rules in it does.

* A `Place` is a rule with one of the rules in it left out, and `Place.fill` puts a rule there. The
  rules in a rule are those that it is filled with (`mem_subrules_iff_exists_fill`).
* `Place.negations` counts the negations above a place. `Place.holds_fill_of_imp`: a rule that holds
  more often makes the whole hold more often under an even number of them and less often under an
  odd number.
-/

namespace RecordRules

inductive Place where
  | here
  | within (operator : Operator) (conditions : List Condition) (before : List Rule)
      (inner : Place) (after : List Rule)

namespace Place

/-- The rule with another put at the place. -/
def fill : Place → Rule → Rule
  | .here, r => r
  | .within op cs before p after, r => .node op cs (before ++ p.fill r :: after)

/-- The number of negations above the place. -/
def negations : Place → Nat
  | .here => 0
  | .within op _ _ p _ => if op = .not then p.negations + 1 else p.negations

theorem mem_subrules_fill (p : Place) (r : Rule) : r ∈ (p.fill r).subrules := by
  induction p with
  | here =>
    rw [fill, Rule.subrules_eq]
    exact List.mem_cons_self
  | within op cs before p after ih =>
    rw [fill, Rule.subrules_eq, Rule.descendants]
    exact List.mem_cons_of_mem _ (List.mem_flatMap.mpr ⟨p.fill r, by simp [Rule.nested], ih⟩)

/-- Every rule in a rule has a place in it. -/
theorem mem_subrules_iff_exists_fill {r d : Rule} :
    d ∈ r.subrules ↔ ∃ p : Place, p.fill d = r := by
  refine ⟨fun h => ?_, fun ⟨p, hp⟩ => hp ▸ mem_subrules_fill p d⟩
  induction r with
  | node op cs rs ih =>
    rw [Rule.subrules_eq] at h
    rcases List.mem_cons.mp h with rfl | h
    · exact ⟨.here, rfl⟩
    · obtain ⟨n, hn, hd⟩ := List.mem_flatMap.mp h
      obtain ⟨p, rfl⟩ := ih n hn hd
      obtain ⟨before, after, hrs⟩ := List.append_of_mem hn
      have hrs' : rs = before ++ p.fill d :: after := hrs
      exact ⟨.within op cs before p after, by rw [fill, hrs']⟩

/-! ## Validity -/

theorem valid_of_fill {p : Place} {r : Rule} (hv : (p.fill r).Valid) : r.Valid := by
  induction p with
  | here => exact hv
  | within op cs before p after ih =>
    cases hv with
    | node combines conditions_valid nested_valid => exact ih (nested_valid _ (by simp))

/-- What a valid rule is filled with can be exchanged for another valid rule. -/
theorem valid_fill {p : Place} {r r' : Rule} (hv : (p.fill r).Valid) (h : r'.Valid) :
    (p.fill r').Valid := by
  induction p with
  | here => exact h
  | within op cs before p after ih =>
    cases hv with
    | node combines conditions_valid nested_valid =>
      rw [List.forall_mem_append, List.forall_mem_cons] at nested_valid
      obtain ⟨hbefore, hinner, hafter⟩ := nested_valid
      refine .node combines conditions_valid ?_
      rw [List.forall_mem_append, List.forall_mem_cons]
      exact ⟨hbefore, ih hinner, hafter⟩

end Place

/-! ## Meaning -/

section Meaning

variable {holds : Condition → Prop} {op : Operator} {cs : List Condition}
  {before after : List Rule} {r r' : Rule}

/-- One of the rules that are joined may be exchanged for one that holds more often. -/
theorem Rule.someHolds_of_imp (h : r.Holds holds → r'.Holds holds)
    (hsome : SomeHolds holds (before ++ r :: after)) : SomeHolds holds (before ++ r' :: after) := by
  rw [someHolds_iff] at hsome ⊢
  obtain ⟨n, hn, hholds⟩ := hsome
  rcases List.mem_append.mp hn with hn | hn
  · exact ⟨n, List.mem_append_left _ hn, hholds⟩
  · rcases List.mem_cons.mp hn with rfl | hn
    · exact ⟨r', by simp, h hholds⟩
    · exact ⟨n, by simp [hn], hholds⟩

theorem Rule.allHold_of_imp (h : r.Holds holds → r'.Holds holds)
    (hall : AllHold holds (before ++ r :: after)) : AllHold holds (before ++ r' :: after) := by
  rw [allHold_iff, List.forall_mem_append, List.forall_mem_cons] at hall ⊢
  obtain ⟨hbefore, hr, hafter⟩ := hall
  exact ⟨hbefore, h hr, hafter⟩

theorem Rule.holds_node_of_imp (hop : op ≠ .not) (h : r.Holds holds → r'.Holds holds)
    (hholds : (Rule.node op cs (before ++ r :: after)).Holds holds) :
    (Rule.node op cs (before ++ r' :: after)).Holds holds := by
  cases op with
  | and =>
    rw [Holds] at hholds ⊢
    exact ⟨hholds.1, allHold_of_imp h hholds.2⟩
  | or =>
    rw [Holds] at hholds ⊢
    rcases hholds with ⟨-, hempty⟩ | hcs | hsome
    · simp at hempty
    · exact .inr (.inl hcs)
    · exact .inr (.inr (someHolds_of_imp h hsome))
  | not => exact absurd rfl hop
  | _ => exact hholds.elim

theorem Rule.holds_not_of_imp (h : r.Holds holds → r'.Holds holds)
    (hholds : (Rule.node .not cs (before ++ r' :: after)).Holds holds) :
    (Rule.node .not cs (before ++ r :: after)).Holds holds := by
  rw [Holds] at hholds ⊢
  exact ⟨hholds.1, fun hsome => hholds.2 (someHolds_of_imp h hsome)⟩

/-- A rule that holds more often, at a place: each negation above it turns the direction around. -/
theorem Place.holds_fill_of_imp (p : Place) (h : r.Holds holds → r'.Holds holds) :
    (Even p.negations → (p.fill r).Holds holds → (p.fill r').Holds holds) ∧
      (Odd p.negations → (p.fill r').Holds holds → (p.fill r).Holds holds) := by
  induction p with
  | here => exact ⟨fun _ => h, fun hodd => absurd hodd (by simp [negations])⟩
  | within op cs before p after ih =>
    obtain ⟨heven, hodd⟩ := ih
    rw [negations, fill, fill]
    split
    · rename_i hop
      subst hop
      rw [Nat.even_add_one, Nat.odd_add_one, Nat.not_even_iff_odd, Nat.not_odd_iff_even]
      exact ⟨fun hn => Rule.holds_not_of_imp (hodd hn),
        fun hn => Rule.holds_not_of_imp (heven hn)⟩
    · rename_i hop
      exact ⟨fun hn => Rule.holds_node_of_imp hop (heven hn),
        fun hn => Rule.holds_node_of_imp hop (hodd hn)⟩

end Meaning

end RecordRules
