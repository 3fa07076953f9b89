/-!
# RecordRules.Text.Order

The order of texts by code point. It is also the order of their UTF-8 bytes, since UTF-8 keeps the
order of code points.
-/

namespace RecordRules
namespace Text

/-- Texts compare at the first character in which they differ, and a text before its
continuations. -/
def order : List Char → List Char → Ordering
  | [], [] => .eq
  | [], _ :: _ => .lt
  | _ :: _, [] => .gt
  | a :: as, b :: bs =>
    if a.toNat < b.toNat then .lt
    else if b.toNat < a.toNat then .gt
    else order as bs

theorem order_eq_iff (as bs : List Char) : order as bs = .eq ↔ as = bs := by
  induction as generalizing bs with
  | nil => cases bs <;> simp [order]
  | cons a as ih =>
    cases bs with
    | nil => simp [order]
    | cons b bs =>
      simp only [order, List.cons.injEq]
      split
      · rename_i h; simp; rintro rfl; omega
      · rename_i h
        split
        · rename_i h'; simp; rintro rfl; omega
        · rename_i h'
          have : a = b := by
            apply Char.ext; apply UInt32.toNat_inj.1
            show a.toNat = b.toNat
            omega
          simp [ih, this]

theorem order_swap (as bs : List Char) : (order as bs).swap = order bs as := by
  induction as generalizing bs with
  | nil => cases bs <;> rfl
  | cons a as ih =>
    cases bs with
    | nil => rfl
    | cons b bs =>
      simp only [order]
      split
      · rename_i h; rw [if_neg (by omega)]; rfl
      · rename_i h
        split
        · rfl
        · exact ih bs

end Text
end RecordRules
