import RecordRules.Proofs.Declaration.Identifier
import RecordRules.Registry

/-!
# RecordRules.Proofs.Registry.Screaming

The screaming form of query names, character by character.

Small letters of the alphabet never survive in it, so it is a keyword only if it is a lone
underscore, and the screaming form of what has the shape of a name is read as it is
(`toList_of_identifier?_screaming`). Where no letter is a capital before, the form tells all
names apart (`screaming_inj`).
-/

namespace RecordRules
namespace Registry

open Declaration (Shaped identifier? isNameStart isNamePart isSeparator isKeyword keywords)

def isSmall (c : Char) : Bool :=
  decide ('a'.toNat ≤ c.toNat ∧ c.toNat ≤ 'z'.toNat)

variable {c d : Char} {cs ds : List Char}

/-! ## Characters -/

theorem asciiUpper_of_not_isSmall (h : isSmall c = false) : asciiUpper c = c := by
  rw [asciiUpper, if_neg (of_decide_eq_false h)]

theorem toNat_asciiUpper (h : isSmall c = true) : (asciiUpper c).toNat = c.toNat - 32 := by
  have hcapital : ∀ n ≤ 'z'.toNat, 'a'.toNat ≤ n → (Char.ofNat (n - 32)).toNat = n - 32 := by
    decide
  have hrange := of_decide_eq_true h
  rw [asciiUpper, if_pos hrange, hcapital c.toNat hrange.2 hrange.1]

/-- What holds of the capitals A to Z holds of every small letter in capital form. -/
theorem asciiUpper_of_capitals {P : Char → Bool}
    (hP : ∀ n ≤ 'Z'.toNat, 'A'.toNat ≤ n → P (Char.ofNat n) = true) (h : isSmall c = true) :
    P (asciiUpper c) = true := by
  have hrange := of_decide_eq_true h
  have ha : 'a'.toNat = 'A'.toNat + 32 := rfl
  have hz : 'z'.toNat = 'Z'.toNat + 32 := rfl
  rw [asciiUpper, if_pos hrange]
  exact hP (c.toNat - 32) (by omega) (by omega)

theorem isUppercase_asciiUpper (h : isSmall c = true) : Text.isUppercase (asciiUpper c) = true :=
  asciiUpper_of_capitals (by decide +kernel) h

theorem not_isSmall_asciiUpper (c : Char) : isSmall (asciiUpper c) = false := by
  cases h : isSmall c with
  | false => rw [asciiUpper_of_not_isSmall h, h]
  | true =>
    have hcapital := asciiUpper_of_capitals (P := fun d => !isSmall d) (by decide) h
    simpa using hcapital

theorem not_isSmall_of_isUppercase (h : Text.isUppercase c = true) : isSmall c = false := by
  have hsmall : ∀ n ≤ 'z'.toNat, 'a'.toNat ≤ n → Text.isUppercase (Char.ofNat n) = false := by
    decide +kernel
  rw [isSmall, decide_eq_false_iff_not]
  rintro ⟨hlow, hhigh⟩
  have hno := hsmall c.toNat hhigh hlow
  rw [Char.ofNat_toNat, h] at hno
  cases hno

/-- A property that all capitals have is kept. -/
theorem asciiUpper_kept {P : Char → Bool}
    (hP : ∀ n ≤ 'Z'.toNat, 'A'.toNat ≤ n → P (Char.ofNat n) = true) (h : P c = true) :
    P (asciiUpper c) = true := by
  cases hsmall : isSmall c with
  | false => rwa [asciiUpper_of_not_isSmall hsmall]
  | true => exact asciiUpper_of_capitals hP hsmall

theorem isNameStart_asciiUpper (h : isNameStart c = true) : isNameStart (asciiUpper c) = true :=
  asciiUpper_kept (by decide +kernel) h

theorem isNamePart_asciiUpper (h : isNamePart c = true) : isNamePart (asciiUpper c) = true :=
  asciiUpper_kept (by decide +kernel) h

theorem asciiUpper_inj (hc : Text.isUppercase c = false) (hd : Text.isUppercase d = false)
    (h : asciiUpper c = asciiUpper d) : c = d := by
  cases hcs : isSmall c with
  | true =>
    cases hds : isSmall d with
    | true =>
      have hlow := (of_decide_eq_true hcs).1
      have hlow' := (of_decide_eq_true hds).1
      have ha : 'a'.toNat = 97 := rfl
      have hnat := congrArg Char.toNat h
      rw [toNat_asciiUpper hcs, toNat_asciiUpper hds] at hnat
      exact Char.toNat_inj.mp (by omega)
    | false =>
      -- a capital form on one side only
      rw [asciiUpper_of_not_isSmall hds] at h
      rw [← h, isUppercase_asciiUpper hcs] at hd
      cases hd
  | false =>
    cases hds : isSmall d with
    | true =>
      rw [asciiUpper_of_not_isSmall hcs] at h
      rw [h, isUppercase_asciiUpper hds] at hc
      cases hc
    | false => rwa [asciiUpper_of_not_isSmall hcs, asciiUpper_of_not_isSmall hds] at h

/-! ## Forms -/

/-- The screaming form is made of underscores, of the capitals that were there, and of capital
forms. -/
theorem mem_screamingFrom {afterSmall : Bool} (h : d ∈ screamingFrom afterSmall cs) :
    d = '_' ∨ ∃ c ∈ cs, (Text.isUppercase c = true ∧ d = c) ∨ d = asciiUpper c := by
  induction cs generalizing afterSmall with
  | nil => cases h
  | cons c cs ih =>
    have hrest : ∀ b, d ∈ screamingFrom b cs → d = '_' ∨
        ∃ e ∈ c :: cs, (Text.isUppercase e = true ∧ d = e) ∨ d = asciiUpper e := by
      intro b hb
      exact (ih hb).imp_right fun ⟨e, he, hde⟩ => ⟨e, List.mem_cons_of_mem c he, hde⟩
    rw [screamingFrom] at h
    split at h
    · rename_i hupper
      rcases List.mem_append.mp h with hd | hd
      · have hword : d = '_' ∨ d = c := by
          cases afterSmall
          · exact .inr (by simpa using hd)
          · simpa using hd
        exact hword.imp_right fun e => ⟨c, List.mem_cons_self, .inl ⟨hupper, e⟩⟩
      · exact hrest _ hd
    · split at h
      · rcases List.mem_cons.mp h with hd | hd
        · exact .inl hd
        · exact hrest _ hd
      · rcases List.mem_cons.mp h with hd | hd
        · exact .inr ⟨c, List.mem_cons_self, .inr hd⟩
        · exact hrest _ hd

theorem not_isSmall_of_mem_screamingFrom {afterSmall : Bool}
    (h : d ∈ screamingFrom afterSmall cs) : isSmall d = false := by
  rcases mem_screamingFrom h with rfl | ⟨c, -, ⟨hupper, rfl⟩ | rfl⟩
  · decide
  · exact not_isSmall_of_isUppercase hupper
  · exact not_isSmall_asciiUpper c

theorem isNamePart_of_mem_screamingFrom {afterSmall : Bool}
    (hcs : ∀ c ∈ cs, isNamePart c = true) (h : d ∈ screamingFrom afterSmall cs) :
    isNamePart d = true := by
  rcases mem_screamingFrom h with rfl | ⟨c, hc, ⟨-, rfl⟩ | rfl⟩
  · decide
  · exact hcs d hc
  · exact isNamePart_asciiUpper (hcs c hc)

theorem shaped_screaming (h : Shaped cs) : Shaped (screaming cs) := by
  obtain ⟨c, rest, rfl, hstart, hrest⟩ := h
  have hparts : ∀ b, ∀ d ∈ screamingFrom b rest, isNamePart d = true := by
    intro b d hd
    exact isNamePart_of_mem_screamingFrom hrest hd
  rw [screaming, screamingFrom]
  split
  · exact ⟨c, _, rfl, hstart, hparts _⟩
  · split
    · exact ⟨'_', _, rfl, by decide, hparts _⟩
    · exact ⟨asciiUpper c, _, rfl, isNameStart_asciiUpper hstart, hparts _⟩

/-- Every keyword but the underscore has a small letter. -/
theorem not_isKeyword_of_not_isSmall (h : ∀ c ∈ cs, isSmall c = false) (hone : cs ≠ ['_']) :
    isKeyword (String.ofList cs) = false := by
  have hsmall : ∀ k ∈ keywords, k = "_" ∨ k.toList.any isSmall = true := by decide
  rw [isKeyword, Bool.eq_false_iff]
  intro hkeyword
  rcases hsmall _ (List.contains_iff_mem.mp hkeyword) with hk | hk
  · exact hone (String.toList_ofList.symm.trans (congrArg String.toList hk))
  · rw [String.toList_ofList] at hk
    obtain ⟨c, hc, hcs⟩ := List.any_eq_true.mp hk
    rw [h c hc] at hcs
    cases hcs

theorem toList_of_identifier?_screaming {k : String} (h : Shaped cs)
    (hk : identifier? (screaming cs) = some k) : k.toList = screaming cs := by
  have hone : screaming cs ≠ ['_'] := by
    intro hone
    have hnone : identifier? ['_'] = none := by decide +kernel
    rw [hone, hnone] at hk
    cases hk
  have hfree := not_isKeyword_of_not_isSmall
    (fun _ hd => not_isSmall_of_mem_screamingFrom hd) hone
  have hread := Declaration.identifier?_of_isIdentifier ⟨shaped_screaming h, hfree⟩
  rw [Option.some.inj (hk.symm.trans hread), String.toList_ofList]

/-! ## Names in small letters -/

/-- The shape of a name, and no capital in it. -/
structure IsSnake (cs : List Char) : Prop where
  shaped : Shaped cs
  small : ∀ c ∈ cs, Text.isUppercase c = false

instance (cs : List Char) : Decidable (IsSnake cs) :=
  decidable_of_iff (Shaped cs ∧ cs.any Text.isUppercase = false)
    ⟨fun ⟨h, h'⟩ => ⟨h, fun c hc => by simpa using List.any_eq_false.mp h' c hc⟩,
      fun ⟨h, h'⟩ => ⟨h, List.any_eq_false.mpr fun c hc => by simp [h' c hc]⟩⟩

theorem screamingFrom_of_small {afterSmall : Bool}
    (hs : ∀ c ∈ cs, isSeparator c = false) (hu : ∀ c ∈ cs, Text.isUppercase c = false) :
    screamingFrom afterSmall cs = cs.map asciiUpper := by
  induction cs generalizing afterSmall with
  | nil => rfl
  | cons c cs ih =>
    obtain ⟨hc, hcs⟩ := List.forall_mem_cons.mp hs
    obtain ⟨hcu, hcsu⟩ := List.forall_mem_cons.mp hu
    have hdash := Declaration.ne_of_not_isSeparator hc (d := '-') (by decide)
    have hdot := Declaration.ne_of_not_isSeparator hc (d := '.') (by decide)
    have hblank := Declaration.ne_of_not_isSeparator hc (d := ' ') (by decide)
    rw [screamingFrom, if_neg (by simp [hcu]), ih hcs hcsu, ih hcs hcsu, List.map_cons]
    by_cases hline : c = '_'
    · rw [if_pos (by simp [hline]), hline]
      rfl
    · rw [if_neg (by simp [hline, hdash, hdot, hblank])]

theorem map_asciiUpper_inj (hc : ∀ c ∈ cs, Text.isUppercase c = false)
    (hd : ∀ d ∈ ds, Text.isUppercase d = false) (h : cs.map asciiUpper = ds.map asciiUpper) :
    cs = ds := by
  induction cs generalizing ds with
  | nil => exact (List.map_eq_nil_iff.mp h.symm).symm
  | cons c cs ih =>
    cases ds with
    | nil => cases h
    | cons d ds =>
      obtain ⟨hfirst, hrest⟩ := List.cons.inj h
      obtain ⟨hcu, hcsu⟩ := List.forall_mem_cons.mp hc
      obtain ⟨hdu, hdsu⟩ := List.forall_mem_cons.mp hd
      rw [asciiUpper_inj hcu hdu hfirst, ih hcsu hdsu hrest]

theorem screaming_inj (hc : IsSnake cs) (hd : IsSnake ds) (h : screaming cs = screaming ds) :
    cs = ds := by
  rw [screaming, screaming, screamingFrom_of_small hc.shaped.separate hc.small,
    screamingFrom_of_small hd.shaped.separate hd.small] at h
  exact map_asciiUpper_inj hc.small hd.small h

end Registry
end RecordRules
