import SessionTokens.Proofs.Text.Decimal

/-!
# Numerals of any length

A numeral is a run of digits, with a plus sign in front or without. It is read within a bound exactly if its
number is within the bound, however many zeros stand at its start (`readUpTo_eq_ok_iff`); so a text is a
numeral for one number at most (`IsNumeral.unique`).
-/

namespace SessionTokens.Text.Decimal

/-- The text consists of digits, of which there is at least one, behind a plus sign or not, and the digits
stand for the number. -/
def IsNumeral (s : String) (n : Nat) : Prop :=
  ∃ digits, digits ≠ [] ∧ (∀ d ∈ digits, isDigit d = true) ∧ valueOf digits = n ∧
    (s.toList = digits ∨ s.toList = '+' :: digits)

/-- The number that digits stand for behind others, whose number is given. -/
def valueFrom (n : Nat) (l : List Char) : Nat :=
  l.foldl (fun n c => 10 * n + (value? c).getD 0) n

theorem valueFrom_cons {c : Char} {d : Nat} (h : value? c = some d) (n : Nat) (r : List Char) :
    valueFrom n (c :: r) = valueFrom (10 * n + d) r := by
  rw [valueFrom, List.foldl_cons, h]
  rfl

/-- A number does not shrink where digits are put behind it. -/
theorem le_valueFrom (n : Nat) (l : List Char) : n ≤ valueFrom n l := by
  induction l generalizing n with
  | nil => exact Nat.le_refl n
  | cons c r ih =>
    have hstep : n ≤ 10 * n + (value? c).getD 0 := by omega
    exact Nat.le_trans hstep (ih _)

/-- Digits are read one by one as long as the number stays within the bound, and a number that has left the
bound does not come back. -/
theorem readDigits_eq_ok_iff {bound n m : Nat} {l : List Char} (hn : n ≤ bound) :
    readDigits bound n l = .ok m ↔
      (∀ d ∈ l, isDigit d = true) ∧ valueFrom n l = m ∧ m ≤ bound := by
  induction l generalizing n with
  | nil =>
    simp only [readDigits, Except.ok.injEq, List.not_mem_nil, false_implies, implies_true, true_and]
    constructor
    · rintro rfl
      exact ⟨rfl, hn⟩
    · exact fun h => h.1
  | cons c r ih =>
    unfold readDigits
    cases hc : value? c with
    | none =>
      refine iff_of_false (fun h => by cases h) fun h => ?_
      have hdigit := h.1 c List.mem_cons_self
      rw [isDigit, hc] at hdigit
      cases hdigit
    | some d =>
      have hdigit : isDigit c = true := by rw [isDigit, hc, Option.isSome_some]
      rw [valueFrom_cons hc]
      simp only [List.forall_mem_cons, hdigit, true_and]
      split
      · next hle => exact ih hle
      · next hlt =>
        refine iff_of_false (fun h => by cases h) fun h => ?_
        have hgrown := le_valueFrom (10 * n + d) r
        omega

/-- Behind a plus sign there are the digits. -/
theorem isNumeral_of_plus {s : String} {l : List Char} (hs : s.toList = '+' :: l) (n : Nat) :
    IsNumeral s n ↔ l ≠ [] ∧ (∀ d ∈ l, isDigit d = true) ∧ valueOf l = n := by
  constructor
  · rintro ⟨digits, hne, hdigits, hvalue, heq | heq⟩
    · -- a plus sign is no digit
      have hplus := hdigits '+' (by rw [← heq, hs]; exact List.mem_cons_self)
      exact absurd hplus (by decide)
    · rw [hs] at heq
      cases heq
      exact ⟨hne, hdigits, hvalue⟩
  · rintro ⟨hne, hdigits, hvalue⟩
    exact ⟨l, hne, hdigits, hvalue, Or.inr hs⟩

theorem isNumeral_of_not_plus {s : String} (hs : ∀ l, s.toList ≠ '+' :: l) (n : Nat) :
    IsNumeral s n ↔ s.toList ≠ [] ∧ (∀ d ∈ s.toList, isDigit d = true) ∧ valueOf s.toList = n := by
  constructor
  · rintro ⟨digits, hne, hdigits, hvalue, heq | heq⟩
    · rw [heq]
      exact ⟨hne, hdigits, hvalue⟩
    · exact absurd heq (hs digits)
  · rintro ⟨hne, hdigits, hvalue⟩
    exact ⟨s.toList, hne, hdigits, hvalue, Or.inl rfl⟩

/-- **A text is read within a bound exactly if it is a numeral for a number within the bound.** -/
theorem readUpTo_eq_ok_iff {bound n : Nat} {s : String} :
    readUpTo bound s = .ok n ↔ IsNumeral s n ∧ n ≤ bound := by
  unfold readUpTo
  split
  · next hs => simp [isNumeral_of_not_plus (s := s) (by simp [hs]), hs]
  · next hs => simp [isNumeral_of_plus hs]
  · next l hl hs =>
    have hne : l ≠ [] := fun hnil => hl hnil
    rw [readDigits_eq_ok_iff (Nat.zero_le bound), isNumeral_of_plus hs, and_iff_right hne, and_assoc]
    rfl
  · next hne hsign hplus =>
    rw [readDigits_eq_ok_iff (Nat.zero_le bound), isNumeral_of_not_plus hplus, and_iff_right hne, and_assoc]
    rfl

/-- A text is a numeral for one number at most. -/
theorem IsNumeral.unique {s : String} {n m : Nat} (hn : IsNumeral s n) (hm : IsNumeral s m) : n = m := by
  have hread : readUpTo (max n m) s = .ok n := readUpTo_eq_ok_iff.mpr ⟨hn, Nat.le_max_left n m⟩
  have hread' : readUpTo (max n m) s = .ok m := readUpTo_eq_ok_iff.mpr ⟨hm, Nat.le_max_right n m⟩
  exact Except.ok.inj (hread.symm.trans hread')

end SessionTokens.Text.Decimal
