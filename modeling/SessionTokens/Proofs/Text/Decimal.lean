import Mathlib.Algebra.Group.Nat.Defs
import Mathlib.Data.List.Induction
import SessionTokens.Text.Decimal

/-!
# Numerals are read back

Numerals of a fixed number of digits (`valueOf_fixed`), and numerals with at least so many digits
(`valueOf_atLeast`), consist of digits and stand for the number that was written.
-/

namespace SessionTokens.Text.Decimal

/-! ## Digits -/

theorem value?_digit {n : Nat} (h : n < 10) : value? (digit n) = some n := by
  revert n
  decide

theorem isDigit_digit {n : Nat} (h : n < 10) : isDigit (digit n) = true := by
  rw [isDigit, value?_digit h]
  rfl

theorem value?_of_isDigit {c : Char} (h : isDigit c = true) : value? c = some (c.toNat - 48) := by
  unfold isDigit value? at *
  simp only at *
  split
  · rfl
  · simp_all

/-- The class of digits of the core library is this one. -/
theorem isDigit_of_core {c : Char} (h : c.isDigit = true) : isDigit c = true := by
  have hc : 48 ≤ c.toNat ∧ c.toNat ≤ 57 := by
    simp only [Char.isDigit, Bool.and_eq_true, decide_eq_true_eq, ge_iff_le,
      UInt32.le_iff_toNat_le] at h
    exact h
  rw [isDigit, value?, if_pos hc]
  rfl

theorem valueOf_append (l : List Char) (c : Char) :
    valueOf (l ++ [c]) = 10 * valueOf l + (value? c).getD 0 := by
  simp [valueOf]

/-! ## Numerals of a fixed number of digits -/

@[simp] theorem length_fixed (width n : Nat) : (fixed width n).length = width := by
  induction width generalizing n with
  | zero => rfl
  | succ width ih => simp [fixed, ih]

theorem isDigit_of_mem_fixed (width n : Nat) : ∀ c ∈ fixed width n, isDigit c = true := by
  induction width generalizing n with
  | zero => simp [fixed]
  | succ width ih =>
    intro c hc
    rcases List.mem_append.mp hc with hc | hc
    · exact ih _ c hc
    · rw [List.mem_singleton.mp hc]
      exact isDigit_digit (Nat.mod_lt n (by decide))

theorem valueOf_fixed_mod (width n : Nat) : valueOf (fixed width n) = n % 10 ^ width := by
  induction width generalizing n with
  | zero => simp [fixed, valueOf, Nat.mod_one]
  | succ width ih =>
    rw [fixed, valueOf_append, ih, value?_digit (Nat.mod_lt n (by decide)), Option.getD_some,
      Nat.pow_succ', Nat.mod_mul]
    omega

/-- A number that fits is read back from its digits. -/
theorem valueOf_fixed {width n : Nat} (h : n < 10 ^ width) : valueOf (fixed width n) = n := by
  rw [valueOf_fixed_mod, Nat.mod_eq_of_lt h]

/-- A digit is the one for the number that it stands for. -/
theorem digit_of_isDigit {c : Char} (h : isDigit c = true) : digit ((value? c).getD 0) = c ∧
    (value? c).getD 0 < 10 := by
  have hvalue := value?_of_isDigit h
  unfold value? at hvalue
  simp only at hvalue
  split at hvalue
  · next hc =>
    rw [value?_of_isDigit h, Option.getD_some, digit, Nat.add_sub_cancel' hc.1, Char.ofNat_toNat]
    exact ⟨rfl, by omega⟩
  · cases hvalue

/-- Digits are those of the number that they stand for. -/
theorem fixed_valueOf {l : List Char} (h : ∀ c ∈ l, isDigit c = true) : fixed l.length (valueOf l) = l := by
  induction l using List.reverseRecOn with
  | nil => rfl
  | append_singleton l c ih =>
    obtain ⟨hc, hlt⟩ := digit_of_isDigit (h c (by simp))
    have hl : ∀ d ∈ l, isDigit d = true := fun d hd => h d (List.mem_append_left [c] hd)
    rw [List.length_append, List.length_singleton, fixed, valueOf_append, Nat.mul_add_div (by decide),
      Nat.mul_add_mod, Nat.div_eq_of_lt hlt, Nat.mod_eq_of_lt hlt, Nat.add_zero, ih hl, hc]

theorem valueOf_lt {l : List Char} (h : ∀ c ∈ l, isDigit c = true) : valueOf l < 10 ^ l.length := by
  rw [← fixed_valueOf h, valueOf_fixed_mod, length_fixed]
  exact Nat.mod_lt _ (Nat.pow_pos (by decide))

/-! ## Numerals with at least so many digits -/

theorem isDigit_of_mem_atLeast (width n : Nat) : ∀ c ∈ atLeast width n, isDigit c = true := by
  intro c hc
  rcases List.mem_append.mp hc with hc | hc
  · rw [List.eq_of_mem_replicate hc]
    decide
  · exact isDigit_of_core (Nat.isDigit_of_mem_toDigits (by decide) (by decide) hc)

theorem atLeast_ne_nil (width n : Nat) : atLeast width n ≠ [] := by
  unfold atLeast
  intro h
  exact Nat.toDigits_ne_nil (List.append_eq_nil_iff.mp h).2

theorem foldl_eq_ofDigitChars {l : List Char} (h : ∀ c ∈ l, isDigit c = true) (n : Nat) :
    l.foldl (fun n c => 10 * n + (value? c).getD 0) n = Nat.ofDigitChars 10 l n := by
  induction l generalizing n with
  | nil => rfl
  | cons c r ih =>
    rw [List.foldl_cons, Nat.ofDigitChars_cons, value?_of_isDigit (h c List.mem_cons_self)]
    exact ih (fun d hd => h d (List.mem_cons_of_mem c hd)) _

/-- A number is read back from its digits, however many zeros stand in front of them. -/
theorem valueOf_atLeast (width n : Nat) : valueOf (atLeast width n) = n := by
  rw [valueOf, foldl_eq_ofDigitChars (isDigit_of_mem_atLeast width n), atLeast, Nat.ofDigitChars_append,
    Nat.ofDigitChars_replicate_zero, Nat.mul_zero, Nat.ofDigitChars_ten_toDigits]

end SessionTokens.Text.Decimal
