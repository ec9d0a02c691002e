import SessionTokens.Proofs.Settings.Checks

/-!
# Bounds on the numbers of settings

A numeral in a variable is rejected exactly if its number is read and out of bounds. A number of more than 64
bits, or 63 bits for a lifetime, is not read at all: it gives way to the default, although it is further out of
bounds than any that is rejected (`read_numeral_iff`).
-/

namespace SessionTokens.Settings

open Text.Decimal (IsNumeral)

variable {env : Environment} {text : String} {n : Nat}

/-- With all other checks passed, the one that is left decides. -/
theorem isOk_read_iff_passes {c : Check} (hothers : ∀ b, b ≠ c → b.Passes env) :
    (∃ s, read env = .ok s) ↔ c.Passes env := by
  rw [isOk_read_iff]
  constructor
  · intro h
    exact h c
  · intro hc b
    by_cases hb : b = c
    · exact hb ▸ hc
    · exact hothers b hb

/-- A check of a number passes exactly if there is no number that it fails for. -/
theorem forall_not_fault_iff {bad : Nat → Prop} {fault : Nat → SettingsFault} :
    (∀ f, ¬∃ m, bad m ∧ f = fault m) ↔ ∀ m, ¬bad m := by
  constructor
  · intro h m hm
    exact h (fault m) ⟨m, hm, rfl⟩
  · rintro h f ⟨m, hm, -⟩
    exact h m hm

/-- A lifetime that a numeral spells is accepted unless it is read and too long. -/
theorem not_tooLong_iff {name : String} (htext : env name = some text) (hn : IsNumeral text n) :
    (∀ m, ¬TooLong env name m) ↔ n ≤ longestLifetime ∨ maxReadSeconds < n := by
  constructor
  · intro h
    by_contra hout
    exact h n ⟨text, htext, hn, by omega, by omega⟩
  · rintro hin m ⟨text', htext', hm, hlong, hle⟩
    cases htext.symm.trans htext'
    have hsame : m = n := hm.unique hn
    omega

/-- A store timeout that a numeral spells is accepted unless it is read and not allowed. -/
theorem not_notAllowed_iff (htext : env storeTimeoutVariable = some text) (hn : IsNumeral text n) :
    (∀ m, ¬NotAllowed env m) ↔ (1 ≤ n ∧ n ≤ maxStoreTimeout) ∨ maxReadMillis < n := by
  constructor
  · intro h
    by_contra hout
    exact h n ⟨text, htext, hn, by omega, by omega⟩
  · rintro hin m ⟨text', htext', hm, hle, hbad⟩
    cases htext.symm.trans htext'
    have hsame : m = n := hm.unique hn
    omega

/-! ## Lifetimes -/

/-- What a numeral in the variable of a lifetime leads to: too long a lifetime is rejected if it is below
2 ^ 63, and anything else is accepted, with the default for zero and for what is not below 2 ^ 63. -/
structure LifetimeRule (env : Environment) (n default : Nat) (seconds : Settings → Nat) : Prop where
  accepted : (∃ s, read env = .ok s) ↔ n ≤ 9223372036854775 ∨ 2 ^ 63 ≤ n
  value : ∀ s, read env = .ok s → seconds s = if 0 < n ∧ n < 2 ^ 63 then n else default

theorem lifetimeRule_of_numeral {c : Check} {name : String} {default : Nat} {seconds : Settings → Nat}
    (hothers : ∀ b, b ≠ c → b.Passes env) (htext : env name = some text) (hn : IsNumeral text n)
    (hpasses : c.Passes env ↔ ∀ m, ¬TooLong env name m)
    (hread : ∀ s, read env = .ok s → readLifetime env name default = .ok (seconds s)) :
    LifetimeRule env n default seconds where
  accepted := by
    rw [isOk_read_iff_passes hothers, hpasses, not_tooLong_iff htext hn]
    rfl
  value s hs := by
    have hseconds := hread s hs
    rw [readLifetime_eq] at hseconds
    split at hseconds
    · rw [← Except.ok.inj hseconds, lifetimeIn_of_numeral htext hn]
      exact if_congr (and_congr_right' Nat.lt_succ_iff.symm) rfl rfl
    · cases hseconds

/-! ## The whole -/

/-- **Which numbers settings accept.** Where all other variables are as they should be, a numeral of any length
in the variable of the store timeout is accepted if its number is from 1 to 3600000, and it is the timeout
then; and a numeral in the variable of a lifetime is accepted if its number is at most 9223372036854775, and it
is the lifetime then unless it is zero. Beyond these bounds a number is rejected as long as it has 64 bits or,
for a lifetime, 63 bits; a longer one is accepted, and gives way to the default. -/
theorem read_numeral_iff (env : Environment) (text : String) (n : Nat) (hn : IsNumeral text n) :
    (env storeTimeoutVariable = some text → (∀ b, b ≠ Check.storeTimeout → b.Passes env) →
      ((∃ s, read env = .ok s) ↔ (1 ≤ n ∧ n ≤ 3600000) ∨ 2 ^ 64 ≤ n) ∧
      ∀ s, read env = .ok s → s.storeTimeout = if n < 2 ^ 64 then n else 5000) ∧
    (env accessVariable = some text → (∀ b, b ≠ Check.access → b.Passes env) →
      LifetimeRule env n 900 Settings.accessSeconds) ∧
    (env refreshVariable = some text → (∀ b, b ≠ Check.refresh → b.Passes env) →
      LifetimeRule env n 86400 Settings.refreshSeconds) := by
  refine ⟨fun htext hothers => ⟨?accepted, fun s hs => ?value⟩, fun htext hothers => ?access,
    fun htext hothers => ?refresh⟩
  case accepted =>
    have hpasses : Check.Passes env .storeTimeout ↔ ∀ m, ¬NotAllowed env m := forall_not_fault_iff
    rw [isOk_read_iff_passes hothers, hpasses, not_notAllowed_iff htext hn]
    rfl
  case value =>
    obtain ⟨-, -, -, -, -, htimeout⟩ := read_eq_ok_iff.mp hs
    rw [readStoreTimeout_eq] at htimeout
    split at htimeout
    · cases htimeout
    · rw [← Except.ok.inj htimeout, storeTimeoutIn_of_numeral htext hn]
      exact if_congr Nat.lt_succ_iff.symm rfl rfl
  case access =>
    refine lifetimeRule_of_numeral hothers htext hn forall_not_fault_iff fun s hs => ?_
    obtain ⟨-, -, -, haccess, -⟩ := read_eq_ok_iff.mp hs
    exact haccess
  case refresh =>
    refine lifetimeRule_of_numeral hothers htext hn forall_not_fault_iff fun s hs => ?_
    obtain ⟨-, -, -, -, hrefresh, -⟩ := read_eq_ok_iff.mp hs
    exact hrefresh

/-- A timeout of a quarter of a second is read as it stands, whatever zeros stand in front of it. -/
theorem read_numeral_iff_quarterSecond :
    let env : Environment := fun name =>
      if name = keyVariable then some "k" else if name = storeTimeoutVariable then some "+000250" else none
    ∃ s, read env = .ok s ∧ s.storeTimeout = 250 := by
  intro env
  have hn : IsNumeral "+000250" 250 :=
    (Text.Decimal.readUpTo_eq_ok_iff.mp (show Text.Decimal.readUpTo 250 _ = .ok 250 by decide +kernel)).1
  have hothers : ∀ b, b ≠ Check.storeTimeout → b.Passes env := by
    intro b hb
    refine Check.passes_iff.mpr ?_
    cases b with
    | storeTimeout => exact absurd rfl hb
    | _ => decide +kernel
  obtain ⟨haccepted, hvalue⟩ := (read_numeral_iff env "+000250" 250 hn).1 rfl hothers
  obtain ⟨s, hs⟩ := haccepted.mpr (Or.inl (by decide))
  exact ⟨s, hs, hvalue s hs⟩

/-- **A number that is too long to be read gives way to the default.** The first number of 65 bits is no fault of
the store timeout, and the first one of 64 bits is none of a lifetime. -/
theorem overlong_number_replaced :
    let timeoutEnv : Environment := fun name =>
      if name = keyVariable then some "k"
      else if name = storeTimeoutVariable then some "18446744073709551616" else none
    let accessEnv : Environment := fun name =>
      if name = keyVariable then some "k"
      else if name = accessVariable then some "9223372036854775808" else none
    (IsNumeral "18446744073709551616" 18446744073709551616 ∧
      ∃ s, read timeoutEnv = .ok s ∧ s.storeTimeout = 5000) ∧
    (IsNumeral "9223372036854775808" 9223372036854775808 ∧
      ∃ s, read accessEnv = .ok s ∧ s.accessSeconds = 900) := by
  intro timeoutEnv accessEnv
  have hread : read timeoutEnv = .ok ⟨4100, "sqlite://sessions.db", "k", 900, 86400, 5000⟩ := by
    decide +kernel
  have hread' : read accessEnv = .ok ⟨4100, "sqlite://sessions.db", "k", 900, 86400, 5000⟩ := by
    decide +kernel
  refine ⟨⟨?_, _, hread, rfl⟩, ?_, _, hread', rfl⟩
  · exact (Text.Decimal.readUpTo_eq_ok_iff.mp
      (show Text.Decimal.readUpTo 18446744073709551616 _ = .ok 18446744073709551616 by decide +kernel)).1
  · exact (Text.Decimal.readUpTo_eq_ok_iff.mp
      (show Text.Decimal.readUpTo 9223372036854775808 _ = .ok 9223372036854775808 by decide +kernel)).1

end SessionTokens.Settings
