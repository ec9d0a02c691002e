import SessionTokens.Proofs.Except
import SessionTokens.Proofs.Text.Blank
import SessionTokens.Proofs.Text.Numeral
import SessionTokens.Settings

/-!
# The checks of the settings

Five checks are made, each of one variable, in the order of port, key, access lifetime, refresh lifetime and
store timeout. What a check fails for is said by the numerals and the white space in its variable
(`Check.Fails`). Settings are read exactly if no check fails, and otherwise the fault is that of the first
check that does (`isOk_read_iff`, `read_eq_error_iff`).
-/

namespace SessionTokens.Settings

open Text.Decimal (IsNumeral)
open Time (Span)

/-- The longest lifetime that is a span, in seconds. -/
def longestLifetime : Nat := 9223372036854775

variable {env : Environment} {name : String} {default n : Nat} {f : SettingsFault}

/-! ## Numbers in variables -/

theorem number?_eq_some_iff {bound : Nat} :
    number? env name bound = some n ↔ ∃ text, env name = some text ∧ IsNumeral text n ∧ n ≤ bound := by
  unfold number?
  rw [Option.bind_eq_some_iff]
  refine exists_congr fun text => and_congr_right fun _ => ?_
  rw [← Text.Decimal.readUpTo_eq_ok_iff]
  cases Text.Decimal.readUpTo bound text <;> simp [Except.toOption]

theorem number?_of_numeral {bound : Nat} {text : String} (htext : env name = some text)
    (hn : IsNumeral text n) : number? env name bound = if n ≤ bound then some n else none := by
  split
  · next hle => exact number?_eq_some_iff.mpr ⟨text, htext, hn, hle⟩
  · next hlt =>
    rw [Option.eq_none_iff_forall_ne_some]
    intro m hm
    obtain ⟨text', htext', hm, hle⟩ := number?_eq_some_iff.mp hm
    cases htext.symm.trans htext'
    exact hlt (hn.unique hm ▸ hle)

/-! ## Lifetimes -/

/-- So many seconds are a span exactly if they are not too many. -/
theorem isSome_ofSeconds?_iff : (Span.ofSeconds? n).isSome ↔ n ≤ longestLifetime := by
  simp only [Span.ofSeconds?, Span.ofNanos?, Time.maxSpan, Time.second, longestLifetime]
  split
  · simp only [Option.isSome_some, true_iff]
    omega
  · simp only [Option.isSome_none, Bool.false_eq_true, false_iff]
    omega

/-- The lifetime in a variable, or the default where it gives none. -/
def lifetimeIn (env : Environment) (name : String) (default : Nat) : Nat :=
  ((number? env name maxReadSeconds).filter (0 < ·)).getD default

/-- A numeral gives the lifetime, unless it is zero or beyond what is read as a number. -/
theorem lifetimeIn_of_numeral {text : String} (htext : env name = some text) (hn : IsNumeral text n) :
    lifetimeIn env name default = if 0 < n ∧ n ≤ maxReadSeconds then n else default := by
  rw [lifetimeIn, number?_of_numeral htext hn]
  by_cases hle : n ≤ maxReadSeconds
  · by_cases hpos : 0 < n <;> simp [hle, hpos, Option.filter_some]
  · simp [hle]

/-- Where there is no numeral of use, the default is the lifetime. -/
theorem lifetimeIn_of_not (h : ∀ text n, env name = some text → IsNumeral text n →
    ¬(0 < n ∧ n ≤ maxReadSeconds)) : lifetimeIn env name default = default := by
  unfold lifetimeIn
  cases hnumber : number? env name maxReadSeconds with
  | none => rfl
  | some n =>
    obtain ⟨text, htext, hn, hle⟩ := number?_eq_some_iff.mp hnumber
    have hzero : ¬0 < n := fun hpos => h text n htext hn ⟨hpos, hle⟩
    simp [hzero, Option.filter_some]

theorem lifetimeIn_pos (hdefault : 0 < default) : 0 < lifetimeIn env name default := by
  unfold lifetimeIn
  cases hfilter : (number? env name maxReadSeconds).filter (0 < ·) with
  | none => exact hdefault
  | some n => simpa using (Option.filter_eq_some_iff.mp hfilter).2

theorem readLifetime_eq (env : Environment) (name : String) (default : Nat) :
    readLifetime env name default =
      if lifetimeIn env name default ≤ longestLifetime then .ok (lifetimeIn env name default)
      else .error (.lifetime name (lifetimeIn env name default)) := by
  simp only [← isSome_ofSeconds?_iff]
  rfl

/-- The variable holds a numeral that is read as a number and is too long a lifetime. -/
def TooLong (env : Environment) (name : String) (n : Nat) : Prop :=
  ∃ text, env name = some text ∧ IsNumeral text n ∧ longestLifetime < n ∧ n ≤ maxReadSeconds

theorem readLifetime_eq_error_iff (hdefault : default ≤ longestLifetime) :
    readLifetime env name default = .error f ↔ ∃ n, TooLong env name n ∧ f = .lifetime name n := by
  rw [readLifetime_eq]
  constructor
  · intro h
    split at h
    · cases h
    · next hlong =>
      cases h
      -- the default is not too long, so that the lifetime is the number of a numeral
      refine ⟨_, ?_, rfl⟩
      by_contra hnone
      refine hlong (Nat.le_trans (Nat.le_of_eq (lifetimeIn_of_not fun text n htext hn hof => ?_)) hdefault)
      rw [lifetimeIn_of_numeral htext hn, if_pos hof] at hlong hnone
      exact hnone ⟨text, htext, hn, Nat.lt_of_not_le hlong, hof.2⟩
  · rintro ⟨n, ⟨text, htext, hn, hlong, hle⟩, rfl⟩
    have hgiven : lifetimeIn env name default = n := by
      rw [lifetimeIn_of_numeral htext hn, if_pos ⟨Nat.zero_lt_of_lt hlong, hle⟩]
    rw [hgiven, if_neg (Nat.not_le_of_lt hlong)]

/-! ## The store timeout -/

/-- The store timeout in its variable, or the default where it gives none. -/
def storeTimeoutIn (env : Environment) : Nat :=
  (number? env storeTimeoutVariable maxReadMillis).getD defaultStoreTimeout

/-- A numeral gives the store timeout, unless it is beyond what is read as a number. -/
theorem storeTimeoutIn_of_numeral {text : String} (htext : env storeTimeoutVariable = some text)
    (hn : IsNumeral text n) :
    storeTimeoutIn env = if n ≤ maxReadMillis then n else defaultStoreTimeout := by
  rw [storeTimeoutIn, number?_of_numeral htext hn]
  split <;> rfl

theorem readStoreTimeout_eq (env : Environment) :
    readStoreTimeout env =
      if storeTimeoutIn env = 0 ∨ maxStoreTimeout < storeTimeoutIn env then
        .error (.storeTimeout (storeTimeoutIn env))
      else .ok (storeTimeoutIn env) := rfl

/-- The variable holds a numeral that is read as a number and is no timeout that is allowed. -/
def NotAllowed (env : Environment) (n : Nat) : Prop :=
  ∃ text, env storeTimeoutVariable = some text ∧ IsNumeral text n ∧ n ≤ maxReadMillis ∧
    (n = 0 ∨ maxStoreTimeout < n)

theorem readStoreTimeout_eq_error_iff :
    readStoreTimeout env = .error f ↔ ∃ n, NotAllowed env n ∧ f = .storeTimeout n := by
  rw [readStoreTimeout_eq]
  constructor
  · intro h
    split at h
    · next hbad =>
      cases h
      refine ⟨_, ?_, rfl⟩
      unfold storeTimeoutIn at hbad ⊢
      cases hnumber : number? env storeTimeoutVariable maxReadMillis with
      | none =>
        rw [hnumber] at hbad
        exact absurd hbad (by decide)
      | some n =>
        rw [hnumber] at hbad
        obtain ⟨text, htext, hn, hle⟩ := number?_eq_some_iff.mp hnumber
        exact ⟨text, htext, hn, hle, hbad⟩
    · cases h
  · rintro ⟨n, ⟨text, htext, hn, hle, hbad⟩, rfl⟩
    rw [storeTimeoutIn_of_numeral htext hn, if_pos hle, if_pos hbad]

/-! ## The port and the key -/

theorem readPort_eq_ok_iff :
    readPort env = .ok n ↔ IsNumeral ((env portVariable).getD defaultPort) n ∧ n ≤ maxPort := by
  rw [← Text.Decimal.readUpTo_eq_ok_iff, readPort]
  cases Text.Decimal.readUpTo maxPort ((env portVariable).getD defaultPort) <;> simp

theorem readKey_eq_ok_iff {key : String} :
    readKey env = .ok key ↔ env keyVariable = some key ∧ ¬Text.AllBlank key.toList := by
  unfold readKey
  cases hkey : env keyVariable with
  | none => simp
  | some text =>
    simp only [Option.some.injEq]
    split
    · next hblank =>
      refine iff_of_false nofun ?_
      rintro ⟨rfl, hkey⟩
      exact hkey (Text.trim_eq_empty_iff.mp hblank)
    · next hblank =>
      rw [Text.trim_eq_empty_iff] at hblank
      constructor
      · rintro ⟨⟩
        exact ⟨rfl, hblank⟩
      · rintro ⟨rfl, -⟩
        rfl

theorem readKey_eq_error_iff :
    readKey env = .error f ↔
      (∀ text, env keyVariable = some text → Text.AllBlank text.toList) ∧ f = .keyMissing := by
  unfold readKey
  cases hkey : env keyVariable with
  | none => simp [eq_comm]
  | some text =>
    simp only [Option.some.injEq, forall_eq', ← Text.trim_eq_empty_iff]
    split
    · next hblank => simp [hblank, eq_comm]
    · next hblank => simp [hblank]

/-! ## Checks in their order -/

/-- A check of one variable. -/
inductive Check where
  /-- The port is a number of sixteen bits. -/
  | port
  /-- There is a key. -/
  | key
  /-- The lifetime of access tokens is a span. -/
  | access
  /-- The lifetime of refresh tokens is a span. -/
  | refresh
  /-- The store timeout is allowed. -/
  | storeTimeout
deriving DecidableEq

namespace Check

/-- The checks in the order in which they are made. -/
def all : List Check :=
  [port, key, access, refresh, storeTimeout]

/-- The variable that a check looks at. -/
def source : Check → String
  | port => portVariable
  | key => keyVariable
  | access => accessVariable
  | refresh => refreshVariable
  | storeTimeout => storeTimeoutVariable

/-- The check fails with a fault. -/
def Fails (env : Environment) : Check → SettingsFault → Prop
  | port, f => ∃ fault,
      Text.Decimal.readUpTo maxPort ((env portVariable).getD defaultPort) = .error fault ∧ f = .port fault
  | key, f => (∀ text, env keyVariable = some text → Text.AllBlank text.toList) ∧ f = .keyMissing
  | access, f => ∃ n, TooLong env accessVariable n ∧ f = .lifetime accessVariable n
  | refresh, f => ∃ n, TooLong env refreshVariable n ∧ f = .lifetime refreshVariable n
  | storeTimeout, f => ∃ n, NotAllowed env n ∧ f = .storeTimeout n

/-- The check does not fail. -/
def Passes (env : Environment) (c : Check) : Prop :=
  ∀ f, ¬c.Fails env f

/-- The fault of a result. -/
def faultOf? {α : Type} : Except SettingsFault α → Option SettingsFault
  | .ok _ => none
  | .error f => some f

theorem faultOf?_eq_some_iff {α : Type} {r : Except SettingsFault α} :
    faultOf? r = some f ↔ r = .error f := by
  cases r <;> simp [faultOf?]

/-- Behind a step that does not fail, the fault is that of the rest. -/
theorem faultOf?_bind {α β : Type} {x : Except SettingsFault α} {g : α → Except SettingsFault β}
    {rest : Option SettingsFault} (h : ∀ a, faultOf? (g a) = rest) :
    faultOf? (x >>= g) = (faultOf? x).or rest := by
  cases x with
  | error e => rfl
  | ok a => exact h a

/-- The fault with which a check fails, if it does. -/
def fault? (env : Environment) : Check → Option SettingsFault
  | port => faultOf? (readPort env)
  | key => faultOf? (readKey env)
  | access => faultOf? (readLifetime env accessVariable defaultAccessSeconds)
  | refresh => faultOf? (readLifetime env refreshVariable defaultRefreshSeconds)
  | storeTimeout => faultOf? (readStoreTimeout env)

variable {c : Check}

theorem fails_iff : c.Fails env f ↔ c.fault? env = some f := by
  cases c with
  | port =>
    rw [fault?, faultOf?_eq_some_iff, readPort, Fails]
    cases Text.Decimal.readUpTo maxPort ((env portVariable).getD defaultPort) <;> simp [eq_comm]
  | key => rw [fault?, faultOf?_eq_some_iff, readKey_eq_error_iff, Fails]
  | access => rw [fault?, faultOf?_eq_some_iff, readLifetime_eq_error_iff (by decide), Fails]
  | refresh => rw [fault?, faultOf?_eq_some_iff, readLifetime_eq_error_iff (by decide), Fails]
  | storeTimeout => rw [fault?, faultOf?_eq_some_iff, readStoreTimeout_eq_error_iff, Fails]

theorem passes_iff : c.Passes env ↔ c.fault? env = none := by
  rw [Passes, Option.eq_none_iff_forall_ne_some]
  exact forall_congr' fun f => not_congr fails_iff

/-- A check looks at its variable and at nothing else. -/
theorem fails_congr {env' : Environment} (h : env' c.source = env c.source) :
    c.Fails env' f ↔ c.Fails env f := by
  cases c with
  | port => simp only [Fails, show env' portVariable = env portVariable from h]
  | key => simp only [Fails, show env' keyVariable = env keyVariable from h]
  | access => simp only [Fails, TooLong, show env' accessVariable = env accessVariable from h]
  | refresh => simp only [Fails, TooLong, show env' refreshVariable = env refreshVariable from h]
  | storeTimeout =>
    simp only [Fails, NotAllowed, show env' storeTimeoutVariable = env storeTimeoutVariable from h]

theorem passes_congr {env' : Environment} (h : env' c.source = env c.source) :
    c.Passes env' ↔ c.Passes env :=
  forall_congr' fun _ => not_congr (fails_congr h)

end Check

/-! ## The whole -/

theorem read_eq_ok_iff {s : Settings} :
    read env = .ok s ↔
      readPort env = .ok s.port ∧ s.databaseUrl = (env databaseVariable).getD defaultDatabaseUrl ∧
        readKey env = .ok s.keyMaterial ∧
        readLifetime env accessVariable defaultAccessSeconds = .ok s.accessSeconds ∧
        readLifetime env refreshVariable defaultRefreshSeconds = .ok s.refreshSeconds ∧
        readStoreTimeout env = .ok s.storeTimeout := by
  simp only [read, bind_eq_ok_iff, pure_eq_ok_iff]
  constructor
  · rintro ⟨port, hport, key, hkey, access, haccess, refresh, hrefresh, storeTimeout, htimeout, rfl⟩
    exact ⟨hport, rfl, hkey, haccess, hrefresh, htimeout⟩
  · rintro ⟨hport, hurl, hkey, haccess, hrefresh, htimeout⟩
    exact ⟨_, hport, _, hkey, _, haccess, _, hrefresh, _, htimeout, by rw [← hurl]⟩

/-- The checks are made one after the other, and the first fault ends the reading. -/
theorem faultOf?_read (env : Environment) :
    Check.faultOf? (read env) = Check.all.findSome? (Check.fault? env) := by
  have hcons (c : Check) (r : List Check) :
      (c :: r).findSome? (Check.fault? env) = (c.fault? env).or (r.findSome? (Check.fault? env)) := by
    rw [List.findSome?_cons]
    cases c.fault? env <;> rfl
  rw [Check.all, hcons, hcons, hcons, hcons, hcons, List.findSome?_nil]
  refine Check.faultOf?_bind fun port => Check.faultOf?_bind fun key => ?_
  refine Check.faultOf?_bind fun access => Check.faultOf?_bind fun refresh => ?_
  exact Check.faultOf?_bind fun storeTimeout => rfl

/-- **The fault is that of the first check that fails.** -/
theorem read_eq_error_iff :
    read env = .error f ↔
      ∃ before c after, Check.all = before ++ c :: after ∧ c.Fails env f ∧ ∀ b ∈ before, b.Passes env := by
  rw [← Check.faultOf?_eq_some_iff, faultOf?_read, List.findSome?_eq_some_iff]
  simp only [Check.fails_iff, Check.passes_iff]

/-- **Settings are read where no check fails.** -/
theorem isOk_read_iff : (∃ s, read env = .ok s) ↔ ∀ c : Check, c.Passes env := by
  have hnone : (∀ c : Check, c.Passes env) ↔ Check.all.findSome? (Check.fault? env) = none := by
    rw [List.findSome?_eq_none_iff]
    simp only [Check.passes_iff]
    exact ⟨fun h c _ => h c, fun h c => h c (by cases c <;> decide)⟩
  rw [hnone, Option.eq_none_iff_forall_ne_some]
  simp only [ne_eq, ← faultOf?_read, Check.faultOf?_eq_some_iff]
  cases read env <;> simp

end SessionTokens.Settings
