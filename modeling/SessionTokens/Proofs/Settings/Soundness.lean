import SessionTokens.Proofs.Settings.Checks
import SessionTokens.Server

/-!
# Settings that were read are sound

Settings are read with lifetimes that are spans, with a store timeout that is allowed and with a key that is not
blank. So the later checks of the same facts, when a server is set up, never fail (`read_sound`).
-/

namespace SessionTokens

open Text.Decimal (IsNumeral)
open Time (Span)

/-! ## Blank keys -/

theorem KeyMaterial.allBlank_of_read {raw : String} (h : KeyMaterial.read raw = .error .blank) :
    Text.AllBlank raw.toList := by
  unfold KeyMaterial.read at h
  simp only at h
  split at h
  · next hnil => exact Text.trimChars_eq_nil_iff.mp hnil
  · split at h
    · cases h
    · split at h <;> cases h

namespace Settings

variable {env : Environment} {s : Settings}

/-! ## What was read -/

/-- The lifetime is the number of the numeral in the variable, if that is positive and below 2 ^ 63, and the
default otherwise. -/
structure GivesLifetime (env : Environment) (name : String) (default seconds : Nat) : Prop where
  number : ∀ text n, env name = some text → IsNumeral text n → 0 < n → n < 2 ^ 63 → seconds = n
  default : (∀ text n, env name = some text → IsNumeral text n → ¬(0 < n ∧ n < 2 ^ 63)) → seconds = default

/-- What holds of settings that were read in an environment. -/
structure Sound (env : Environment) (s : Settings) : Prop where
  port : IsNumeral ((env portVariable).getD defaultPort) s.port ∧ s.port < 2 ^ 16
  /-- The key has a character that is not white space. -/
  key : ∃ c ∈ s.keyMaterial.toList, Text.isBlank c = false
  access : 1 ≤ s.accessSeconds ∧ s.accessSeconds ≤ 9223372036854775
  refresh : 1 ≤ s.refreshSeconds ∧ s.refreshSeconds ≤ 9223372036854775
  givesAccess : GivesLifetime env accessVariable 900 s.accessSeconds
  givesRefresh : GivesLifetime env refreshVariable 86400 s.refreshSeconds
  storeTimeout : 1 ≤ s.storeTimeout ∧ s.storeTimeout ≤ 3600000

theorem givesLifetime_lifetimeIn (env : Environment) (name : String) (default : Nat) :
    GivesLifetime env name default (lifetimeIn env name default) where
  number text n htext hn hpos hlt := by
    rw [lifetimeIn_of_numeral htext hn]
    exact if_pos ⟨hpos, Nat.le_of_lt_succ hlt⟩
  default h :=
    lifetimeIn_of_not fun text n htext hn hof => h text n htext hn ⟨hof.1, Nat.lt_succ_of_le hof.2⟩

theorem readLifetime_eq_ok {name : String} {default seconds : Nat} (hdefault : 0 < default)
    (h : readLifetime env name default = .ok seconds) :
    (1 ≤ seconds ∧ seconds ≤ longestLifetime) ∧ GivesLifetime env name default seconds := by
  rw [readLifetime_eq] at h
  split at h
  · next hle =>
    cases h
    exact ⟨⟨lifetimeIn_pos hdefault, hle⟩, givesLifetime_lifetimeIn env name default⟩
  · cases h

theorem readStoreTimeout_eq_ok {millis : Nat} (h : readStoreTimeout env = .ok millis) :
    1 ≤ millis ∧ millis ≤ maxStoreTimeout := by
  rw [readStoreTimeout_eq] at h
  split at h
  · cases h
  · cases h
    omega

theorem sound_of_read (h : read env = .ok s) : Sound env s := by
  obtain ⟨hport, -, hkey, haccess, hrefresh, htimeout⟩ := read_eq_ok_iff.mp h
  obtain ⟨hnumeral, hle⟩ := readPort_eq_ok_iff.mp hport
  obtain ⟨-, hblank⟩ := readKey_eq_ok_iff.mp hkey
  obtain ⟨haccess, hgivesAccess⟩ := readLifetime_eq_ok (by decide) haccess
  obtain ⟨hrefresh, hgivesRefresh⟩ := readLifetime_eq_ok (by decide) hrefresh
  refine ⟨⟨hnumeral, Nat.lt_succ_of_le hle⟩, ?_, haccess, hrefresh, hgivesAccess, hgivesRefresh,
    readStoreTimeout_eq_ok htimeout⟩
  simpa [Text.AllBlank] using hblank

/-! ## What follows when a server is set up -/

theorem ofSeconds?_of_le {n : Nat} (h : n ≤ longestLifetime) :
    ∃ d, Span.ofSeconds? n = some d ∧ d.nanos = n * Time.second := by
  obtain ⟨d, hd⟩ := Option.isSome_iff_exists.mp (isSome_ofSeconds?_iff.mpr h)
  refine ⟨d, hd, ?_⟩
  unfold Span.ofSeconds? Span.ofNanos? at hd
  split at hd
  · cases hd
    rfl
  · cases hd

/-- The lifetimes of sound settings are spans of just so many seconds. -/
theorem Sound.lifetimes (h : Sound env s) :
    ∃ l, s.lifetimes? = some l ∧ l.access.nanos = s.accessSeconds * Time.second ∧
      l.refresh.nanos = s.refreshSeconds * Time.second := by
  obtain ⟨access, haccess, hnanos⟩ := ofSeconds?_of_le h.access.2
  obtain ⟨refresh, hrefresh, hnanos'⟩ := ofSeconds?_of_le h.refresh.2
  refine ⟨⟨access, refresh⟩, ?_, hnanos, hnanos'⟩
  unfold lifetimes?
  rw [haccess, hrefresh]
  rfl

theorem Sound.read_key_ne (h : Sound env s) : KeyMaterial.read s.keyMaterial ≠ .error .blank := by
  intro hread
  obtain ⟨c, hc, hblank⟩ := h.key
  rw [KeyMaterial.allBlank_of_read hread c hc] at hblank
  cases hblank

/-- Set up with sound settings, a server fails for a key that is not blank or for its database, if it does. -/
theorem Sound.ofSettings_error (h : Sound env s) {fault : StartFault}
    (hfault : Server.ofSettings s = .error fault) :
    (∃ k, k ≠ .blank ∧ fault = .key k) ∨ ∃ why, fault = .location why := by
  obtain ⟨l, hl, -⟩ := h.lifetimes
  unfold Server.ofSettings at hfault
  rw [hl] at hfault
  cases hkey : KeyMaterial.read s.keyMaterial with
  | error k =>
    rw [hkey] at hfault
    cases hfault
    exact Or.inl ⟨k, fun hblank => h.read_key_ne (hblank ▸ hkey), rfl⟩
  | ok key =>
    rw [hkey, Server.openDatabase] at hfault
    cases hopen : (Location.ofUrl s.databaseUrl).bind Location.prepare with
    | error why =>
      rw [hopen] at hfault
      cases hfault
      exact Or.inr ⟨why, rfl⟩
    | ok _ =>
      rw [hopen] at hfault
      cases hfault

/-! ## The whole -/

/-- **Settings that were read are sound.** Both lifetimes are positive, are spans, and are those that their
variables give; the store timeout is allowed, and the key is not blank. So the lifetimes are spans of just so
many seconds, the key material is not reported as blank, and a server that is set up with the settings fails
for nothing else than another fault of its key or for its database.

Where there are no settings, the fault is that of the first check that fails, whatever the variables of the
later checks hold. -/
theorem read_sound (env : Environment) :
    (∀ s, read env = .ok s →
      Sound env s ∧
      (∃ l, s.lifetimes? = some l ∧ l.access.nanos = s.accessSeconds * Time.second ∧
        l.refresh.nanos = s.refreshSeconds * Time.second) ∧
      KeyMaterial.read s.keyMaterial ≠ .error .blank ∧
      ∀ fault, Server.ofSettings s = .error fault →
        (∃ k, k ≠ .blank ∧ fault = .key k) ∨ ∃ why, fault = .location why) ∧
    (∀ f, read env = .error f →
      ∃ before c after, Check.all = before ++ c :: after ∧ c.Fails env f ∧ ∀ b ∈ before, b.Passes env) ∧
    ∀ before c after f, Check.all = before ++ c :: after → c.Fails env f →
      (∀ b ∈ before, b.Passes env) →
      ∀ env' : Environment, (∀ b ∈ before ++ [c], env' b.source = env b.source) →
        read env' = .error f := by
  refine ⟨fun s hs => ?sound, fun f => read_eq_error_iff.mp, ?first⟩
  case sound =>
    have hsound : Sound env s := sound_of_read hs
    exact ⟨hsound, hsound.lifetimes, hsound.read_key_ne, fun fault => hsound.ofSettings_error⟩
  case first =>
    intro before c after f hall hc hbefore env' hsame
    have hsame_before : ∀ b ∈ before, env' b.source = env b.source :=
      fun b hb => hsame b (List.mem_append_left [c] hb)
    have hsame_c : env' c.source = env c.source := hsame c (List.mem_append_right before List.mem_cons_self)
    refine read_eq_error_iff.mpr ⟨before, c, after, hall, (Check.fails_congr hsame_c).mpr hc, fun b hb => ?_⟩
    exact (Check.passes_congr (hsame_before b hb)).mpr (hbefore b hb)

/-- Settings of a key alone are read with the defaults; and without a key the port does not matter as long as
it is one, nor does any other variable. -/
theorem read_sound_key :
    let env : Environment := fun name => if name = keyVariable then some " k " else none
    (∃ s, read env = .ok s ∧ Sound env s ∧ s.accessSeconds = 900) ∧
      ∀ env' : Environment, env' portVariable = none → env' keyVariable = none →
        read env' = .error .keyMissing := by
  intro env
  constructor
  · have hread : read env = .ok ⟨4100, "sqlite://sessions.db", " k ", 900, 86400, 5000⟩ := by
      decide +kernel
    exact ⟨_, hread, ((read_sound env).1 _ hread).1, rfl⟩
  · intro env' hport hkey
    have hfails : Check.key.Fails (fun _ => none) .keyMissing := ⟨nofun, rfl⟩
    have hpasses : Check.port.Passes (fun _ => none) := Check.passes_iff.mpr (by decide +kernel)
    refine (read_sound fun _ => none).2.2 [.port] .key _ _ rfl hfails ?_ env' ?_
    · simpa using hpasses
    · simp [Check.source, hport, hkey]

end Settings

end SessionTokens
