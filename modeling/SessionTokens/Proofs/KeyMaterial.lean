import SessionTokens.KeyMaterial
import SessionTokens.Proofs.Text.Blank
import SessionTokens.Proofs.Text.Hex
import SessionTokens.Proofs.Text.Padding
import SessionTokens.Proofs.Text.Utf8

/-!
# Key material has one reading

A text spells at most one key in at most one form, since the forms differ in the number of their characters
(`Form.unique`). What is read is the key that the trimmed text spells, and where it spells none, the error is
told by an outline of the text alone (`read_exact`).
-/

namespace SessionTokens

open Crypto (SealingKey)
open Text (Hex.encode Base64.encode Base64.encodePadded AllBlank trim)

theorem Crypto.SealingKey.ofBytes?_eq_some_iff {b : Bytes} {key : SealingKey} :
    SealingKey.ofBytes? b = some key ↔ b = key.bytes := by
  unfold SealingKey.ofBytes?
  constructor
  · intro h
    split at h
    · cases h
      rfl
    · cases h
  · rintro rfl
    exact dif_pos key.length_bytes

theorem Crypto.SealingKey.eq_of_bytes {key other : SealingKey} (h : key.bytes = other.bytes) :
    key = other := by
  cases key
  cases other
  cases h
  rfl

namespace KeyMaterial

/-! ## The forms -/

/-- The forms of key material. -/
inductive Form where
  /-- Hexadecimal digits in either case. -/
  | hex
  /-- URL-safe base64 without padding. -/
  | urlSafe
  /-- Standard base64 with padding. -/
  | padded
  /-- The bytes of the text. -/
  | raw
deriving DecidableEq

namespace Form

/-- The text spells the key in a form. -/
def Spells : Form → SealingKey → String → Prop
  | hex, key, s => s.toList.map Char.toLower = Hex.encode key.bytes
  | urlSafe, key, s => s.toList = Base64.encode Text.Base64.urlSafe key.bytes
  | padded, key, s => s.toList = Base64.encodePadded Text.Base64.standard key.bytes
  | raw, key, s => Text.Utf8.encode s = key.bytes

/-- The bytes of a text that is read in a form. -/
def bytes? : Form → List Char → Option Bytes
  | hex, l => hexBytes? l
  | urlSafe, l => Text.Base64.decode? Text.Base64.urlSafe l
  | padded, l => Text.Base64.decodePadded? Text.Base64.standard l
  | raw, l => some (Text.Utf8.encode (String.ofList l))

/-- A text of so many characters can be in a form. -/
def Admits : Form → Nat → Prop
  | hex, n => n = 64
  | urlSafe, n => n = 43
  | padded, n => n = 44
  | raw, n => n ≤ 32

variable {form other : Form} {key k : SealingKey} {s : String}

theorem length_of_spells_hex (h : hex.Spells key s) : s.toList.length = 64 := by
  rw [← List.length_map Char.toLower, show s.toList.map Char.toLower = _ from h, Text.Hex.length_encode,
    key.length_bytes]

/-- **Each form has its own lengths.** -/
theorem admits_of_spells (h : form.Spells key s) : form.Admits s.toList.length := by
  cases form with
  | hex => exact length_of_spells_hex h
  | urlSafe =>
    rw [show s.toList = _ from h, Text.Base64.length_encode, key.length_bytes]
    rfl
  | padded =>
    rw [show s.toList = _ from h, Text.Base64.length_encodePadded, key.length_bytes]
    rfl
  | raw =>
    have hle := Text.Utf8.length_le_encodeChars s.toList
    rw [← Text.Utf8.encode_eq_encodeChars, show Text.Utf8.encode s = _ from h, key.length_bytes] at hle
    exact hle

theorem eq_of_admits {n : Nat} (h : form.Admits n) (h' : other.Admits n) : form = other := by
  cases form <;> cases other <;> first | rfl | (simp only [Admits] at h h'; omega)

/-- What a text spells in a form is what is read from it in that form. -/
theorem spells_iff : form.Spells key s ↔ form.bytes? s.toList = some key.bytes := by
  cases form with
  | hex =>
    constructor
    · intro h
      rw [bytes?, hexBytes?, if_pos (length_of_spells_hex h)]
      exact Text.Hex.decode?_eq_some_iff.mpr h
    · intro h
      rw [bytes?, hexBytes?] at h
      split at h
      · exact Text.Hex.decode?_eq_some_iff.mp h
      · cases h
  | urlSafe => exact eq_comm.trans (Text.Base64.decode?_eq_some_iff Text.Base64.proper_urlSafe).symm
  | padded =>
    exact eq_comm.trans (Text.Base64.decodePadded?_eq_some_iff Text.Base64.proper_standard).symm
  | raw => rw [bytes?, String.ofList_toList, Option.some.injEq, Spells]

/-- **No text spells a key in two forms, or two keys.** -/
theorem unique (h : form.Spells key s) (h' : other.Spells k s) : form = other ∧ key = k := by
  have hform : form = other := eq_of_admits (admits_of_spells h) (admits_of_spells h')
  subst hform
  have hbytes := (spells_iff.mp h).symm.trans (spells_iff.mp h')
  exact ⟨rfl, SealingKey.eq_of_bytes (Option.some.inj hbytes)⟩

/-! ## White space -/

theorem isBlank_of_isDigit {c : Char} (h : Text.Hex.isDigit c = true) : Text.isBlank c = false := by
  obtain ⟨n, hn⟩ := Option.isSome_iff_exists.mp h
  have hall : Text.Hex.isDigit c = true → Text.isBlank c = false :=
    Text.Hex.of_forall_ofNat (p := fun c => Text.Hex.isDigit c = true → Text.isBlank c = false) (by decide)
      (Text.Hex.toNat_lt_of_value? hn)
  exact hall h

theorem isBlank_of_mem_encode {a : Text.Base64.Alphabet}
    (ha : ∀ n < 64, Text.isBlank (a.symbol n) = false) {b : Bytes} {c : Char}
    (hc : c ∈ Base64.encode a b) : Text.isBlank c = false := by
  obtain ⟨n, hn, rfl⟩ := List.mem_map.mp hc
  exact ha n (Text.Base64.sextets_lt b n hn)

/-- There is no white space in hexadecimal digits, nor in base64. -/
theorem isBlank_of_spells (h : form.Spells key s) (hform : form ≠ raw) :
    ∀ c ∈ s.toList, Text.isBlank c = false := by
  intro c hc
  cases form with
  | hex => exact isBlank_of_isDigit (Text.Hex.isDigit_of_mem (Text.Hex.decode?_eq_some_iff.mpr h) hc)
  | urlSafe =>
    rw [show s.toList = _ from h] at hc
    exact isBlank_of_mem_encode (by decide +kernel) hc
  | padded =>
    rw [show s.toList = _ from h, Base64.encodePadded] at hc
    rcases List.mem_append.mp hc with hc | hc
    · exact isBlank_of_mem_encode (by decide +kernel) hc
    · rw [List.eq_of_mem_replicate hc]
      decide
  | raw => exact absurd rfl hform

theorem trim_of_spells (h : form.Spells key s) (hraw : form = raw → trim s = s) : trim s = s := by
  by_cases hform : form = raw
  · exact hraw hform
  · exact Text.trim_of_isBlank (isBlank_of_spells h hform)

theorem spells_hex (key : SealingKey) : hex.Spells key (String.ofList (Hex.encode key.bytes)) := by
  rw [Spells, String.toList_ofList, Text.Hex.toLower_encode]

theorem spells_urlSafe (key : SealingKey) :
    urlSafe.Spells key (String.ofList (Base64.encode Text.Base64.urlSafe key.bytes)) :=
  String.toList_ofList

theorem spells_padded (key : SealingKey) :
    padded.Spells key (String.ofList (Base64.encodePadded Text.Base64.standard key.bytes)) :=
  String.toList_ofList

end Form

/-! ## Errors -/

/-- What an error tells of a text. -/
structure Outline where
  /-- There is nothing but white space. -/
  blank : Bool
  /-- How many bytes there are without the white space around them. -/
  byteLength : Nat
  /-- How many bytes the text stands for as base64, if it is base64. -/
  decodedLength? : Option Nat
deriving DecidableEq

/-- The outline of a text. -/
def outline (raw : String) : Outline where
  blank := trim raw = ""
  byteLength := (Text.Utf8.encode (trim raw)).length
  decodedLength? := (base64Bytes? (trim raw).toList).map List.length

/-- The fault of a text that has the outline and is no key. -/
def Outline.fault (o : Outline) : KeyFault :=
  if o.blank then .blank
  else
    match o.decodedLength? with
    | some n => .decodedLength n
    | none => .unrecognized o.byteLength

/-! ## Reading -/

/-- The key that is found in a text by trying the forms in turn. -/
def found? (l : List Char) : Option SealingKey :=
  ((hexBytes? l).bind SealingKey.ofBytes?).or
    (((base64Bytes? l).bind SealingKey.ofBytes?).or
      (SealingKey.ofBytes? (Text.Utf8.encode (String.ofList l))))

variable {form : Form} {key : SealingKey} {s : String}

theorem spells_of_found? (h : found? s.toList = some key) : ∃ form : Form, form.Spells key s := by
  unfold found? base64Bytes? at h
  simp only [Option.or_eq_some_iff, Option.bind_eq_some_iff, SealingKey.ofBytes?_eq_some_iff] at h
  rcases h with ⟨b, hb, rfl⟩ | ⟨-, ⟨b, hb | ⟨-, hb⟩, rfl⟩ | ⟨-, hb⟩⟩
  · exact ⟨.hex, Form.spells_iff.mpr hb⟩
  · exact ⟨.urlSafe, Form.spells_iff.mpr hb⟩
  · exact ⟨.padded, Form.spells_iff.mpr hb⟩
  · exact ⟨.raw, Form.spells_iff.mpr (congrArg some hb)⟩

theorem decode?_of_spells_padded (h : Form.padded.Spells key s) :
    Text.Base64.decode? Text.Base64.urlSafe s.toList = none := by
  have hmem : '=' ∈ s.toList := by
    rw [show s.toList = _ from h, Base64.encodePadded]
    refine List.mem_append_right _ (List.mem_replicate.mpr ⟨?_, rfl⟩)
    rw [Text.Base64.length_encode, key.length_bytes]
    decide
  by_contra hne
  obtain ⟨b, hb⟩ := Option.ne_none_iff_exists'.mp hne
  exact Text.Base64.padding_notMem Text.Base64.proper_urlSafe hb hmem

/-- A text that spells a key is not passed over. -/
theorem isSome_found? (h : form.Spells key s) : (found? s.toList).isSome := by
  have hkey : SealingKey.ofBytes? key.bytes = some key := SealingKey.ofBytes?_eq_some_iff.mpr rfl
  have hbytes := Form.spells_iff.mp h
  unfold found?
  rw [Option.isSome_or, Option.isSome_or, Bool.or_eq_true, Bool.or_eq_true]
  cases form with
  | hex =>
    rw [show hexBytes? s.toList = _ from hbytes, Option.bind_some, hkey]
    exact Or.inl rfl
  | urlSafe =>
    rw [base64Bytes?, show Text.Base64.decode? _ s.toList = _ from hbytes, Option.some_or, Option.bind_some,
      hkey]
    exact Or.inr (Or.inl rfl)
  | padded =>
    -- a text of 44 symbols could be read without padding, were it not for the padding
    rw [base64Bytes?, decode?_of_spells_padded h, Option.none_or,
      show Text.Base64.decodePadded? _ s.toList = _ from hbytes, Option.bind_some, hkey]
    exact Or.inr (Or.inl rfl)
  | raw =>
    rw [show Text.Utf8.encode (String.ofList s.toList) = _ from Option.some.inj hbytes, hkey]
    exact Or.inr (Or.inr rfl)

/-- **What is found in a text is what it spells.** -/
theorem found?_eq_some_iff : found? s.toList = some key ↔ ∃ form : Form, form.Spells key s := by
  constructor
  · exact spells_of_found?
  · rintro ⟨form, h⟩
    -- a form that is tried earlier may find a key, but the text spells that key too
    obtain ⟨k, hk⟩ := Option.isSome_iff_exists.mp (isSome_found? h)
    obtain ⟨other, hother⟩ := spells_of_found? hk
    rw [hk, (Form.unique h hother).2]

/-- A text is read as the key found in it, or has the fault of its outline. -/
theorem read_eq (raw : String) :
    read raw = (found? (trim raw).toList).elim (.error (outline raw).fault) .ok := by
  have htrim : (trim raw).toList = Text.trimChars raw.toList := String.toList_ofList
  have hempty : trim raw = "" ↔ Text.trimChars raw.toList = [] := by
    rw [← String.toList_inj, htrim]
    rfl
  unfold read outline Outline.fault
  simp only [hempty, htrim]
  by_cases hl : Text.trimChars raw.toList = []
  · rw [hl]
    rfl
  · rw [if_neg hl, decide_eq_false hl]
    unfold found?
    split
    · next hfound =>
      rw [hfound]
      rfl
    · next hfound =>
      rw [hfound]
      cases base64Bytes? (Text.trimChars raw.toList) <;> rfl

/-! ## One reading -/

/-- **Key material has one reading.** A text is read as a key exactly if, without the white space around it, it
spells that key in one of the four forms; and no text spells a key in two forms, or two keys. So every key
is read back from its hexadecimal digits, from its base64 in either form, and from the text that has its bytes
and no white space at its ends, whatever white space stands around them. Any other text is an error of the
configuration, whose message depends on nothing but the outline of the text. -/
theorem read_exact :
    (∀ raw key, read raw = .ok key ↔ ∃ form : Form, form.Spells key (trim raw)) ∧
    (∀ (form other : Form) (key k : SealingKey) (s : String), form.Spells key s → other.Spells k s →
      form = other ∧ key = k) ∧
    (∀ (key : SealingKey) (before after : String), AllBlank before.toList → AllBlank after.toList →
      (∀ (form : Form) (s : String), form.Spells key s → (form = .raw → trim s = s) →
        read (before ++ s ++ after) = .ok key) ∧
      read (before ++ String.ofList (Hex.encode key.bytes) ++ after) = .ok key ∧
      read (before ++ String.ofList (Base64.encode Text.Base64.urlSafe key.bytes) ++ after) = .ok key ∧
      read (before ++ String.ofList (Base64.encodePadded Text.Base64.standard key.bytes) ++ after)
        = .ok key) ∧
    ∀ raw, (∀ key, read raw ≠ .ok key) →
      read raw = .error (outline raw).fault ∧
        (outline raw).fault.toError = .configuration (outline raw).fault.message := by
  have hread : ∀ raw key, read raw = .ok key ↔ ∃ form : Form, form.Spells key (trim raw) := by
    intro raw key
    rw [← found?_eq_some_iff, read_eq]
    cases found? (trim raw).toList <;> simp
  refine ⟨hread, fun _ _ _ _ _ => Form.unique, fun key before after hbefore hafter => ?around, ?fault⟩
  case around =>
    have haround : ∀ (form : Form) (s : String), form.Spells key s → (form = .raw → trim s = s) →
        read (before ++ s ++ after) = .ok key := by
      intro form s hs hraw
      refine (hread _ key).mpr ⟨form, ?_⟩
      rw [Text.trim_append hbefore hafter, Form.trim_of_spells hs hraw]
      exact hs
    exact ⟨haround, haround _ _ (Form.spells_hex key) (by simp),
      haround _ _ (Form.spells_urlSafe key) (by simp), haround _ _ (Form.spells_padded key) (by simp)⟩
  case fault =>
    intro raw hraw
    refine ⟨?_, rfl⟩
    rw [read_eq] at hraw ⊢
    cases hfound : found? (trim raw).toList with
    | none => rfl
    | some key => simp [hfound] at hraw

/-- The hexadecimal digits of a key are read with white space around them. -/
theorem read_exact_zero :
    let key : SealingKey := ⟨List.replicate 32 0, rfl⟩
    read (" " ++ String.ofList (Hex.encode key.bytes) ++ "\n") = .ok key :=
  (read_exact.2.2.1 _ " " "\n" (List.all_eq_true.mp (by decide)) (List.all_eq_true.mp (by decide))).2.1

end KeyMaterial

end SessionTokens
