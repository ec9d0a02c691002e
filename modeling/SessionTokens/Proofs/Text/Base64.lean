import SessionTokens.Text.Base64

/-!
# Base64 is one to one

Reading undoes writing (`decode?_encode`), and a text that can be read is the one that is written for
the bytes read (`encode_of_decode?`, `decode?_eq_some_iff`). So padding and bits left over never give a second
text for the same bytes: what a tolerant reader would pass over (`readLoosely?`) is not read.
-/

namespace SessionTokens.Text.Base64

/-! ## Symbols -/

namespace Alphabet

variable {a : Alphabet}

/-- No two numbers below 64 have the same symbol, and padding is none of the symbols. -/
structure Proper (a : Alphabet) : Prop where
  value?_symbol : ∀ n, n < 64 → a.value? (a.symbol n) = some n
  value?_padding : a.value? '=' = none

theorem value?_lt {c : Char} {n : Nat} (h : a.value? c = some n) : n < 64 := by
  unfold value? at h
  grind

theorem symbol_of_value? {c : Char} {n : Nat} (h : a.value? c = some n) : a.symbol n = c := by
  have hc : Char.ofNat c.toNat = c := Char.ofNat_toNat c
  unfold value? at h
  unfold symbol
  grind

end Alphabet

theorem proper_urlSafe : urlSafe.Proper where
  value?_symbol := by decide
  value?_padding := by decide

theorem proper_standard : standard.Proper where
  value?_symbol := by decide
  value?_padding := by decide

/-- What is read from symbols stands for them, and is below 64. -/
theorem of_mapM_value? {a : Alphabet} {l : List Char} {ns : List Nat}
    (h : l.mapM a.value? = some ns) : ns.map a.symbol = l ∧ ∀ n ∈ ns, n < 64 := by
  induction l generalizing ns with
  | nil => simp_all
  | cons c r ih =>
    simp only [List.mapM_cons, Option.bind_eq_bind, Option.bind_eq_some_iff, Option.pure_def,
      Option.some.injEq] at h
    obtain ⟨n, hn, ms, hms, rfl⟩ := h
    obtain ⟨h1, h2⟩ := ih hms
    refine ⟨by rw [List.map_cons, Alphabet.symbol_of_value? hn, h1], ?_⟩
    intro m hm
    rcases List.mem_cons.mp hm with rfl | hm
    · exact Alphabet.value?_lt hn
    · exact h2 m hm

theorem mapM_value?_map_symbol {a : Alphabet} (ha : a.Proper) {ns : List Nat}
    (h : ∀ n ∈ ns, n < 64) : (ns.map a.symbol).mapM a.value? = some ns := by
  induction ns with
  | nil => rfl
  | cons n r ih =>
    rw [List.map_cons, List.mapM_cons, ha.value?_symbol n (h n List.mem_cons_self),
      ih fun m hm => h m (List.mem_cons_of_mem n hm)]
    rfl

/-! ## Groups of six bits -/

theorem sextets_go : ∀ (acc : List Nat) (b : Bytes), sextets.go acc b = acc.reverse ++ sextets b
  | acc, [] => by simp [sextets, sextets.go]
  | acc, [x] => by simp [sextets, sextets.go]
  | acc, [x, y] => by simp [sextets, sextets.go]
  | acc, x :: y :: z :: r => by
    unfold sextets
    rw [sextets.go, sextets_go _ r, sextets.go, sextets_go _ r]
    simp

theorem sextets_cons (x y z : UInt8) (r : Bytes) :
    sextets (x :: y :: z :: r) = x.toNat / 4 :: (x.toNat % 4 * 16 + y.toNat / 16)
      :: (y.toNat % 16 * 4 + z.toNat / 64) :: z.toNat % 64 :: sextets r := by
  rw [sextets, sextets.go, sextets_go]
  rfl

theorem ofSextets?_go : ∀ (acc : Bytes) (l : List Nat),
    ofSextets?.go acc l = (ofSextets? l).map (acc.reverse ++ ·)
  | acc, [] => by simp [ofSextets?, ofSextets?.go]
  | acc, [p] => by simp [ofSextets?, ofSextets?.go]
  | acc, [p, q] => by
    simp only [ofSextets?, ofSextets?.go]
    split <;> simp
  | acc, [p, q, s] => by
    simp only [ofSextets?, ofSextets?.go]
    split <;> simp
  | acc, p :: q :: s :: t :: r => by
    unfold ofSextets?
    rw [ofSextets?.go, ofSextets?_go _ r, ofSextets?.go, ofSextets?_go _ r, Option.map_map]
    congr 1
    funext b
    simp

theorem ofSextets?_cons (p q s t : Nat) (r : List Nat) :
    ofSextets? (p :: q :: s :: t :: r) = (ofSextets? r).map fun b =>
      UInt8.ofNat (p * 4 + q / 16) :: UInt8.ofNat (q % 16 * 16 + s / 4)
        :: UInt8.ofNat (s % 4 * 64 + t) :: b := by
  rw [ofSextets?, ofSextets?.go, ofSextets?_go]
  rfl

theorem sextets_lt : ∀ (b : Bytes), ∀ n ∈ sextets b, n < 64
  | [] => by simp [sextets, sextets.go]
  | [x] => by
    have := x.toNat_lt
    simp only [sextets, sextets.go, List.reverse_nil, List.nil_append, List.mem_cons]
    rintro n (rfl | rfl | h) <;> first | omega | simp at h
  | [x, y] => by
    have := x.toNat_lt
    have := y.toNat_lt
    simp only [sextets, sextets.go, List.reverse_nil, List.nil_append, List.mem_cons]
    rintro n (rfl | rfl | rfl | h) <;> first | omega | simp at h
  | x :: y :: z :: r => by
    have := x.toNat_lt
    have := y.toNat_lt
    have := z.toNat_lt
    simp only [sextets_cons, List.mem_cons]
    rintro n (rfl | rfl | rfl | rfl | h)
    · omega
    · omega
    · omega
    · omega
    · exact sextets_lt r n h

/-- A byte is the one with its number. -/
theorem ofNat_eq {x : UInt8} {n : Nat} (h : n = x.toNat) : UInt8.ofNat n = x := by
  rw [h, UInt8.ofNat_toNat]

/-- Bytes are joined again from their groups of six bits. -/
theorem ofSextets?_sextets : ∀ b : Bytes, ofSextets? (sextets b) = some b
  | [] => rfl
  | [x] => by
    -- the four bits that fill the second group up are zero
    have hx : x.toNat / 4 * 4 + x.toNat % 4 * 16 / 16 = x.toNat := by omega
    simp only [sextets, sextets.go, ofSextets?, ofSextets?.go, List.reverse_nil, List.nil_append,
      hx, UInt8.ofNat_toNat]
    rw [if_pos (by omega)]
  | [x, y] => by
    have := y.toNat_lt
    have hx : x.toNat / 4 * 4 + (x.toNat % 4 * 16 + y.toNat / 16) / 16 = x.toNat := by omega
    have hy : (x.toNat % 4 * 16 + y.toNat / 16) % 16 * 16 + y.toNat % 16 * 4 / 4 = y.toNat := by
      omega
    simp only [sextets, sextets.go, ofSextets?, ofSextets?.go, List.reverse_nil, List.nil_append,
      hx, hy, UInt8.ofNat_toNat]
    rw [if_pos (by omega)]
  | x :: y :: z :: r => by
    have := y.toNat_lt
    have := z.toNat_lt
    rw [sextets_cons, ofSextets?_cons, ofSextets?_sextets r, Option.map_some,
      ofNat_eq (by omega : _ = x.toNat), ofNat_eq (by omega : _ = y.toNat),
      ofNat_eq (by omega : _ = z.toNat)]

/-- Groups of six bits that are joined to bytes are those of the bytes. -/
theorem sextets_of_ofSextets? : ∀ {l : List Nat} {b : Bytes}, (∀ n ∈ l, n < 64) →
    ofSextets? l = some b → sextets b = l
  | [], b, _, h => by
    rw [← Option.some.inj h]
    rfl
  | [p], b, _, h => by simp [ofSextets?, ofSextets?.go] at h
  | [p, q], b, hl, h => by
    have hp := hl p (by simp)
    have hq := hl q (by simp)
    -- had the bits left over not been zero, nothing would have been read
    simp only [ofSextets?, ofSextets?.go] at h
    split at h
    · rw [← Option.some.inj h]
      simp [sextets, sextets.go]
      omega
    · simp at h
  | [p, q, s], b, hl, h => by
    have hp := hl p (by simp)
    have hq := hl q (by simp)
    have hs := hl s (by simp)
    simp only [ofSextets?, ofSextets?.go] at h
    split at h
    · rw [← Option.some.inj h]
      simp [sextets, sextets.go]
      omega
    · simp at h
  | p :: q :: s :: t :: r, b, hl, h => by
    have hp := hl p (by simp)
    have hq := hl q (by simp)
    have hs := hl s (by simp)
    have ht := hl t (by simp)
    rw [ofSextets?_cons] at h
    obtain ⟨c, hc, rfl⟩ := Option.map_eq_some_iff.mp h
    rw [sextets_cons, sextets_of_ofSextets? (fun n hn => hl n (by simp [hn])) hc]
    simp only [UInt8.toNat_ofNat']
    congr 1
    · omega
    congr 1
    · omega
    congr 1
    · omega
    congr 1
    omega

/-! ## Texts -/

variable {a : Alphabet}

/-- **Bytes are read back from their text.** -/
theorem decode?_encode (ha : a.Proper) (b : Bytes) : decode? a (encode a b) = some b := by
  rw [decode?, encode, mapM_value?_map_symbol ha (sextets_lt b)]
  exact ofSextets?_sextets b

/-- **A text that can be read is the text of the bytes read.** -/
theorem encode_of_decode? {l : List Char} {b : Bytes} (h : decode? a l = some b) :
    encode a b = l := by
  obtain ⟨ns, hns, hb⟩ := Option.bind_eq_some_iff.mp h
  obtain ⟨hl, hlt⟩ := of_mapM_value? hns
  rw [encode, sextets_of_ofSextets? hlt hb, hl]

theorem decode?_eq_some_iff (ha : a.Proper) {l : List Char} {b : Bytes} :
    decode? a l = some b ↔ encode a b = l := by
  constructor
  · exact encode_of_decode?
  · rintro rfl
    exact decode?_encode ha b

theorem encode_inj (ha : a.Proper) {b c : Bytes} (h : encode a b = encode a c) : b = c := by
  have hb := decode?_encode ha b
  rw [h, decode?_encode ha c] at hb
  exact (Option.some.inj hb).symm

/-- What can be read consists of symbols. -/
theorem isSome_value?_of_mem (ha : a.Proper) {l : List Char} {b : Bytes}
    (h : decode? a l = some b) {c : Char} (hc : c ∈ l) : (a.value? c).isSome := by
  obtain ⟨ns, hns, -⟩ := Option.bind_eq_some_iff.mp h
  obtain ⟨hl, hlt⟩ := of_mapM_value? hns
  rw [← hl] at hc
  obtain ⟨n, hn, rfl⟩ := List.mem_map.mp hc
  simp [ha.value?_symbol n (hlt n hn)]

/-- What can be read has no padding. -/
theorem padding_notMem (ha : a.Proper) {l : List Char} {b : Bytes} (h : decode? a l = some b) :
    '=' ∉ l := by
  intro hmem
  have hsome := isSome_value?_of_mem ha h hmem
  rw [ha.value?_padding] at hsome
  cases hsome

/-! ## Lengths -/

theorem length_sextets : ∀ b : Bytes, (sextets b).length = (4 * b.length + 2) / 3
  | [] => rfl
  | [x] => by simp [sextets, sextets.go]
  | [x, y] => by simp [sextets, sextets.go]
  | x :: y :: z :: r => by
    rw [sextets_cons]
    simp only [List.length_cons, length_sextets r]
    omega

/-- Four symbols stand for three bytes, and the fewest that are needed for what is left. -/
theorem length_encode (a : Alphabet) (b : Bytes) : (encode a b).length = (4 * b.length + 2) / 3 := by
  rw [encode, List.length_map, length_sextets]

/-! ## Tolerant reading -/

/-- Joins numbers of six bits to bytes and drops the bits left over. -/
def joinLoosely : List Nat → Bytes
  | [] => []
  | [_] => []
  | [p, q] => [UInt8.ofNat (p * 4 + q / 16)]
  | [p, q, s] => [UInt8.ofNat (p * 4 + q / 16), UInt8.ofNat (q % 16 * 16 + s / 4)]
  | p :: q :: s :: t :: r =>
    UInt8.ofNat (p * 4 + q / 16) :: UInt8.ofNat (q % 16 * 16 + s / 4)
      :: UInt8.ofNat (s % 4 * 64 + t) :: joinLoosely r

/-- Reads a text as a tolerant reader does: any padding at the end is passed over, and so are bits left
over. -/
def readLoosely? (a : Alphabet) (l : List Char) : Option Bytes :=
  ((l.reverse.dropWhile (· == '=')).reverse.mapM a.value?).map joinLoosely

theorem joinLoosely_of_ofSextets? : ∀ {l : List Nat} {b : Bytes}, ofSextets? l = some b →
    joinLoosely l = b
  | [], b, h => Option.some.inj h
  | [p], b, h => by simp [ofSextets?, ofSextets?.go] at h
  | [p, q], b, h => by
    simp only [ofSextets?, ofSextets?.go] at h
    split at h
    · exact Option.some.inj h
    · simp at h
  | [p, q, s], b, h => by
    simp only [ofSextets?, ofSextets?.go] at h
    split at h
    · exact Option.some.inj h
    · simp at h
  | p :: q :: s :: t :: r, b, h => by
    rw [ofSextets?_cons] at h
    obtain ⟨c, hc, rfl⟩ := Option.map_eq_some_iff.mp h
    rw [joinLoosely, joinLoosely_of_ofSextets? hc]

/-- A tolerant reader reads the same bytes where a strict one reads any. -/
theorem readLoosely?_of_decode? (ha : a.Proper) {l : List Char} {b : Bytes}
    (h : decode? a l = some b) : readLoosely? a l = some b := by
  -- padding is no symbol, so a text that is read strictly has none to pass over
  have hpad : l.reverse.dropWhile (· == '=') = l.reverse := by
    cases hl : l.reverse with
    | nil => rfl
    | cons c r =>
      have hc : c ∈ l := by
        rw [← List.mem_reverse, hl]
        exact List.mem_cons_self
      have hne : c ≠ '=' := by
        rintro rfl
        exact padding_notMem ha h hc
      rw [List.dropWhile_cons_of_neg (by simpa using hne)]
  obtain ⟨ns, hns, hb⟩ := Option.bind_eq_some_iff.mp h
  rw [readLoosely?, hpad, List.reverse_reverse, hns, Option.map_some, joinLoosely_of_ofSextets? hb]

/-- Padding, and four bits left over that are not zero. -/
example : readLoosely? urlSafe ['A', 'B', '=', '='] = some [0] ∧
    decode? urlSafe ['A', 'B', '=', '='] = none ∧ decode? urlSafe ['A', 'B'] = none := by
  decide

end SessionTokens.Text.Base64
