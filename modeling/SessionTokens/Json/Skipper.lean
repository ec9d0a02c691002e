import SessionTokens.Json.Scanner

/-!
# Skipping JSON values

Takes one value of any shape and depth off the front, and keeps nothing of it. The arrays and objects
that are open are on a stack.
-/

namespace SessionTokens.Json

/-- What is open around the place of a scan. -/
inductive Frame where
  | array
  | object
deriving DecidableEq, Repr

/-- The byte that closes a frame. -/
def Frame.closer : Frame → UInt8
  | .array => 0x5D
  | .object => 0x7D

/-- What comes next in a scan. -/
inductive Stage where
  | value
  /-- What may follow a value. -/
  | rest
deriving DecidableEq, Repr

/-- Takes a value that is neither an array nor an object. -/
def skipScalar? (l : Bytes) : Option Bytes :=
  match l with
  | [] => none
  | b :: r =>
    if b = 0x22 then skipText? r
    else if b = 0x6E then takeWord? nullWord l
    else if b = 0x74 then takeWord? trueWord l
    else if b = 0x66 then takeWord? falseWord l
    else (takeNumeral? l).map fun p => p.2

/-- Takes the name of a member and the colon behind it. -/
def skipName? (l : Bytes) : Option Bytes :=
  match skipGaps l with
  | b :: r =>
    if b = 0x22 then
      (skipText? r).bind fun l =>
        match skipGaps l with
        | c :: r => if c = 0x3A then some r else none
        | [] => none
    else none
  | [] => none

/-- Takes what stands in front of a value inside a frame: nothing in an array, a name in an object. -/
def Frame.skipName? (f : Frame) (l : Bytes) : Option Bytes :=
  match f with
  | .array => some l
  | .object => Json.skipName? l

/-! ## Progress -/

theorem length_skipGaps_cons {l r : Bytes} {b : UInt8} (h : skipGaps l = b :: r) :
    r.length < l.length := by
  have := length_skipGaps_le l
  rw [h] at this
  simp only [List.length_cons] at this
  omega

theorem length_lt_of_skipScalar? {l rest : Bytes} (h : skipScalar? l = some rest) :
    rest.length < l.length := by
  have word (w : Bytes) (hw : 0 < w.length) (h : takeWord? w l = some rest) :
      rest.length < l.length := by
    simp only [takeWord?] at h
    split at h
    · next hl =>
      have hl := congrArg List.length hl
      simp only [List.length_take] at hl
      simp only [Option.some.injEq] at h
      rw [← h, List.length_drop]
      omega
    · simp at h
  cases l with
  | nil => simp [skipScalar?] at h
  | cons b r =>
    simp only [skipScalar?] at h
    split at h
    · have := length_lt_of_skipText? h
      simp only [List.length_cons]
      omega
    split at h
    · exact word nullWord (by decide) h
    split at h
    · exact word trueWord (by decide) h
    split at h
    · exact word falseWord (by decide) h
    · simp only [Option.map_eq_some_iff, Prod.exists] at h
      obtain ⟨n, s, hs, rfl⟩ := h
      exact length_lt_of_takeNumeral? hs

theorem length_lt_of_skipName? {l rest : Bytes} (h : skipName? l = some rest) :
    rest.length < l.length := by
  simp only [skipName?] at h
  split at h
  · next b r hb =>
    have := length_skipGaps_cons hb
    split at h
    · simp only [Option.bind_eq_some_iff] at h
      obtain ⟨m, hm, h⟩ := h
      have := length_lt_of_skipText? hm
      split at h
      · next hc =>
        have := length_skipGaps_cons hc
        split at h
        · simp only [Option.some.injEq] at h
          subst h
          omega
        · simp at h
      · simp at h
    · simp at h
  · simp at h

theorem Frame.length_le_of_skipName? {f : Frame} {l rest : Bytes} (h : f.skipName? l = some rest) :
    rest.length ≤ l.length := by
  cases f with
  | array =>
    simp only [Frame.skipName?, Option.some.injEq] at h
    simp [h]
  | object => exact Nat.le_of_lt (length_lt_of_skipName? h)

/-! ## The scan -/

/-- Goes on to the end of the outermost value. `stack` holds the frames that are open, the innermost
first. -/
def skip (stage : Stage) (stack : List Frame) (l : Bytes) : Option Bytes :=
  match stage with
  | .value =>
    match _hl : skipGaps l with
    | [] => none
    | b :: r =>
      if b = 0x5B ∨ b = 0x7B then
        let f : Frame := if b = 0x5B then .array else .object
        match _hr : skipGaps r with
        | [] => none
        | c :: s =>
          if c = f.closer then skip .rest stack s
          else
            match _hs : f.skipName? (c :: s) with
            | none => none
            | some t => skip .value (f :: stack) t
      else
        match _hs : skipScalar? (b :: r) with
        | none => none
        | some s => skip .rest stack s
  | .rest =>
    match stack with
    | [] => some l
    | f :: outer =>
      match _hl : skipGaps l with
      | [] => none
      | b :: r =>
        if b = 0x2C then
          match _hs : f.skipName? r with
          | none => none
          | some s => skip .value (f :: outer) s
        else if b = f.closer then skip .rest outer r
        else none
termination_by l.length
decreasing_by
  · have := length_skipGaps_cons _hl
    have := length_skipGaps_cons _hr
    omega
  · have := length_skipGaps_cons _hl
    have h1 := length_skipGaps_le r
    have h2 := Frame.length_le_of_skipName? _hs
    rw [_hr] at h1
    omega
  · have h1 := length_skipGaps_le l
    have h2 := length_lt_of_skipScalar? _hs
    rw [_hl] at h1
    omega
  · have := length_skipGaps_cons _hl
    have := Frame.length_le_of_skipName? _hs
    omega
  · exact length_skipGaps_cons _hl

/-- Takes one value of any shape. -/
def skipValue? (l : Bytes) : Option Bytes :=
  skip .value [] l

end SessionTokens.Json
