import SessionTokens.Json.Magnitude
import SessionTokens.Json.Skipper

/-!
# Reading records

A record is a JSON object with given members, or an array of their values in the given order. In an
object other members are skipped, and a given member must not occur twice. A text that breaks the
grammar is told apart from one that has the wrong shape; of two faults the first in the text counts.
-/

namespace SessionTokens.Json

/-- The kinds of values that records hold. -/
inductive Kind where
  /-- A string. -/
  | text
  /-- A truth value. -/
  | flag
deriving DecidableEq, Repr

/-- A value in a record. -/
inductive Value where
  | text (s : String)
  | flag (b : Bool)
deriving DecidableEq, Repr

/-- A member of a record. -/
structure Field where
  name : String
  kind : Kind := .text
  /-- The value where the member is missing, if it may be. -/
  fallback? : Option Value := none

/-- The members of a record in their order. -/
abbrev Shape := List Field

/-- Why a text is no record. -/
inductive Fault where
  /-- The text is no JSON. -/
  | malformed
  /-- The text does not have the shape of the record. -/
  | mismatch
deriving DecidableEq, Repr

/-! ## Values -/

/-- What is wrong with a value that is not of the kind asked for. Arrays and objects are not looked
into. -/
def wrongKind (l : Bytes) : Fault :=
  match l with
  | [] => .malformed
  | b :: r =>
    let wellFormed :=
      if b = 0x5B ∨ b = 0x7B then true
      else if b = 0x22 then (takeText? r).isSome
      else if b = 0x6E then (takeWord? nullWord l).isSome
      else if b = 0x74 then (takeWord? trueWord l).isSome
      else if b = 0x66 then (takeWord? falseWord l).isSome
      else (takeNumeral? l).any fun p => !p.1.isTooLarge
    if wellFormed then .mismatch else .malformed

/-- Takes a string. -/
def takeTextValue (l : Bytes) : Except Fault (Value × Bytes) :=
  match l with
  | [] => .error .malformed
  | b :: r =>
    if b = 0x22 then
      match takeText? r with
      | some (s, rest) => .ok (.text s, rest)
      | none => .error .malformed
    else .error (wrongKind l)

/-- Takes a truth value. -/
def takeFlagValue (l : Bytes) : Except Fault (Value × Bytes) :=
  match takeWord? trueWord l, takeWord? falseWord l with
  | some rest, _ => .ok (.flag true, rest)
  | none, some rest => .ok (.flag false, rest)
  | none, none => .error (wrongKind l)

/-- Takes a value of the given kind. -/
def takeValue (k : Kind) (l : Bytes) : Except Fault (Value × Bytes) :=
  match k with
  | .text => takeTextValue (skipGaps l)
  | .flag => takeFlagValue (skipGaps l)

/-! ## Members of an object -/

/-- The members read so far, by name. -/
abbrev Members := List (String × Value)

/-- Takes a name in quotes. -/
def takeName (l : Bytes) : Except Fault (String × Bytes) :=
  match skipGaps l with
  | [] => .error .malformed
  | b :: r =>
    if b = 0x22 then
      match takeText? r with
      | some p => .ok p
      | none => .error .malformed
    else .error .malformed

/-- Takes a colon. -/
def takeColon (l : Bytes) : Except Fault Bytes :=
  match skipGaps l with
  | [] => .error .malformed
  | b :: r => if b = 0x3A then .ok r else .error .malformed

/-- Takes a value of any shape and drops it. -/
def dropValue (l : Bytes) : Except Fault Bytes :=
  match skipValue? l with
  | some rest => .ok rest
  | none => .error .malformed

/-- Takes one member, and adds it to those found if it is one of the shape. -/
def takeMember (shape : Shape) (found : Members) (l : Bytes) : Except Fault (Members × Bytes) :=
  match takeName l with
  | .error e => .error e
  | .ok (name, l) =>
    match shape.find? fun f => f.name == name with
    | none => (takeColon l).bind fun l => (dropValue l).map fun rest => (found, rest)
    | some f =>
      if (found.lookup name).isSome then .error .mismatch
      else (takeColon l).bind fun l => (takeValue f.kind l).map fun (v, rest) => ((name, v) :: found, rest)

/-! ## Progress -/

theorem length_lt_of_takeName {l rest : Bytes} {name : String} (h : takeName l = .ok (name, rest)) :
    rest.length < l.length := by
  simp only [takeName] at h
  split at h
  · simp at h
  · next b r hb =>
    have := length_skipGaps_cons hb
    split at h
    · split at h
      · next p hp =>
        simp only [Except.ok.injEq] at h
        subst h
        have := length_lt_of_takeText? hp
        omega
      · simp at h
    · simp at h

theorem length_lt_of_takeColon {l rest : Bytes} (h : takeColon l = .ok rest) :
    rest.length < l.length := by
  simp only [takeColon] at h
  split at h
  · simp at h
  · next b r hb =>
    have := length_skipGaps_cons hb
    split at h
    · simp only [Except.ok.injEq] at h
      subst h
      exact this
    · simp at h

theorem length_le_of_skip {stage : Stage} {stack : List Frame} {l rest : Bytes}
    (h : skip stage stack l = some rest) : rest.length ≤ l.length := by
  fun_induction skip stage stack l with
  | case1 => simp at h
  | case2 => simp at h
  | case3 stack l b r hl hb f s hr ih =>
    have := length_skipGaps_cons hl
    have := length_skipGaps_cons hr
    have := ih h
    omega
  | case4 => simp at h
  | case5 stack l b r hl hb f c s hr hc t hs ih =>
    have := length_skipGaps_cons hl
    have h1 := length_skipGaps_le r
    have h2 := Frame.length_le_of_skipName? hs
    have := ih h
    rw [hr] at h1
    omega
  | case6 => simp at h
  | case7 stack l b r hl hb s hs ih =>
    have h1 := length_skipGaps_le l
    have h2 := length_lt_of_skipScalar? hs
    have := ih h
    rw [hl] at h1
    omega
  | case8 l =>
    simp only [Option.some.injEq] at h
    simp [h]
  | case9 => simp at h
  | case10 => simp at h
  | case11 l f outer r s hs hl ih =>
    have := length_skipGaps_cons hl
    have := Frame.length_le_of_skipName? hs
    have := ih h
    omega
  | case12 l f outer r hl hc ih =>
    have := length_skipGaps_cons hl
    have := ih h
    omega
  | case13 => simp at h

theorem length_le_of_dropValue {l rest : Bytes} (h : dropValue l = .ok rest) :
    rest.length ≤ l.length := by
  simp only [dropValue] at h
  split at h
  · next hr =>
    simp only [Except.ok.injEq] at h
    subst h
    exact length_le_of_skip hr
  · simp at h

theorem length_le_of_takeValue {k : Kind} {l rest : Bytes} {v : Value}
    (h : takeValue k l = .ok (v, rest)) : rest.length ≤ l.length := by
  have hg := length_skipGaps_le l
  cases k with
  | text =>
    simp only [takeValue, takeTextValue] at h
    split at h
    · simp at h
    · next b r hb =>
      have := length_skipGaps_cons hb
      split at h
      · split at h
        · next hp =>
          simp only [Except.ok.injEq, Prod.mk.injEq] at h
          have := length_lt_of_takeText? hp
          rw [← h.2]
          omega
        · simp at h
      · simp at h
  | flag =>
    simp only [takeValue, takeFlagValue] at h
    cases ht : takeWord? trueWord (skipGaps l) with
    | some r =>
      simp only [ht, Except.ok.injEq, Prod.mk.injEq] at h
      have := length_le_of_takeWord? ht
      rw [← h.2]
      omega
    | none =>
      cases hf : takeWord? falseWord (skipGaps l) with
      | some r =>
        simp only [ht, hf, Except.ok.injEq, Prod.mk.injEq] at h
        have := length_le_of_takeWord? hf
        rw [← h.2]
        omega
      | none => simp [ht, hf] at h

theorem length_lt_of_takeMember {shape : Shape} {found found' : Members} {l rest : Bytes}
    (h : takeMember shape found l = .ok (found', rest)) : rest.length < l.length := by
  simp only [takeMember] at h
  split at h
  · simp at h
  · next name m hn =>
    have := length_lt_of_takeName hn
    split at h
    · cases hc : takeColon m with
      | error e => simp [hc, Except.bind] at h
      | ok m' =>
        have := length_lt_of_takeColon hc
        simp only [hc, Except.bind] at h
        cases hd : dropValue m' with
        | error e => simp [hd, Except.map] at h
        | ok r =>
          have := length_le_of_dropValue hd
          simp only [hd, Except.map, Except.ok.injEq, Prod.mk.injEq] at h
          rw [← h.2]
          omega
    · next f _ =>
      split at h
      · simp at h
      · cases hc : takeColon m with
        | error e => simp [hc, Except.bind] at h
        | ok m' =>
          have := length_lt_of_takeColon hc
          simp only [hc, Except.bind] at h
          cases hd : takeValue f.kind m' with
          | error e => simp [hd, Except.map] at h
          | ok p =>
            obtain ⟨v, r⟩ := p
            have := length_le_of_takeValue hd
            simp only [hd, Except.map, Except.ok.injEq, Prod.mk.injEq] at h
            rw [← h.2]
            omega

/-! ## Records -/

/-- Takes the members of an object, of which there is at least one, and the closing brace. -/
def takeMembers (shape : Shape) (found : Members) (l : Bytes) : Except Fault (Members × Bytes) :=
  match _hm : takeMember shape found l with
  | .error e => .error e
  | .ok (found, rest) =>
    match _hr : skipGaps rest with
    | [] => .error .malformed
    | b :: r =>
      if b = 0x2C then takeMembers shape found r
      else if b = 0x7D then .ok (found, r)
      else .error .malformed
termination_by l.length
decreasing_by
  have := length_lt_of_takeMember _hm
  have := length_skipGaps_cons _hr
  omega

/-- Takes the rest of an object behind its opening brace. -/
def takeObject (shape : Shape) (l : Bytes) : Except Fault (Members × Bytes) :=
  match skipGaps l with
  | [] => .error .malformed
  | b :: r => if b = 0x7D then .ok ([], r) else takeMembers shape [] (b :: r)

/-- Takes the elements of an array for the given fields, and the closing bracket. Fields without an
element are left out. -/
def takeElements (first : Bool) (l : Bytes) : Shape → Except Fault (Members × Bytes)
  | [] =>
    match skipGaps l with
    | [] => .error .malformed
    | b :: r => if b = 0x5D then .ok ([], r) else .error .malformed
  | f :: fs =>
    match skipGaps l with
    | [] => .error .malformed
    | b :: r =>
      if b = 0x5D then
        if f.fallback?.isSome then takeElements first l fs else .error .mismatch
      else if first ∨ b = 0x2C then
        (takeValue f.kind (if first then b :: r else r)).bind fun (v, rest) =>
          (takeElements false rest fs).map fun (found, rest) => ((f.name, v) :: found, rest)
      else .error .malformed

/-- The values of the fields among the members found, in the order of the shape. -/
def arrange (found : Members) : Shape → Except Fault (List Value)
  | [] => .ok []
  | f :: fs =>
    match (found.lookup f.name).or f.fallback? with
    | none => .error .mismatch
    | some v => (arrange found fs).map (v :: ·)

/-- Takes a record. -/
def takeRecord (shape : Shape) (l : Bytes) : Except Fault (List Value × Bytes) :=
  match skipGaps l with
  | [] => .error .malformed
  | b :: r =>
    let members :=
      if b = 0x7B then takeObject shape r
      else if b = 0x5B then takeElements true r shape
      else .error (wrongKind (b :: r))
    members.bind fun (found, rest) => (arrange found shape).map fun values => (values, rest)

/-- Reads a record that fills the text. -/
def readRecord (shape : Shape) (l : Bytes) : Except Fault (List Value) :=
  (takeRecord shape l).bind fun (values, rest) =>
    if skipGaps rest = [] then .ok values else .error .malformed

end SessionTokens.Json
