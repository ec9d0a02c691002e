import SessionTokens.Error
import SessionTokens.TokenId.Basic

/-!
# Reading token identifiers

Four spellings are accepted, with digits in either case: 32 digits; five groups with hyphens; these in
braces; and these after `urn:uuid:` in any case. For all other texts the fault says what is wrong with
the text, or with the part of it in which five groups have to stand. A text that is longer than every
spelling is not looked into.
-/

namespace SessionTokens.TokenId

open Text.Utf8 (byteLength)

/-! ## Spellings -/

/-- What is inside braces around the text. -/
def unbrace? (l : List Char) : Option (List Char) :=
  match l with
  | '\x7b' :: r => if r.getLast? = some '\x7d' then some r.dropLast else none
  | _ => none

/-- What follows the marker `urn:uuid:`, written in any case. -/
def stripUrn? (l : List Char) : Option (List Char) :=
  if (l.take 9).map Char.toLower = ['u', 'r', 'n', ':', 'u', 'u', 'i', 'd', ':'] then some (l.drop 9)
  else none

/-- Takes the hyphens out of a text of five groups of 8, 4, 4, 4 and 12 characters. -/
def unhyphenate? (l : List Char) : Option (List Char) :=
  if l.length = 36 ∧ l[8]? = some '-' ∧ l[13]? = some '-' ∧ l[18]? = some '-' ∧ l[23]? = some '-' then
    some (l.take 8 ++ (l.drop 9).take 4 ++ (l.drop 14).take 4 ++ (l.drop 19).take 4 ++ l.drop 24)
  else none

/-- The identifier with the given 32 digits. -/
def ofDigits? (l : List Char) : Option TokenId :=
  (Text.Hex.decode? l).bind ofBytes?

/-- The part of a text that is taken for the hyphenated digits, by the length of the text in bytes. -/
def hyphenatedPart? (l : List Char) : Option (List Char) :=
  match byteLength l with
  | 36 => some l
  | 38 => unbrace? l
  | 45 => stripUrn? l
  | _ => none

/-- Reads an identifier in one of the four spellings. -/
def ofChars? (l : List Char) : Option TokenId :=
  if byteLength l = 32 then ofDigits? l
  else ((hyphenatedPart? l).bind unhyphenate?).bind ofDigits?

/-! ## Faults -/

/-- Why a text is no identifier. -/
inductive Fault where
  /-- A character is neither a digit nor a hyphen; its byte offset is given. -/
  | invalidCharacter (c : Char) (offset : Nat)
  /-- There are no hyphens, and not 32 digits. -/
  | invalidLength (found : Nat)
  /-- There are not five groups. -/
  | groupCount (found : Nat)
  /-- A group has the wrong number of digits. -/
  | groupLength (group expected found : Nat)
deriving DecidableEq, Repr

/-- The wording of a fault. -/
def Fault.message : Fault → String
  | .invalidCharacter c offset =>
    "invalid character: found `" ++ String.singleton c ++ "` at " ++ toString offset
  | .invalidLength found => "invalid length: found " ++ toString found
  | .groupCount found => "invalid group count: expected 5, found " ++ toString found
  | .groupLength group expected found =>
    "invalid group length in group " ++ toString group ++ ": expected " ++ toString expected
      ++ ", found " ++ toString found

/-- The byte offsets of the hyphens in a text, or the first character that is no digit either. -/
def hyphens (offset : Nat) : List Char → Except (Char × Nat) (List Nat)
  | [] => .ok []
  | c :: r =>
    if c = '-' then (hyphens (offset + 1) r).map (offset :: ·)
    else if Text.Hex.isDigit c then hyphens (offset + 1) r
    else .error (c, offset)

/-- The first group whose end is not where it should be, among groups given by their index, the
offset of their first digit and their length. -/
def misplacedGroup? (ends : List Nat) : List (Nat × Nat × Nat) → Option Fault
  | [] => none
  | (group, start, length) :: r =>
    match ends with
    | [] => none
    | e :: ends =>
      if e = start + length then misplacedGroup? ends r
      else some (.groupLength group length (e - start))

/-- What is wrong with the text `l`, which stands `offset` bytes from the start of a text of `total`
bytes; `grouped` tells whether there have to be groups. -/
def faultIn (l : List Char) (offset total : Nat) (grouped : Bool) : Fault :=
  match hyphens 0 l with
  | .error (c, i) => .invalidCharacter c (offset + i)
  | .ok ends =>
    if ends.isEmpty && !grouped then .invalidLength total
    else if ends.length ≠ 4 then .groupCount (ends.length + 1)
    else
      (misplacedGroup? ends [(0, 0, 8), (1, 9, 4), (2, 14, 4), (3, 19, 4)]).getD
        (.groupLength 4 12 (total - 24))

/-- The number of bytes of the longest spelling. -/
def maxLength : Nat := 45

/-- What is wrong with a text whose length tells of no groups. -/
def looseFault (l : List Char) : Fault :=
  let total := byteLength l
  if maxLength < total then .invalidLength total
  else
    match unbrace? l, stripUrn? l with
    | some inner, _ => faultIn inner 1 total true
    | none, some inner => faultIn inner 9 total true
    | none, none => faultIn l 0 total false

/-- What is wrong with a text. -/
def faultOf (l : List Char) : Fault :=
  match hyphenatedPart? l with
  | some part => faultIn part 0 (byteLength part) true
  | none => looseFault l

/-- The error of an operation to which a text was given that is no identifier. -/
def Fault.toError (text : String) (f : Fault) : AuthError :=
  .invalidArgument ("invalid token id '" ++ text ++ "': " ++ f.message)

/-! ## Texts -/

/-- Reads an identifier. -/
def read (text : String) : Except Fault TokenId :=
  match ofChars? text.toList with
  | some id => .ok id
  | none => .error (faultOf text.toList)

/-- Reads an identifier that is given to an operation. -/
def ofArgument (text : String) : Except AuthError TokenId :=
  match read text with
  | .ok id => .ok id
  | .error fault => .error (fault.toError text)

end SessionTokens.TokenId
