/-!
# White space

The characters with the Unicode property `White_Space`, trimming by them, and the fields that they
separate.
-/

namespace SessionTokens.Text

/-- The characters of the Unicode property `White_Space`. The zero-width ones are not among them. -/
def isBlank (c : Char) : Bool :=
  let n := c.toNat
  (9 ≤ n && n ≤ 13) || n == 0x20 || n == 0x85 || n == 0xA0 || n == 0x1680
    || (0x2000 ≤ n && n ≤ 0x200A) || n == 0x2028 || n == 0x2029 || n == 0x202F || n == 0x205F
    || n == 0x3000

/-- Takes white space away from both ends. -/
def trimChars (l : List Char) : List Char :=
  ((l.dropWhile isBlank).reverse.dropWhile isBlank).reverse

/-- Takes white space away from both ends. -/
def trim (s : String) : String :=
  String.ofList (trimChars s.toList)

/-- The first maximal run of characters that are not white space, and what follows it. -/
def nextField? (l : List Char) : Option (List Char × List Char) :=
  match l.dropWhile isBlank with
  | [] => none
  | c :: r =>
    some ((c :: r).takeWhile (fun d => !isBlank d), (c :: r).dropWhile fun d => !isBlank d)

end SessionTokens.Text
