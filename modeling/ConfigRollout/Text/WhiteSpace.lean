/-!
# Unicode White_Space

The characters with the Unicode property White_Space, and trimming by that class. Owner
names read from link keys and the watched namespace are trimmed with this class, which is
wider than ASCII blanks (it holds U+0085, U+00A0, U+2028, U+3000, ...) and narrower than
"invisible" characters (U+200B and U+001F are not in it).

Main statements: `trim` works on the characters (`trim_toList`), and every character that
core's `Char.isWhitespace` accepts is White_Space (`isWhiteSpace_of_isWhitespace`).
-/

set_option autoImplicit false

namespace ConfigRollout.Text

/-- A character has the Unicode White_Space property: the ASCII tab, line feed, vertical tab,
form feed, carriage return and space, next line U+0085, no-break space U+00A0, ogham space
mark U+1680, the spaces U+2000 to U+200A, the line and paragraph separators U+2028 and U+2029,
the narrow no-break space U+202F, the medium mathematical space U+205F and the ideographic
space U+3000. -/
def isWhiteSpace (c : Char) : Bool :=
  let n := c.toNat
  (0x09 ≤ n && n ≤ 0x0D) || n == 0x20 || n == 0x85 || n == 0xA0 || n == 0x1680 ||
    (0x2000 ≤ n && n ≤ 0x200A) || n == 0x2028 || n == 0x2029 || n == 0x202F ||
    n == 0x205F || n == 0x3000

/-- The characters of a list with the White_Space ones at both ends removed. -/
def trimChars (cs : List Char) : List Char :=
  ((cs.dropWhile isWhiteSpace).reverse.dropWhile isWhiteSpace).reverse

/-- A string with the White_Space characters at both ends removed. -/
def trim (s : String) : String :=
  String.ofList (trimChars s.toList)

/-- A string is blank when it holds White_Space characters only. -/
def isBlank (s : String) : Bool :=
  s.toList.all isWhiteSpace

/-- Trimming a string trims its characters. -/
theorem trim_toList (s : String) : (trim s).toList = trimChars s.toList := by
  simp [trim]

/-- Every character that core calls whitespace is White_Space. -/
theorem isWhiteSpace_of_isWhitespace (c : Char) (h : c.isWhitespace = true) :
    isWhiteSpace c = true := by
  simp only [Char.isWhitespace, Bool.or_eq_true, decide_eq_true_eq] at h
  rcases h with ((h | h) | h) | h <;> simp [isWhiteSpace, h]

end ConfigRollout.Text
