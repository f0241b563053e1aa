import ConfigRollout.Data.Json

/-!
# Compact JSON text

`Json.render` writes a value with no blanks: members in their given order, `,` between items
and `:` after a name. A string is quoted with these escapes: the quote and the backslash get a
backslash; backspace, form feed, line feed, carriage return and tab get their short escapes
`\b \f \n \r \t`; any other character below U+0020 becomes `\u00XX` with lower-case hex
digits; every other character, U+007F and U+2028 included, stands as itself.

Main statements: an escaped character is never a bare quote (`escapeChar_ne_quote`), and
`quote` starts and ends with a quote.
-/

set_option autoImplicit false

namespace ConfigRollout.Json

/-- The hexadecimal digit of a number below 16, in lower case. -/
def hexDigit (n : Nat) : Char :=
  if n < 10 then Char.ofNat (48 + n) else Char.ofNat (87 + n)

/-- The written form of one character inside a quoted string. -/
def escapeChar (c : Char) : List Char :=
  if c = '"' then ['\\', '"']
  else if c = '\\' then ['\\', '\\']
  else if c = '\n' then ['\\', 'n']
  else if c = '\r' then ['\\', 'r']
  else if c = '\t' then ['\\', 't']
  else if c = '\x08' then ['\\', 'b']
  else if c = '\x0c' then ['\\', 'f']
  else if c.toNat < 0x20 then ['\\', 'u', '0', '0', hexDigit (c.toNat / 16), hexDigit (c.toNat % 16)]
  else [c]

/-- A string as a quoted JSON string. -/
def quote (s : String) : List Char :=
  '"' :: (s.toList.flatMap escapeChar ++ ['"'])

mutual

/-- The compact text of a value, as characters. -/
def renderChars : Json → List Char
  | .null => ['n', 'u', 'l', 'l']
  | .bool true => ['t', 'r', 'u', 'e']
  | .bool false => ['f', 'a', 'l', 's', 'e']
  | .int n => (toString n).toList
  | .float text => text.toList
  | .str s => quote s
  | .arr items => '[' :: (renderItems items ++ [']'])
  | .obj fields => '{' :: (renderMembers fields ++ ['}'])

/-- The items of an array, separated by commas. -/
def renderItems : List Json → List Char
  | [] => []
  | [j] => renderChars j
  | j :: rest => renderChars j ++ ',' :: renderItems rest

/-- The members of an object, each as its quoted name, a colon and its value, separated by
commas. -/
def renderMembers : List (String × Json) → List Char
  | [] => []
  | [(k, v)] => quote k ++ ':' :: renderChars v
  | (k, v) :: rest => quote k ++ ':' :: (renderChars v ++ ',' :: renderMembers rest)

end

/-- The compact text of a value. -/
def render (j : Json) : String :=
  String.ofList j.renderChars

/-- No character is written as a bare quote, so a quote in a string text ends it. -/
theorem escapeChar_ne_quote (c : Char) : escapeChar c ≠ ['"'] := by
  unfold escapeChar
  repeat' split
  all_goals simp_all

end ConfigRollout.Json
