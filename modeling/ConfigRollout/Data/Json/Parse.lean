import ConfigRollout.Data.Json

/-!
# Reading JSON text

`Json.parse` reads a JSON text (RFC 8259): one value between optional blanks (space, tab, line
feed, carriage return). Strings take the escapes `\" \\ \/ \b \f \n \r \t` and `\uXXXX`, where
a surrogate pair stands for one character and a lone surrogate is refused; a raw control
character in a string is refused. A number with a fraction or an exponent is kept as its text.

The reader is total: each nested value costs one unit of a fuel that starts at the length of
the text, more than any text can use.
-/

set_option autoImplicit false

namespace ConfigRollout.Json

/-- Whether a character is a JSON blank. -/
def isBlank (c : Char) : Bool :=
  c = ' ' || c = '\t' || c = '\n' || c = '\r'

/-- The value of a hexadecimal digit. -/
def hexValue? (c : Char) : Option Nat :=
  if '0' ≤ c ∧ c ≤ '9' then some (c.toNat - 48)
  else if 'a' ≤ c ∧ c ≤ 'f' then some (c.toNat - 87)
  else if 'A' ≤ c ∧ c ≤ 'F' then some (c.toNat - 55)
  else none

/-- The value of four hexadecimal digits. -/
def hex4? (a b c d : Char) : Option Nat := do
  let va ← hexValue? a
  let vb ← hexValue? b
  let vc ← hexValue? c
  let vd ← hexValue? d
  some (((va * 16 + vb) * 16 + vc) * 16 + vd)

/-- The characters of a string body up to its closing quote, and the rest after it. -/
def stringBody : List Char → List Char → Option (List Char × List Char)
  | [], _ => none
  | '"' :: rest, acc => some (acc.reverse, rest)
  | '\\' :: '"' :: r, acc => stringBody r ('"' :: acc)
  | '\\' :: '\\' :: r, acc => stringBody r ('\\' :: acc)
  | '\\' :: '/' :: r, acc => stringBody r ('/' :: acc)
  | '\\' :: 'b' :: r, acc => stringBody r ('\x08' :: acc)
  | '\\' :: 'f' :: r, acc => stringBody r ('\x0c' :: acc)
  | '\\' :: 'n' :: r, acc => stringBody r ('\n' :: acc)
  | '\\' :: 'r' :: r, acc => stringBody r ('\r' :: acc)
  | '\\' :: 't' :: r, acc => stringBody r ('\t' :: acc)
  | '\\' :: 'u' :: a :: b :: c :: d :: '\\' :: 'u' :: e :: f :: g :: h :: r, acc =>
    match hex4? a b c d, hex4? e f g h with
    | some hi, some lo =>
      if 0xD800 ≤ hi ∧ hi < 0xDC00 then
        if 0xDC00 ≤ lo ∧ lo < 0xE000 then
          stringBody r (Char.ofNat (0x10000 + (hi - 0xD800) * 0x400 + (lo - 0xDC00)) :: acc)
        else none
      else if 0xDC00 ≤ hi ∧ hi < 0xE000 then none
      else stringBody ('\\' :: 'u' :: e :: f :: g :: h :: r) (Char.ofNat hi :: acc)
    | _, _ => none
  | '\\' :: 'u' :: a :: b :: c :: d :: r, acc =>
    match hex4? a b c d with
    | some hi =>
      if 0xD800 ≤ hi ∧ hi < 0xE000 then none
      else stringBody r (Char.ofNat hi :: acc)
    | none => none
  | '\\' :: _, _ => none
  | c :: rest, acc => if c.toNat < 0x20 then none else stringBody rest (c :: acc)

/-- The characters of a number and the rest: an optional minus, an integer part without
leading zeros, an optional fraction and an optional exponent. -/
def numberChars (cs : List Char) : Option (List Char × List Char) :=
  let (sign, r) := match cs with
    | '-' :: r => (['-'], r)
    | r => ([], r)
  let intPart := r.takeWhile Char.isDigit
  let r := r.dropWhile Char.isDigit
  if intPart.isEmpty || (intPart.length > 1 && intPart.head? = some '0') then none
  else
    let (frac, r) := match r with
      | '.' :: r' =>
        let ds := r'.takeWhile Char.isDigit
        (if ds.isEmpty then none else some ('.' :: ds), r'.dropWhile Char.isDigit)
      | r' => (some [], r')
    let (expo, r) := match r with
      | e :: r' =>
        if e = 'e' ∨ e = 'E' then
          let (s, r'') := match r' with
            | '+' :: x => (['+'], x)
            | '-' :: x => (['-'], x)
            | x => ([], x)
          let ds := r''.takeWhile Char.isDigit
          (if ds.isEmpty then none else some (e :: s ++ ds), r''.dropWhile Char.isDigit)
        else (some [], r)
      | [] => (some [], [])
    match frac, expo with
    | some f, some x => some (sign ++ intPart ++ f ++ x, r)
    | _, _ => none

/-- The value of an integer text with an optional minus. -/
def intValue (cs : List Char) : Int :=
  let digits (ds : List Char) : Nat := ds.foldl (fun n c => n * 10 + (c.toNat - 48)) 0
  match cs with
  | '-' :: ds => -(digits ds : Int)
  | ds => digits ds

mutual

/-- A value after optional blanks, and the rest. -/
def value? (fuel : Nat) (cs : List Char) : Option (Json × List Char) :=
  match fuel with
  | 0 => none
  | fuel + 1 =>
    match cs.dropWhile isBlank with
    | 'n' :: 'u' :: 'l' :: 'l' :: rest => some (.null, rest)
    | 't' :: 'r' :: 'u' :: 'e' :: rest => some (.bool true, rest)
    | 'f' :: 'a' :: 'l' :: 's' :: 'e' :: rest => some (.bool false, rest)
    | '"' :: rest => (stringBody rest []).map (fun (s, r) => (.str (String.ofList s), r))
    | '[' :: rest =>
      match rest.dropWhile isBlank with
      | ']' :: r => some (.arr [], r)
      | _ => (items? fuel rest []).map (fun (xs, r) => (.arr xs, r))
    | '{' :: rest =>
      match rest.dropWhile isBlank with
      | '}' :: r => some (.obj [], r)
      | _ => (members? fuel rest []).map (fun (fs, r) => (.obj fs, r))
    | rest =>
      match numberChars rest with
      | some (n, r) =>
        if n.all (fun c => c.isDigit || c = '-') then some (.int (intValue n), r)
        else some (.float (String.ofList n), r)
      | none => none

/-- The items of an array after its opening bracket, and the rest after the closing one. -/
def items? (fuel : Nat) (cs : List Char) (acc : List Json) : Option (List Json × List Char) :=
  match fuel with
  | 0 => none
  | fuel + 1 =>
    match value? fuel cs with
    | none => none
    | some (v, r) =>
      match r.dropWhile isBlank with
      | ',' :: r' => items? fuel r' (v :: acc)
      | ']' :: r' => some ((v :: acc).reverse, r')
      | _ => none

/-- The members of an object after its opening brace, and the rest after the closing one. -/
def members? (fuel : Nat) (cs : List Char) (acc : List (String × Json)) :
    Option (List (String × Json) × List Char) :=
  match fuel with
  | 0 => none
  | fuel + 1 =>
    match cs.dropWhile isBlank with
    | '"' :: rest =>
      match stringBody rest [] with
      | none => none
      | some (k, r) =>
        match r.dropWhile isBlank with
        | ':' :: r' =>
          match value? fuel r' with
          | none => none
          | some (v, r'') =>
            match r''.dropWhile isBlank with
            | ',' :: r''' => members? fuel r''' ((String.ofList k, v) :: acc)
            | '}' :: r''' => some (((String.ofList k, v) :: acc).reverse, r''')
            | _ => none
        | _ => none
    | _ => none

end

/-- The value of a JSON text, when it is one. -/
def parse (s : String) : Option Json :=
  match value? (s.length + 1) s.toList with
  | some (v, rest) => if rest.all isBlank then some v else none
  | none => none

end ConfigRollout.Json
