import ConfigRollout.Data.Binary64

/-!
# Reading JSON text byte by byte

The API client reads every answer body with a streaming JSON reader, and the exact text of its
failures shows in the program's errors. This module is that reader's lexical layer: a position
in the bytes of a text, the white space it skips, strings with their escapes, numbers, the
three words `null`, `true` and `false`, and the skipping of a whole value whose content does
not matter.

A failure is a message and, once known, a place: the line (from one) and the column, which is
the number of bytes from the start of that line up to the place. A syntax failure is placed
when it happens: at the reader's position (`fail`), or at the byte it looked at without taking
it (`failAhead`). A failure about what a value means is placed later, by the reader of the
enclosing value, at the position reached by then (`ReadError.placed`).

Numbers follow the reader exactly: an integer that fits 64 bits is kept as an integer, a
negative one as a signed integer unless it is zero or below the signed range, and every other
number is computed as a double by multiplying or dividing its digits by a power of ten, each
step rounded, which is how the reader computes them (not always the nearest double).
-/

set_option autoImplicit false

namespace ConfigRollout.Reader

/-- The syntax failures of the reader. -/
inductive Syntax where
  | eofWhileParsingList
  | eofWhileParsingObject
  | eofWhileParsingString
  | eofWhileParsingValue
  | expectedColon
  | expectedListCommaOrEnd
  | expectedObjectCommaOrEnd
  | expectedSomeIdent
  | expectedSomeValue
  | invalidEscape
  | invalidNumber
  | numberOutOfRange
  | invalidUnicodeCodePoint
  | controlCharacterWhileParsingString
  | keyMustBeAString
  | loneLeadingSurrogateInHexEscape
  | trailingComma
  | trailingCharacters
  | unexpectedEndOfHexEscape
  | recursionLimitExceeded
  deriving DecidableEq, Repr, Inhabited

/-- The reader's words for each syntax failure. -/
def Syntax.message : Syntax → String
  | .eofWhileParsingList => "EOF while parsing a list"
  | .eofWhileParsingObject => "EOF while parsing an object"
  | .eofWhileParsingString => "EOF while parsing a string"
  | .eofWhileParsingValue => "EOF while parsing a value"
  | .expectedColon => "expected `:`"
  | .expectedListCommaOrEnd => "expected `,` or `]`"
  | .expectedObjectCommaOrEnd => "expected `,` or `\x7d`"
  | .expectedSomeIdent => "expected ident"
  | .expectedSomeValue => "expected value"
  | .invalidEscape => "invalid escape"
  | .invalidNumber => "invalid number"
  | .numberOutOfRange => "number out of range"
  | .invalidUnicodeCodePoint => "invalid unicode code point"
  | .controlCharacterWhileParsingString =>
    "control character (\\u0000-\\u001F) found while parsing a string"
  | .keyMustBeAString => "key must be a string"
  | .loneLeadingSurrogateInHexEscape => "lone leading surrogate in hex escape"
  | .trailingComma => "trailing comma"
  | .trailingCharacters => "trailing characters"
  | .unexpectedEndOfHexEscape => "unexpected end of hex escape"
  | .recursionLimitExceeded => "recursion limit exceeded"

/-- A failure to read: its message and, once known, its line and column. -/
structure ReadError where
  message : String
  place : Option (Nat × Nat) := none
  deriving DecidableEq, Repr, Inhabited

/-- The failure as the reader writes it: the message, then its place when it has one. -/
def ReadError.text (e : ReadError) : String :=
  match e.place with
  | some (line, column) => e.message ++ " at line " ++ toString line ++ " column " ++ toString column
  | none => e.message

/-- The line and column of a position in some bytes. -/
def lineColumn (input : Array UInt8) (i : Nat) : Nat × Nat :=
  (input.toList.take i).foldl
    (fun (lc : Nat × Nat) b => if b == 10 then (lc.1 + 1, 0) else (lc.1, lc.2 + 1)) (1, 0)

/-- A failure placed at its position, unless it has a place already. -/
def ReadError.placed (e : ReadError) (input : Array UInt8) (i : Nat) : ReadError :=
  match e.place with
  | some _ => e
  | none => { e with place := some (lineColumn input i) }

/-- A reading step over fixed bytes. The position survives a failure, so that a failure about
meaning can be placed where the reader stands once the enclosing value is done. -/
abbrev Read := ExceptT ReadError (StateM Nat)

/-- A syntax failure at the reader's position. -/
def fail {α : Type} (input : Array UInt8) (s : Syntax) : Read α := do
  let i ← get
  throw ⟨s.message, some (lineColumn input i)⟩

/-- A syntax failure at the byte the reader looks at. -/
def failAhead {α : Type} (input : Array UInt8) (s : Syntax) : Read α := do
  let i ← get
  throw ⟨s.message, some (lineColumn input (min input.size (i + 1)))⟩

/-- A failure about meaning, not yet placed. -/
def failMeaning {α : Type} (message : String) : Read α :=
  throw ⟨message, none⟩

/-- Runs a step and keeps its outcome, failure included, as a value. -/
def attempt {α : Type} (r : Read α) : Read (Except ReadError α) :=
  tryCatch (Except.ok <$> r) (fun e => pure (.error e))

/-- Runs a step; a failure without a place is placed where the reader stands afterwards. -/
def placing {α : Type} (input : Array UInt8) (r : Read α) : Read α :=
  tryCatch r (fun e => do
    let i ← get
    throw (e.placed input i))

/-- Fails with a kept failure, placed where the reader stands. -/
def rethrowPlaced {α : Type} (input : Array UInt8) (e : ReadError) : Read α := do
  let i ← get
  throw (e.placed input i)

/-- The byte at the reader's position, without taking it. -/
def peek (input : Array UInt8) : Read (Option UInt8) := do
  let i ← get
  pure input[i]?

/-- Takes one byte. -/
def advance : Read Unit :=
  modify (· + 1)

/-- Takes the byte at the reader's position, if any. -/
def next (input : Array UInt8) : Read (Option UInt8) := do
  let i ← get
  match input[i]? with
  | some b => do
    set (i + 1)
    pure (some b)
  | none => pure none

/-- Whether a byte is JSON white space. -/
def isSpace (b : UInt8) : Bool :=
  b == 32 || b == 10 || b == 9 || b == 13

/-- The position after the white space at a position. -/
def skipSpaceFrom (input : Array UInt8) (i : Nat) : Nat :=
  if h : i < input.size then
    if isSpace input[i] then skipSpaceFrom input (i + 1) else i
  else i
termination_by input.size - i

/-- Skips white space and looks at the next byte. -/
def skipSpace (input : Array UInt8) : Read (Option UInt8) := do
  modify (skipSpaceFrom input)
  peek input

/-- Whether a byte is an ASCII digit. -/
def isDigit (b : UInt8) : Bool :=
  48 ≤ b && b ≤ 57

/-- The position after the digits at a position. -/
def skipDigitsFrom (input : Array UInt8) (i : Nat) : Nat :=
  if h : i < input.size then
    if isDigit input[i] then skipDigitsFrom input (i + 1) else i
  else i
termination_by input.size - i

/-- Takes the bytes of a word after its first byte; a different byte fails after it, and the
end of the text fails where it is. -/
def expectWord (input : Array UInt8) : List UInt8 → Read Unit
  | [] => pure ()
  | b :: rest => do
    match ← next input with
    | none => fail input .eofWhileParsingValue
    | some c => if c == b then expectWord input rest else fail input .expectedSomeIdent

/-! ## Strings -/

/-- The value of a hexadecimal digit. -/
def hexValue? (b : UInt8) : Option Nat :=
  if 48 ≤ b && b ≤ 57 then some (b.toNat - 48)
  else if 97 ≤ b && b ≤ 102 then some (b.toNat - 87)
  else if 65 ≤ b && b ≤ 70 then some (b.toNat - 55)
  else none

/-- Reads the four hexadecimal digits of a `\u` escape; they are taken even when one of them is
not a digit, and fewer than four left fail at the end of the text. -/
def hexEscape (input : Array UInt8) : Read Nat := do
  let i ← get
  if i + 4 ≤ input.size then
    set (i + 4)
    match ((input.toList.drop i).take 4).map hexValue? with
    | [some a, some b, some c, some d] => pure (((a * 16 + b) * 16 + c) * 16 + d)
    | _ => fail input .invalidEscape
  else
    set input.size
    fail input .eofWhileParsingString

/-- The UTF-8 bytes of a code point. -/
def utf8Bytes (n : Nat) : List UInt8 :=
  if n < 0x80 then [n.toUInt8]
  else if n < 0x800 then [(0xC0 + n / 64).toUInt8, (0x80 + n % 64).toUInt8]
  else if n < 0x10000 then
    [(0xE0 + n / 4096).toUInt8, (0x80 + n / 64 % 64).toUInt8, (0x80 + n % 64).toUInt8]
  else
    [(0xF0 + n / 262144).toUInt8, (0x80 + n / 4096 % 64).toUInt8, (0x80 + n / 64 % 64).toUInt8,
      (0x80 + n % 64).toUInt8]

/-- Takes the next byte, failing at the end of the text as an unfinished string. -/
def nextInString (input : Array UInt8) : Read UInt8 := do
  match ← next input with
  | some b => pure b
  | none => fail input .eofWhileParsingString

/-- Looks at the next byte, failing at the end of the text as an unfinished string. -/
def peekInString (input : Array UInt8) : Read UInt8 := do
  match ← peek input with
  | some b => pure b
  | none => fail input .eofWhileParsingString

/-- Reads a `\u` escape whose code unit is `n`: a lone code unit of the low surrogate range
fails, and a high surrogate must be followed by an escaped low one. -/
def unicodeEscape (input : Array UInt8) (n : Nat) : Read (List UInt8) := do
  if 0xDC00 ≤ n && n ≤ 0xDFFF then fail input .loneLeadingSurrogateInHexEscape
  else if n < 0xD800 || 0xDBFF < n then pure (utf8Bytes n)
  else
    let backslash ← peekInString input
    advance
    if backslash != 92 then fail input .unexpectedEndOfHexEscape
    let u ← peekInString input
    advance
    if u != 117 then fail input .unexpectedEndOfHexEscape
    let low ← hexEscape input
    if low < 0xDC00 || 0xDFFF < low then fail input .loneLeadingSurrogateInHexEscape
    else pure (utf8Bytes (((n - 0xD800) * 1024 + (low - 0xDC00)) + 0x10000))

/-- Reads an escape after its backslash: the bytes it stands for. -/
def escape (input : Array UInt8) : Read (List UInt8) := do
  let b ← nextInString input
  if b == 34 then pure [34]
  else if b == 92 then pure [92]
  else if b == 47 then pure [47]
  else if b == 98 then pure [8]
  else if b == 102 then pure [12]
  else if b == 110 then pure [10]
  else if b == 114 then pure [13]
  else if b == 116 then pure [9]
  else if b == 117 then do unicodeEscape input (← hexEscape input)
  else fail input .invalidEscape

/-- Reads the rest of a string after its opening quote, with at most `fuel` more bytes: its
bytes with escapes replaced. A control character fails just after it. -/
def stringBytes (input : Array UInt8) : Nat → Array UInt8 → Read (Array UInt8)
  | 0, _ => fail input .eofWhileParsingString
  | fuel + 1, acc => do
    match ← next input with
    | none => fail input .eofWhileParsingString
    | some b =>
      if b == 34 then pure acc
      else if b == 92 then do
        let bytes ← escape input
        stringBytes input fuel (acc ++ bytes.toArray)
      else if b < 32 then fail input .controlCharacterWhileParsingString
      else stringBytes input fuel (acc.push b)

/-- Reads a string after its opening quote. -/
def string (input : Array UInt8) : Read String := do
  let bytes ← stringBytes input (input.size + 1) #[]
  match String.fromUTF8? (ByteArray.mk bytes) with
  | some s => pure s
  | none => fail input .invalidUnicodeCodePoint

/-- Skips the rest of a string after its opening quote: any escaped code unit is let through,
and a control character fails where it stands. -/
def skipStringBytes (input : Array UInt8) : Nat → Read Unit
  | 0 => fail input .eofWhileParsingString
  | fuel + 1 => do
    match ← peek input with
    | none => fail input .eofWhileParsingString
    | some b =>
      if b == 34 then advance
      else if b == 92 then do
        advance
        let e ← nextInString input
        if e == 117 then
          let _ ← hexEscape input
        else if !([34, 92, 47, 98, 102, 110, 114, 116] : List UInt8).contains e then
          fail input .invalidEscape
        skipStringBytes input fuel
      else if b < 32 then fail input .controlCharacterWhileParsingString
      else do
        advance
        skipStringBytes input fuel

/-! ## Numbers -/

/-- A number as the reader keeps it: a natural below `2 ^ 64`, a negative integer in the signed
64-bit range, or a double. -/
inductive Number where
  | unsigned (n : Nat)
  | signed (n : Int)
  | double (x : Binary64)
  deriving DecidableEq, Repr, Inhabited

/-- The largest natural the reader keeps as an integer. -/
def maxUnsigned : Nat := Nat.pow 2 64 - 1

/-- The largest exponent the reader keeps. -/
def maxExponent : Nat := Nat.pow 2 31 - 1

/-- Whether `acc * 10 + d` would pass a bound. -/
def overflows (acc d bound : Nat) : Bool :=
  acc ≥ bound / 10 && (acc > bound / 10 || d > bound % 10)

/-- The exact fraction of a finite double, with its sign. -/
def fractionOf : Binary64 → Bool × Nat × Nat
  | .finite neg mant exp =>
    if 0 ≤ exp then (neg, mant * Nat.pow 2 exp.toNat, 1) else (neg, mant, Nat.pow 2 (-exp).toNat)
  | .infinity neg => (neg, 1, 0)
  | .nan => (false, 0, 0)

/-- The product of a finite double and a positive power of ten, rounded. -/
def scaleUp (x : Binary64) (k : Nat) : Binary64 :=
  let (neg, n, d) := fractionOf x
  let (_, pn, pd) := fractionOf (Binary64.ofDecimal false 1 k)
  Binary64.ofFraction neg (n * pn) (d * pd)

/-- The quotient of a finite double by a power of ten, rounded. -/
def scaleDown (x : Binary64) (k : Nat) : Binary64 :=
  let (neg, n, d) := fractionOf x
  let (_, pn, pd) := fractionOf (Binary64.ofDecimal false 1 k)
  Binary64.ofFraction neg (n * pd) (d * pn)

/-- Whether a double is zero. -/
def isZeroDouble : Binary64 → Bool
  | .finite _ mant _ => mant == 0
  | _ => false

/-- The double of `significand * 10 ^ exponent` as the reader computes it: the significand
rounded to a double, then multiplied or divided by the rounded power of ten; exponents beyond
308 first divide by `1e308` until the rest fits. A product that overflows fails. -/
def fromParts (positive : Bool) (significand : Nat) (exponent : Int) : Option Binary64 :=
  let f := Binary64.ofFraction false significand 1
  let signed (x : Binary64) : Binary64 :=
    match x with
    | .finite _ m e => .finite (!positive) m e
    | other => other
  let rec go (fuel : Nat) (f : Binary64) (e : Int) : Option Binary64 :=
    match fuel with
    | 0 => some f
    | fuel + 1 =>
      if e.natAbs ≤ 308 then
        if 0 ≤ e then
          match scaleUp f e.toNat with
          | .finite n m x => some (.finite n m x)
          | _ => none
        else some (scaleDown f e.natAbs)
      else if isZeroDouble f then some f
      else if 0 ≤ e then none
      else go fuel (scaleDown f 308) (e + 308)
  (go 8 f exponent).map signed

/-- A double read from digits, or the overflow failure at the reader's position. -/
def doubleOf (input : Array UInt8) (positive : Bool) (significand : Nat) (exponent : Int) :
    Read Binary64 :=
  match fromParts positive significand exponent with
  | some x => pure x
  | none => fail input .numberOutOfRange

/-- Saturates an exponent to the signed 32-bit range. -/
def saturate (e : Int) : Int :=
  max (-(Int.pow 2 31)) (min (Int.pow 2 31 - 1) e)

/-- Takes the digits of an exponent after its first one; an exponent past the 32-bit range
fails when the number is not zero and the exponent positive, and is zero otherwise. -/
def exponentDigits (input : Array UInt8) (positive positiveExp zero : Bool) (start : Int)
    (significand : Nat) : Nat → Nat → Read Binary64
  | 0, exp => doubleOf input positive significand (saturate (if positiveExp then start + exp else start - exp))
  | fuel + 1, exp => do
    match ← peek input with
    | some c =>
      if isDigit c then do
        advance
        let d := c.toNat - 48
        if overflows exp d maxExponent then
          if !zero && positiveExp then fail input .numberOutOfRange
          else
            modify (skipDigitsFrom input)
            pure (.finite (!positive) 0 Binary64.minExp)
        else exponentDigits input positive positiveExp zero start significand fuel (exp * 10 + d)
      else doubleOf input positive significand (saturate (if positiveExp then start + exp else start - exp))
    | none => doubleOf input positive significand (saturate (if positiveExp then start + exp else start - exp))

/-- Reads an exponent at its `e`. -/
def exponentPart (input : Array UInt8) (positive : Bool) (significand : Nat) (start : Int) :
    Read Binary64 := do
  advance
  let positiveExp ← do
    match ← peek input with
    | some 43 => do
      advance
      pure true
    | some 45 => do
      advance
      pure false
    | _ => pure true
  match ← next input with
  | none => fail input .eofWhileParsingValue
  | some c =>
    if isDigit c then
      exponentDigits input positive positiveExp (significand == 0) start significand
        (input.size + 1) (c.toNat - 48)
    else fail input .invalidNumber

/-- After digits too many for 64 bits: the remaining digits are skipped, then an exponent may
follow. -/
def afterOverflow (input : Array UInt8) (positive : Bool) (significand : Nat) (exponent : Int) :
    Read Binary64 := do
  modify (skipDigitsFrom input)
  match ← peek input with
  | some c =>
    if c == 101 || c == 69 then exponentPart input positive significand exponent
    else doubleOf input positive significand exponent
  | none => doubleOf input positive significand exponent

/-- The digits of a fraction: the significand with them, their number, and whether one more
would have passed 64 bits (the digits from there on are left unread). -/
def fractionDigits (input : Array UInt8) : Nat → Nat → Nat → Read (Nat × Nat × Bool)
  | 0, sig, count => pure (sig, count, false)
  | fuel + 1, sig, count => do
    match ← peek input with
    | some c =>
      if isDigit c then
        let d := c.toNat - 48
        if overflows sig d maxUnsigned then pure (sig, count, true)
        else do
          advance
          fractionDigits input fuel (sig * 10 + d) (count + 1)
      else pure (sig, count, false)
    | none => pure (sig, count, false)

/-- Reads a fraction at its point: at least one digit, then an exponent may follow. -/
def fractionPart (input : Array UInt8) (positive : Bool) (significand : Nat) (before : Int) :
    Read Binary64 := do
  advance
  let (sig, count, overflowed) ← fractionDigits input (input.size + 1) significand 0
  if overflowed then afterOverflow input positive sig (before - count)
  else if count = 0 then do
    match ← peek input with
    | some _ => failAhead input .invalidNumber
    | none => failAhead input .eofWhileParsingValue
  else
    let exponent := before - count
    match ← peek input with
    | some c =>
      if c == 101 || c == 69 then exponentPart input positive sig exponent
      else doubleOf input positive sig exponent
    | none => doubleOf input positive sig exponent

/-- After the digits of an integer part that fits 64 bits. -/
def afterInteger (input : Array UInt8) (positive : Bool) (significand : Nat) : Read Number := do
  match ← peek input with
  | some 46 => .double <$> fractionPart input positive significand 0
  | some 101 => .double <$> exponentPart input positive significand 0
  | some 69 => .double <$> exponentPart input positive significand 0
  | _ =>
    if positive then pure (.unsigned significand)
    else if significand = 0 || significand > Nat.pow 2 63 then
      pure (.double (match Binary64.ofFraction true significand 1 with
        | .finite _ m e => .finite true m e
        | other => other))
    else pure (.signed (-(significand : Int)))

/-- An integer part too long for 64 bits: each further digit raises the exponent. -/
def longInteger (input : Array UInt8) (positive : Bool) (significand : Nat) : Nat → Nat → Read Binary64
  | 0, exponent => doubleOf input positive significand exponent
  | fuel + 1, exponent => do
    match ← peek input with
    | some c =>
      if isDigit c then do
        advance
        longInteger input positive significand fuel (exponent + 1)
      else if c == 46 then fractionPart input positive significand exponent
      else if c == 101 || c == 69 then exponentPart input positive significand exponent
      else doubleOf input positive significand exponent
    | none => doubleOf input positive significand exponent

/-- Reads a number after its optional minus sign. -/
def number (input : Array UInt8) (positive : Bool) : Read Number := do
  match ← next input with
  | none => fail input .eofWhileParsingValue
  | some c =>
    if c == 48 then
      match ← peek input with
      | some d => if isDigit d then failAhead input .invalidNumber else afterInteger input positive 0
      | none => afterInteger input positive 0
    else if isDigit c then
      let rec digits (fuel : Nat) (sig : Nat) : Read Number :=
        match fuel with
        | 0 => afterInteger input positive sig
        | fuel + 1 => do
          match ← peek input with
          | some d =>
            if isDigit d then
              let v := d.toNat - 48
              if overflows sig v maxUnsigned then
                .double <$> longInteger input positive sig (input.size + 1) 0
              else do
                advance
                digits fuel (sig * 10 + v)
            else afterInteger input positive sig
          | none => afterInteger input positive sig
      digits (input.size + 1) (c.toNat - 48)
    else fail input .invalidNumber

/-- Skips a number after its optional minus sign, checking only its form. -/
def skipNumber (input : Array UInt8) : Read Unit := do
  match ← next input with
  | some 48 =>
    match ← peek input with
    | some d => if isDigit d then failAhead input .invalidNumber else pure ()
    | none => pure ()
  | some c => if isDigit c then modify (skipDigitsFrom input) else fail input .invalidNumber
  | none => fail input .invalidNumber
  let skipExponent : Read Unit := do
    advance
    match ← peek input with
    | some 43 => advance
    | some 45 => advance
    | _ => pure ()
    match ← next input with
    | some c => if isDigit c then modify (skipDigitsFrom input) else fail input .invalidNumber
    | none => fail input .invalidNumber
  match ← peek input with
  | some 46 =>
    advance
    let start ← get
    modify (skipDigitsFrom input)
    if (← get) == start then failAhead input .invalidNumber
    else match ← peek input with
      | some 101 => skipExponent
      | some 69 => skipExponent
      | _ => pure ()
  | some 101 => skipExponent
  | some 69 => skipExponent
  | _ => pure ()

/-! ## Skipping a value -/

/-- Skips one whole value, keeping the open brackets on a stack instead of recursing; `fuel`
bounds the steps, each of which takes at least one byte. The value's form is checked, but
escaped code units and number ranges are not. -/
def skipValueSteps (input : Array UInt8) : Nat → List UInt8 → Read Unit
  | 0, _ => fail input .eofWhileParsingValue
  | fuel + 1, stack => do
    let b ← match ← skipSpace input with
      | some b => pure b
      | none => failAhead input .eofWhileParsingValue
    let opened ← do
      if b == 110 then do
        advance
        expectWord input [117, 108, 108]
        pure none
      else if b == 116 then do
        advance
        expectWord input [114, 117, 101]
        pure none
      else if b == 102 then do
        advance
        expectWord input [97, 108, 115, 101]
        pure none
      else if b == 45 then do
        advance
        skipNumber input
        pure none
      else if isDigit b then do
        skipNumber input
        pure none
      else if b == 34 then do
        advance
        skipStringBytes input (input.size + 1)
        pure none
      else if b == 91 || b == 123 then do
        advance
        pure (some b)
      else failAhead input .expectedSomeValue
    -- After a value, or at the start of a container: close brackets, and find the next
    -- element or key.
    let rec close (fuel : Nat) (acceptComma : Bool) (frame : UInt8) (stack : List UInt8) :
        Read (Option (UInt8 × List UInt8)) :=
      match fuel with
      | 0 => fail input .eofWhileParsingValue
      | fuel + 1 => do
        match ← skipSpace input with
        | some 44 =>
          if acceptComma then do
            advance
            pure (some (frame, stack))
          else pure (some (frame, stack))
        | some 93 =>
          if frame == 91 then do
            advance
            match stack with
            | [] => pure none
            | f :: rest => close fuel true f rest
          else if acceptComma then failAhead input .expectedObjectCommaOrEnd
          else pure (some (frame, stack))
        | some 125 =>
          if frame == 123 then do
            advance
            match stack with
            | [] => pure none
            | f :: rest => close fuel true f rest
          else if acceptComma then failAhead input .expectedListCommaOrEnd
          else pure (some (frame, stack))
        | some _ =>
          if acceptComma then
            failAhead input (if frame == 91 then .expectedListCommaOrEnd else .expectedObjectCommaOrEnd)
          else pure (some (frame, stack))
        | none =>
          failAhead input (if frame == 91 then .eofWhileParsingList else .eofWhileParsingObject)
    let open? ← match opened with
      | some frame => close (input.size + 1) false frame stack
      | none =>
        match stack with
        | [] => pure none
        | f :: rest => close (input.size + 1) true f rest
    match open? with
    | none => pure ()
    | some (frame, stack) =>
      if frame == 123 then do
        match ← skipSpace input with
        | some 34 => advance
        | some _ => failAhead input .keyMustBeAString
        | none => failAhead input .eofWhileParsingObject
        skipStringBytes input (input.size + 1)
        match ← skipSpace input with
        | some 58 => advance
        | some _ => failAhead input .expectedColon
        | none => failAhead input .eofWhileParsingObject
      skipValueSteps input fuel (frame :: stack)

/-- Skips one whole value. -/
def skipValue (input : Array UInt8) : Read Unit :=
  skipValueSteps input (input.size + 1) []

end ConfigRollout.Reader
