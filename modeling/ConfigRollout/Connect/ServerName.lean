/-!
# Server names

A TLS server name given in a kubeconfig must be a DNS name or an IP address.

A DNS name (`isDnsName`) has at most 253 bytes; its labels are separated by single dots, may
end with one dot, start with a letter, digit or underscore, go on with those and hyphens, end
with no hyphen, and have at most 63 bytes. A name whose last label is all digits is no DNS
name, so that an address is not read as one.

An IP address (`isIpAddress`) is four decimal parts of at most three digits, without leading
zeros, each below 256; or eight groups of at most four hexadecimal digits, separated by
colons, where one `::` may stand for one or more zero groups and the last two groups may be
written as an IPv4 address.
-/

set_option autoImplicit false

namespace ConfigRollout.Connect

/-- Where a DNS name reader stands: at a label's start, inside a label of digits, inside any
other label, or after a hyphen, with the length of the label so far. -/
inductive LabelState where
  | start
  | next
  | numeric (len : Nat)
  | afterNumeric
  | label (len : Nat)
  | hyphen (len : Nat)
  deriving DecidableEq, Repr, Inhabited

/-- The length of the current label, when inside one. -/
def LabelState.length? : LabelState → Option Nat
  | .numeric n | .label n | .hyphen n => some n
  | _ => none

/-- Whether a byte is an ASCII letter or an underscore. -/
def isLabelLetter (b : UInt8) : Bool :=
  (97 ≤ b && b ≤ 122) || (65 ≤ b && b ≤ 90) || b == 95

/-- Whether a byte is an ASCII digit. -/
def isAsciiDigit (b : UInt8) : Bool := 48 ≤ b && b ≤ 57

/-- One byte of a DNS name: the next state, or none when the name is refused. -/
def LabelState.step (s : LabelState) (b : UInt8) : Option LabelState :=
  if b == 46 then
    match s with
    | .label _ => some .next
    | .numeric _ => some .afterNumeric
    | _ => none
  else if (s.length?.getD 0) ≥ 63 then none
  else match s with
    | .start | .next | .afterNumeric =>
      if isAsciiDigit b then some (.numeric 1)
      else if isLabelLetter b then some (.label 1)
      else none
    | .numeric n =>
      if isAsciiDigit b then some (.numeric (n + 1))
      else if b == 45 then some (.hyphen (n + 1))
      else if isLabelLetter b then some (.label (n + 1))
      else none
    | .label n | .hyphen n =>
      if b == 45 then some (.hyphen (n + 1))
      else if isLabelLetter b || isAsciiDigit b then some (.label (n + 1))
      else none

/-- Whether a text is a DNS name. -/
def isDnsName (s : String) : Bool :=
  let bytes := s.toUTF8.toList
  if bytes.length > 253 then false
  else match bytes.foldlM LabelState.step .start with
    | some .next => true
    | some (.label _) => true
    | _ => false

/-! ## IP addresses -/

/-- The value of a digit in a radix. -/
def digitValue? (radix : Nat) (c : Char) : Option Nat :=
  let v := if c.isDigit then some (c.toNat - 48)
    else if 'a' ≤ c && c ≤ 'z' then some (c.toNat - 87)
    else if 'A' ≤ c && c ≤ 'Z' then some (c.toNat - 55)
    else none
  v.bind (fun d => if d < radix then some d else none)

/-- Reads a number: every digit that follows, at most `maxDigits` of them and below `bound`,
with a leading zero only when allowed or alone. -/
def readNumber (radix maxDigits bound : Nat) (zeroPrefix : Bool) (cs : List Char) :
    Option (Nat × List Char) :=
  let digits := cs.takeWhile (fun c => (digitValue? radix c).isSome)
  let value := digits.foldl (fun acc c => acc * radix + (digitValue? radix c).getD 0) 0
  if digits.isEmpty || digits.length > maxDigits || value ≥ bound then none
  else if !zeroPrefix && digits.head? == some '0' && digits.length > 1 then none
  else some (value, cs.drop digits.length)

/-- Reads an IPv4 address at the head of some characters: its four parts and the rest. -/
def readIpv4 (cs : List Char) : Option (List Nat × List Char) := do
  let (a, cs) ← readNumber 10 3 256 false cs
  let cs ← match cs with | '.' :: r => some r | _ => none
  let (b, cs) ← readNumber 10 3 256 false cs
  let cs ← match cs with | '.' :: r => some r | _ => none
  let (c, cs) ← readNumber 10 3 256 false cs
  let cs ← match cs with | '.' :: r => some r | _ => none
  let (d, cs) ← readNumber 10 3 256 false cs
  pure ([a, b, c, d], cs)

/-- Reads up to `limit` groups of an IPv6 address, the first without a colon before it; the
last two may be an IPv4 address. The number of groups read, whether the last were an IPv4
address, and the rest. -/
def readGroups : Nat → Nat → Nat → List Char → Nat × Bool × List Char
  | 0, _, count, cs => (count, false, cs)
  | fuel + 1, limit, count, cs =>
    if count ≥ limit then (count, false, cs)
    else
      let afterSep : Option (List Char) :=
        if count == 0 then some cs else match cs with | ':' :: r => some r | _ => none
      match afterSep with
      | none => (count, false, cs)
      | some body =>
        let v4 := if count + 1 < limit then readIpv4 body else none
        match v4 with
        | some (_, rest) => (count + 2, true, rest)
        | none =>
          match readNumber 16 4 65536 true body with
          | some (_, rest) => readGroups fuel limit (count + 1) rest
          | none => (count, false, cs)

/-- Whether some characters are exactly an IPv6 address. -/
def isIpv6 (cs : List Char) : Bool :=
  let (head, headV4, rest) := readGroups 9 8 0 cs
  if head == 8 then rest.isEmpty
  else if headV4 then false
  else match rest with
    | ':' :: ':' :: tail =>
      let (_, _, rest') := readGroups 9 (8 - (head + 1)) 0 tail
      rest'.isEmpty
    | _ => false

/-- Whether a text is an IP address. -/
def isIpAddress (s : String) : Bool :=
  let cs := s.toList
  match readIpv4 cs with
  | some (_, []) => true
  | some _ => false
  | none => isIpv6 cs

/-- Whether a text is a server name: a DNS name, or else an IP address. -/
def isServerName (s : String) : Bool := isDnsName s || isIpAddress s

end ConfigRollout.Connect
