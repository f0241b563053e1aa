/-!
# Double-precision numbers

The binary64 floating-point numbers that YAML reads its floats into, and the two ways their
values are written back as text.

Reading a decimal rounds its exact value to the nearest number, a tie going to the even
significand, and a value that rounds past the largest finite number is infinite. All of it is
exact arithmetic on naturals.

Writing a finite number starts from its shortest digits: the fewest significant decimal digits
whose value rounds back to the number, and of the two candidates on that grid the nearer one, an
exact tie going to the even one. The digits are then laid out either positionally in full
(`positionalText`) or, past sixteen integer digits or four leading zeros, with an exponent
(`compactText`).
-/

set_option autoImplicit false

namespace ConfigRollout

/-- A double-precision floating-point number. A finite one is its sign and its magnitude
`mant * 2 ^ exp` in the one form the format stores: `2 ^ 52 ≤ mant < 2 ^ 53` with
`-1074 ≤ exp ≤ 971`, or `mant < 2 ^ 52` with `exp = -1074` (zero and the subnormal numbers). -/
inductive Binary64 where
  | finite (neg : Bool) (mant : Nat) (exp : Int)
  | infinity (neg : Bool)
  | nan
  deriving DecidableEq, Repr, Inhabited

namespace Binary64

/-- The exponent of zero and of the subnormal numbers. -/
def minExp : Int := -1074

/-- The exponent of the largest binade. -/
def maxExp : Int := 971

/-- A power of a base as a fraction: `base ^ e` is `num / den`. -/
def powFraction (base : Nat) (e : Int) : Nat × Nat :=
  if 0 ≤ e then (Nat.pow base e.toNat, 1) else (1, Nat.pow base (-e).toNat)

/-- `num / (den * 2 ^ e)` as a fraction of naturals. -/
def shifted (num den : Nat) (e : Int) : Nat × Nat :=
  let (pn, pd) := powFraction 2 e
  (num * pd, den * pn)

/-- The floor of `num / (den * 2 ^ e)`. -/
def floorShift (num den : Nat) (e : Int) : Nat :=
  let (n, d) := shifted num den e
  n / d

/-- `num / (den * 2 ^ e)` rounded to the nearest natural, a tie going to the even one. -/
def roundShift (num den : Nat) (e : Int) : Nat :=
  let (n, d) := shifted num den e
  let q := n / d
  let r := n % d
  if d < 2 * r || (2 * r == d && q % 2 == 1) then q + 1 else q

/-- The number nearest to `num / den` (`den > 0`), with a sign. -/
def ofFraction (neg : Bool) (num den : Nat) : Binary64 :=
  if num = 0 then .finite neg 0 minExp
  else
    -- The quotient lies in `(2 ^ 51, 2 ^ 53)` after dividing by `2 ^ e0`.
    let e0 : Int := (num.log2 : Int) - den.log2 - 52
    let e1 := if floorShift num den e0 < Nat.pow 2 52 then e0 - 1 else e0
    let e := max e1 minExp
    let m := roundShift num den e
    let (m, e) := if m = Nat.pow 2 53 then (Nat.pow 2 52, e + 1) else (m, e)
    if maxExp < e then .infinity neg else .finite neg m e

/-- The number of decimal digits of a natural. -/
def decimalLength (n : Nat) : Nat :=
  (toString n).length

/-- The number nearest to `digits * 10 ^ k`, with a sign. Far beyond the finite range the
value is infinite or zero without computing its powers. -/
def ofDecimal (neg : Bool) (digits : Nat) (k : Int) : Binary64 :=
  if digits = 0 then .finite neg 0 minExp
  else if 310 < k + decimalLength digits then .infinity neg
  else if k + decimalLength digits < -330 then .finite neg 0 minExp
  else
    let (pn, pd) := powFraction 10 k
    ofFraction neg (digits * pn) pd

/-- The value of decimal digits. -/
def digitsValue (ds : List Char) : Nat :=
  ds.foldl (fun acc c => 10 * acc + (c.toNat - '0'.toNat)) 0

/-- Splits an optional sign off a text: whether it is negative, and the rest. -/
def splitSign : List Char → Bool × List Char
  | '-' :: rest => (true, rest)
  | '+' :: rest => (false, rest)
  | cs => (false, cs)

/-- The exponent part of a decimal: `e` or `E`, an optional sign and at least one digit. -/
def exponentOf? : List Char → Option Int
  | [] => some 0
  | c :: rest =>
    if c = 'e' ∨ c = 'E' then
      let (neg, ds) := splitSign rest
      if !ds.isEmpty && ds.all Char.isDigit then
        some (if neg then -(digitsValue ds : Int) else digitsValue ds)
      else none
    else none

/-- Reads a decimal number: an optional sign, digits with at most one point among them and at
least one digit, and an optional exponent. -/
def ofText? (s : String) : Option Binary64 :=
  let (neg, body) := splitSign s.toList
  let intPart := body.takeWhile Char.isDigit
  let rest := body.dropWhile Char.isDigit
  let (fracPart, rest) := match rest with
    | '.' :: r => (r.takeWhile Char.isDigit, r.dropWhile Char.isDigit)
    | r => ([], r)
  if intPart.isEmpty && fracPart.isEmpty then none
  else (exponentOf? rest).map fun e =>
    ofDecimal neg (digitsValue (intPart ++ fracPart)) (e - fracPart.length)

/-- Whether a number is finite. -/
def isFinite : Binary64 → Bool
  | .finite .. => true
  | _ => false

/-! ## Shortest digits -/

/-- Compares `a * 10 ^ k` with `b * 2 ^ j`. -/
def compareScaled (a : Nat) (k : Int) (b : Nat) (j : Int) : Ordering :=
  let (tn, td) := powFraction 10 k
  let (bn, bd) := powFraction 2 j
  compare (a * tn * bd) (b * bn * td)

/-- Whether `c * 10 ^ k` rounds to the number `mant * 2 ^ exp`: it lies between the midpoints to
the neighbouring numbers, which count as inside when the significand is even. Below a power of
two the lower neighbour is half as far. -/
def roundsTo (mant : Nat) (exp : Int) (c : Nat) (k : Int) : Bool :=
  let lowGap := if mant = Nat.pow 2 52 ∧ minExp < exp then 1 else 2
  let low := compareScaled c k (4 * mant - lowGap) (exp - 2)
  let high := compareScaled c k (4 * mant + 2) (exp - 2)
  let inside (o : Ordering) (outward : Ordering) := o != outward && (o != .eq || mant % 2 == 0)
  inside low .lt && inside high .gt

/-- The floor of `mant * 2 ^ exp / 10 ^ k`. -/
def floorDecimal (mant : Nat) (exp : Int) (k : Int) : Nat :=
  let (bn, bd) := powFraction 2 exp
  let (tn, td) := powFraction 10 k
  (mant * bn * td) / (bd * tn)

/-- Of `c * 10 ^ k` and `(c + 1) * 10 ^ k`, the one nearer to `mant * 2 ^ exp`; a tie goes to
the even one. -/
def nearer (mant : Nat) (exp : Int) (c : Nat) (k : Int) : Nat :=
  match compareScaled (2 * c + 1) k mant (exp + 1) with
  | .gt => c
  | .lt => c + 1
  | .eq => if c % 2 == 0 then c else c + 1

/-- Searches the decimal grids `10 ^ k`, from the coarsest down, for the first one with a point
that rounds to the number. -/
def shortestFrom (mant : Nat) (exp : Int) : Nat → Int → Nat × Int
  | 0, k => (floorDecimal mant exp k, k)
  | fuel + 1, k =>
    let c := floorDecimal mant exp k
    match roundsTo mant exp c k, roundsTo mant exp (c + 1) k with
    | true, true => (nearer mant exp c k, k)
    | true, false => (c, k)
    | false, true => (c + 1, k)
    | false, false => shortestFrom mant exp fuel (k - 1)

/-- A grid exponent `k` with `10 ^ k` above every point that rounds to `mant * 2 ^ exp`. -/
def topGrid (mant : Nat) (exp : Int) : Int :=
  let bits : Int := (mant.log2 : Int) + exp
  if bits < 0 then 1 else (bits + 2) * 31 / 100 + 1

/-- The shortest digits of a positive finite number `mant * 2 ^ exp`: `(d, k)` such that
`d * 10 ^ k` rounds to the number, `d` has as few digits as possible, and of the two
candidates with that many the nearer is taken. -/
def shortest (mant : Nat) (exp : Int) : Nat × Int :=
  shortestFrom mant exp 800 (topGrid mant exp)

/-! ## Text -/

/-- A run of zeros. -/
def zeros (n : Nat) : String :=
  String.ofList (List.replicate n '0')

/-- The digits `d * 10 ^ k` written out in full, with a point only inside the digits. -/
def positional (d : Nat) (k : Int) : String :=
  let s := (toString d).toList
  let point : Int := s.length + k
  if point ≤ 0 then "0." ++ zeros (-point).toNat ++ String.ofList s
  else if point < s.length then
    String.ofList (s.take point.toNat) ++ "." ++ String.ofList (s.drop point.toNat)
  else String.ofList s ++ zeros (point - s.length).toNat

/-- The sign of a number's text. -/
def signText (neg : Bool) : String :=
  if neg then "-" else ""

/-- A number written out in full without an exponent, as few digits as read back; zero is `0`,
and the other values are `inf`, `-inf` and `NaN`. -/
def positionalText : Binary64 → String
  | .nan => "NaN"
  | .infinity neg => signText neg ++ "inf"
  | .finite neg mant exp =>
    if mant = 0 then signText neg ++ "0"
    else
      let (d, k) := shortest mant exp
      signText neg ++ positional d k

/-- A number as a type error names it: written out in full, with `.0` after a finite number
that has no point. -/
def unexpectedText (x : Binary64) : String :=
  let t := x.positionalText
  if x.isFinite && !t.contains '.' then t ++ ".0" else t

/-- A finite number written with as few digits as read back: positionally with at least one
fraction digit while it has at most sixteen integer digits or at most four zeros after the
point, and otherwise as digits with one before the point and an exponent `e`. -/
def compactText (neg : Bool) (mant : Nat) (exp : Int) : String :=
  if mant = 0 then signText neg ++ "0.0"
  else
    let (d, k) := shortest mant exp
    let s := (toString d).toList
    let kk : Int := s.length + k
    let body :=
      if 0 ≤ k ∧ kk ≤ 16 then String.ofList s ++ zeros k.toNat ++ ".0"
      else if 0 < kk ∧ kk ≤ 16 then
        String.ofList (s.take kk.toNat) ++ "." ++ String.ofList (s.drop kk.toNat)
      else if -5 < kk ∧ kk ≤ 0 then "0." ++ zeros (-kk).toNat ++ String.ofList s
      else if s.length = 1 then String.ofList s ++ "e" ++ toString (kk - 1)
      else String.ofList (s.take 1) ++ "." ++ String.ofList (s.drop 1) ++ "e" ++ toString (kk - 1)
    signText neg ++ body

end Binary64

end ConfigRollout
