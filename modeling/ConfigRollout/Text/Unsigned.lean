/-!
# Unsigned 64-bit numbers in decimal

The settings read a number of seconds as an unsigned 64-bit decimal: an optional leading `+`,
then one or more ASCII digits (leading zeros allowed), nothing else. Reading stops at the first
fault from the left: a character that is not a digit, or a digit that takes the value past
2^64 - 1. A lone sign counts as a character that is not a digit.
-/

set_option autoImplicit false

namespace ConfigRollout.Text

/-- Why a text is not an unsigned 64-bit number. -/
inductive NumberError where
  /-- The text is empty. -/
  | empty
  /-- A character is not a digit. -/
  | invalidDigit
  /-- The value does not fit in 64 bits. -/
  | tooLarge
  deriving DecidableEq, Repr, Inhabited

/-- The description of the fault. -/
def NumberError.message : NumberError → String
  | .empty => "cannot parse integer from empty string"
  | .invalidDigit => "invalid digit found in string"
  | .tooLarge => "number too large to fit in target type"

/-- The largest unsigned 64-bit value. -/
def u64Max : Nat := Nat.pow 2 64 - 1

/-- The value of a run of digits read from the left after an accumulated value, stopping at the
first fault. -/
def readDigits (acc : Nat) : List Char → Except NumberError Nat
  | [] => .ok acc
  | c :: rest =>
    if c.isDigit then
      let v := acc * 10 + (c.toNat - 48)
      if v ≤ u64Max then readDigits v rest else .error .tooLarge
    else .error .invalidDigit

/-- The value of an unsigned 64-bit decimal text. -/
def parseU64 (s : String) : Except NumberError Nat :=
  match s.toList with
  | [] => .error .empty
  | ['+'] => .error .invalidDigit
  | '+' :: rest => readDigits 0 rest
  | cs => readDigits 0 cs

end ConfigRollout.Text
