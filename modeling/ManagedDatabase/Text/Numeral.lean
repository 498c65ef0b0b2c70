/-
Decimal numerals of bounded natural numbers, as they stand in settings: an optional plus sign and
at least one ASCII digit. Reading goes from the left, so of two faults the one further left is
reported; at one place a character that is no digit is reported before the size.
-/
namespace ManagedDatabase.Text

/-- Why a text is no numeral of a number below the bound. -/
inductive NumeralFault
  | empty
  | invalidDigit
  | tooLarge
  deriving DecidableEq, Repr

def NumeralFault.message : NumeralFault → String
  | .empty => "cannot parse integer from empty string"
  | .invalidDigit => "invalid digit found in string"
  | .tooLarge => "number too large to fit in target type"

/-- The value of an ASCII decimal digit. -/
def digit? (c : Char) : Option Nat :=
  if '0' ≤ c && c ≤ '9' then some (c.toNat - 48) else none

/-- The digits after a number `value` that has been read already; every number stays below the
bound, leading zeros count for nothing. -/
def readDigits (bound value : Nat) : List Char → Except NumeralFault Nat
  | [] => .ok value
  | c :: cs =>
    match digit? c with
    | none => .error .invalidDigit
    | some d =>
      if 10 * value + d < bound then readDigits bound (10 * value + d) cs else .error .tooLarge

/-- A numeral of a number below the bound; a sign alone is no numeral. -/
def readNumeral (bound : Nat) : List Char → Except NumeralFault Nat
  | [] => .error .empty
  | '+' :: [] => .error .invalidDigit
  | '+' :: c :: cs => readDigits bound 0 (c :: cs)
  | c :: cs => readDigits bound 0 (c :: cs)

end ManagedDatabase.Text
