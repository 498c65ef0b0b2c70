/-
White space as Unicode's `White_Space` property has it, and texts without it at their ends.
`isBlank` is the whole property: five ranges and five single characters, nothing locale
dependent. `trim` takes blanks off both ends and touches nothing between.
-/
namespace ManagedDatabase.Text

/-- Whether a character has the Unicode property `White_Space`. -/
def isBlank (c : Char) : Bool :=
  let n := c.toNat
  (9 ≤ n && n ≤ 13) || n == 0x20 || n == 0x85 || n == 0xA0 || n == 0x1680
    || (0x2000 ≤ n && n ≤ 0x200A) || n == 0x2028 || n == 0x2029 || n == 0x202F
    || n == 0x205F || n == 0x3000

/-- A text without the blanks at its start and end. -/
def trim (cs : List Char) : List Char :=
  ((cs.dropWhile isBlank).reverse.dropWhile isBlank).reverse

end ManagedDatabase.Text
