/-
Parameters in the query of a request target: names and values in the encoding of web forms. Bytes
that are no letter, digit or one of four marks are written as two hexadecimal digits behind a
percent sign, a blank as a plus sign. Reading takes any text: what is not encoded stands for itself.
-/
import ManagedDatabase.Text.Bytes

namespace ManagedDatabase.Query

/-- Whether a byte is written as itself. -/
def isPlain (b : Nat) : Bool :=
  (48 ≤ b && b ≤ 57) || (65 ≤ b && b ≤ 90) || (97 ≤ b && b ≤ 122) || b = 42 || b = 45 || b = 46
    || b = 95

/-- A digit of base 16 in upper case. -/
def hexDigit (n : Nat) : Char := Char.ofNat (if n < 10 then n + 48 else n + 55)

def encodeByte (b : Nat) : List Char :=
  if isPlain b then [Char.ofNat b]
  else if b = 32 then ['+']
  else ['%', hexDigit (b / 16), hexDigit (b % 16)]

/-- A name or value, encoded. -/
def encodeText (s : String) : String :=
  String.ofList ((Text.encodeUtf8 s).flatMap fun b => encodeByte b.toNat)

/-- Parameters, each behind an ampersand. -/
def encode (parameters : List (String × String)) : String :=
  String.join (parameters.map fun p => "&" ++ encodeText p.1 ++ "=" ++ encodeText p.2)

/-- The value of a hexadecimal digit. -/
def hexValue? (c : Char) : Option Nat :=
  let n := c.toNat
  if 48 ≤ n && n ≤ 57 then some (n - 48)
  else if 65 ≤ n && n ≤ 70 then some (n - 55)
  else if 97 ≤ n && n ≤ 102 then some (n - 87)
  else none

/-- The bytes that an encoded text stands for. -/
def decodeBytes : List Char → List UInt8
  | [] => []
  | '+' :: cs => 32 :: decodeBytes cs
  | '%' :: c :: d :: cs =>
    match hexValue? c, hexValue? d with
    | some x, some y => UInt8.ofNat (16 * x + y) :: decodeBytes cs
    | _, _ => 37 :: decodeBytes (c :: d :: cs)
  | c :: cs => Text.encodeUtf8 c.toString ++ decodeBytes cs

/-- The text that an encoded name or value stands for. -/
def decodeText (cs : List Char) : String := Text.readUtf8 (decodeBytes cs)

/-- A parameter: a name, and a value behind the first equals sign. -/
def decodeParameter (cs : List Char) : String × String :=
  (decodeText (cs.takeWhile (· != '=')), decodeText ((cs.dropWhile (· != '=')).drop 1))

/-- The parameters in a query; there is none between two ampersands. -/
def decode (query : List Char) : List (String × String) :=
  ((query.splitOn '&').filter fun cs => !cs.isEmpty).map decodeParameter

end ManagedDatabase.Query
