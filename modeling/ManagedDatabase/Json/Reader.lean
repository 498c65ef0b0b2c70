/-
Reading documents. Characters become tokens by a scanner with five modes, tokens become a document
by a stack of the arrays and objects that are still open; both are folds, so reading ends with the
text. Control characters in texts are refused, and numbers with superfluous zeros. Lone surrogates,
numbers too large for a double and any depth of nesting are left to those who read on.
-/
import ManagedDatabase.Json.Basic
import ManagedDatabase.Text.Numeral

namespace ManagedDatabase.Json

/-- A text that cannot be read for what it denotes is none. -/
inductive Token
  | openArray
  | closeArray
  | openObject
  | closeObject
  | colon
  | comma
  | text (value : Option String)
  /-- A number or one of the three names. -/
  | word (value : Json)

/-- What the scanner is in the middle of. Pieces of texts and words are kept reversed; there are
none once a text can no longer be read. The first half of a surrogate pair waits for the second. -/
inductive Mode
  | blank
  | word (read : List Char)
  | text (read : Option (List Char)) (half : Option Nat)
  | escape (read : Option (List Char)) (half : Option Nat)
  | code (read : Option (List Char)) (half : Option Nat) (digits : Nat) (value : Nat)

/-- The value of a hexadecimal digit. -/
def hexDigit? (c : Char) : Option Nat :=
  let n := c.toNat
  if 48 ≤ n && n ≤ 57 then some (n - 48)
  else if 97 ≤ n && n ≤ 102 then some (n - 87)
  else if 65 ≤ n && n ≤ 70 then some (n - 55)
  else none

/-- The number that a run of digits denotes. -/
def digitsValue (cs : List Char) : Nat := cs.foldl (fun n c => 10 * n + (c.toNat - 48)) 0

/-- The number that `value` becomes with some digits after it, as far as they fit into 64 bits, and
how many digits are left over. -/
def takeDigits (value : Nat) : List Char → Nat × Nat
  | [] => (value, 0)
  | c :: cs =>
    let longer := 10 * value + (c.toNat - 48)
    if longer < Nat.pow 2 64 then takeDigits longer cs else (value, cs.length + 1)

/-- A number from its sign, its digits before and after the point and its exponent. Digits beyond 64
bits count only for the size. -/
def ofDigits (negative : Bool) (before after : List Char) (exponent : Int) : Json :=
  let (start, skipped) := takeDigits 0 before
  let (digits, dropped) := takeDigits start after
  let shift : Int := skipped + dropped - after.length
  match Binary64.ofDecimal? digits (exponent + shift) with
  | some x => .double negative x
  | none => .illegible

/-- Exponents beyond this bound are cut to it: they give zero or are too large anyway. -/
def exponentBound : Nat := 100000

/-- The exponent of a number: an optional sign and digits. -/
def readExponent (cs : List Char) : Option Int :=
  let (negative, ds) : Bool × List Char :=
    match cs with
    | '-' :: ds => (true, ds)
    | '+' :: ds => (false, ds)
    | ds => (false, ds)
  if ds.isEmpty || !ds.all Char.isDigit then none
  else
    let n : Int := min (digitsValue ds) exponentBound
    some (if negative then -n else n)

/-- What follows the digits before the point: nothing, a fraction, an exponent or both. -/
def readFraction (negative : Bool) (before : List Char) : List Char → Option Json
  | [] =>
    let n := digitsValue before
    if negative then
      some (if n = 0 || Nat.pow 2 63 < n then ofDigits true before [] 0 else .whole (-n))
    else some (if n < Nat.pow 2 64 then .whole n else ofDigits false before [] 0)
  | '.' :: cs =>
    let after := cs.takeWhile Char.isDigit
    if after.isEmpty then none
    else
      match cs.dropWhile Char.isDigit with
      | [] => some (ofDigits negative before after 0)
      | e :: ds =>
        if e = 'e' || e = 'E' then (readExponent ds).map (ofDigits negative before after) else none
  | e :: ds =>
    if e = 'e' || e = 'E' then (readExponent ds).map (ofDigits negative before []) else none

/-- A number: no digits may follow a leading zero. -/
def readNumber (cs : List Char) : Option Json :=
  let (negative, ds) : Bool × List Char :=
    match cs with
    | '-' :: ds => (true, ds)
    | ds => (false, ds)
  let before := ds.takeWhile Char.isDigit
  match before with
  | [] => none
  | '0' :: _ :: _ => none
  | _ => readFraction negative before (ds.dropWhile Char.isDigit)

/-- A word outside texts: one of three names or a number. -/
def readWord (cs : List Char) : Option Json :=
  if cs = ['n', 'u', 'l', 'l'] then some .null
  else if cs = ['t', 'r', 'u', 'e'] then some (.bool true)
  else if cs = ['f', 'a', 'l', 's', 'e'] then some (.bool false)
  else readNumber cs

/-- The token of a character that is one by itself. -/
def punctuation? (c : Char) : Option Token :=
  if c = '[' then some .openArray
  else if c = ']' then some .closeArray
  else if c = '\x7b' then some .openObject
  else if c = '\x7d' then some .closeObject
  else if c = ':' then some .colon
  else if c = ',' then some .comma
  else none

def isSpace (c : Char) : Bool := c = ' ' || c = '\t' || c = '\n' || c = '\r'

/-- The scanner between tokens; the tokens so far are reversed. -/
def scanBlank (tokens : List Token) (c : Char) : Mode × List Token :=
  if isSpace c then (.blank, tokens)
  else if c = '\x22' then (.text (some []) none, tokens)
  else
    match punctuation? c with
    | some t => (.blank, t :: tokens)
    | none => (.word [c], tokens)

/-- Whether a code unit is the first half of a surrogate pair. -/
def isHighHalf (unit : Nat) : Bool := 0xD800 ≤ unit && unit ≤ 0xDBFF

/-- Whether a code unit is the second half of a surrogate pair. -/
def isLowHalf (unit : Nat) : Bool := 0xDC00 ≤ unit && unit ≤ 0xDFFF

/-- The text after a code unit written as an escape, where the first half of a pair may wait. -/
def scanUnit (read : Option (List Char)) (half : Option Nat) (unit : Nat) : Mode :=
  match half with
  | none =>
    if isHighHalf unit then .text read (some unit)
    else if isLowHalf unit then .text none none
    else .text (read.map (Char.ofNat unit :: ·)) none
  | some high =>
    if isLowHalf unit then
      let pair := Char.ofNat (0x10000 + (high - 0xD800) * 0x400 + (unit - 0xDC00))
      .text (read.map (pair :: ·)) none
    else .text none none

/-- The text after a character; the first half of a pair that waits for a second waits in vain. -/
def scanChar (read : Option (List Char)) (half : Option Nat) (c : Char) : Mode :=
  if half.isSome then .text none none else .text (read.map (c :: ·)) none

/-- The token of a text that ends. -/
def endText (read : Option (List Char)) (half : Option Nat) : Token :=
  .text (if half.isSome then none else read.map fun cs => String.ofList cs.reverse)

/-- The character that a one-letter escape stands for. -/
def escapee? (c : Char) : Option Char :=
  if c = '\x22' || c = '\\' || c = '/' then some c
  else if c = 'b' then some '\x08'
  else if c = 'f' then some '\x0c'
  else if c = 'n' then some '\n'
  else if c = 'r' then some '\r'
  else if c = 't' then some '\t'
  else none

/-- One character read by the scanner. -/
def scan (state : Mode × List Token) (c : Char) : Option (Mode × List Token) :=
  let tokens := state.2
  match state.1 with
  | .blank => some (scanBlank tokens c)
  | .word read =>
    if isSpace c || c = '\x22' || (punctuation? c).isSome then
      (readWord read.reverse).map fun j => scanBlank (.word j :: tokens) c
    else some (.word (c :: read), tokens)
  | .text read half =>
    if c = '\x22' then some (.blank, endText read half :: tokens)
    else if c = '\\' then some (.escape read half, tokens)
    else if c.toNat < 0x20 then none
    else some (scanChar read half c, tokens)
  | .escape read half =>
    if c = 'u' then some (.code read half 0 0, tokens)
    else (escapee? c).map fun e => (scanChar read half e, tokens)
  | .code read half digits value =>
    (hexDigit? c).map fun d =>
      if digits = 3 then (scanUnit read half (16 * value + d), tokens)
      else (.code read half (digits + 1) (16 * value + d), tokens)

/-- The tokens of a text. -/
def tokens? (cs : List Char) : Option (List Token) :=
  match cs.foldlM scan (.blank, []) with
  | some (.blank, tokens) => some tokens.reverse
  | some (.word read, tokens) => (readWord read.reverse).map fun j => (.word j :: tokens).reverse
  | _ => none

/-- An array or object that is still open; what it holds so far is reversed. The value that comes
next in an object, or is being built above it, will stand under its key, which is none if it cannot
be read. -/
inductive Frame
  | array (items : List Json)
  | object (members : List (Option String × Json)) (key : Option String)

/-- What may come next. -/
inductive Expect
  | value
  | valueOrEnd
  | keyOrEnd
  | key
  | colon
  | commaOrEnd
  | nothing (document : Json)

/-- The innermost frame first, and what may come next. -/
structure Nest where
  frames : List Frame
  expect : Expect

/-- A value that is complete, at its place. -/
def place (j : Json) : List Frame → Nest
  | [] => ⟨[], .nothing j⟩
  | .array items :: rest => ⟨.array (j :: items) :: rest, .commaOrEnd⟩
  | .object members key :: rest => ⟨.object ((key, j) :: members) none :: rest, .commaOrEnd⟩

/-- An object of members in reverse order, of which all need a key. -/
def ofMembers (members : List (Option String × Json)) : Json :=
  match members.reverse.mapM fun m => m.1.map (·, m.2) with
  | some members => .object members
  | none => .illegible

/-- A value where one may stand. -/
def openValue (frames : List Frame) : Token → Option Nest
  | .openArray => some ⟨.array [] :: frames, .valueOrEnd⟩
  | .openObject => some ⟨.object [] none :: frames, .keyOrEnd⟩
  | .text (some s) => some (place (.text s) frames)
  | .text none => some (place .illegible frames)
  | .word j => some (place j frames)
  | _ => none

/-- One token read. -/
def Nest.step (n : Nest) (t : Token) : Option Nest :=
  match n.expect, t, n.frames with
  | .valueOrEnd, .closeArray, .array items :: rest => some (place (.array items.reverse) rest)
  | .value, _, _ | .valueOrEnd, _, _ => openValue n.frames t
  | .keyOrEnd, .closeObject, .object members _ :: rest => some (place (ofMembers members) rest)
  | .keyOrEnd, .text k, .object members _ :: rest | .key, .text k, .object members _ :: rest =>
    some ⟨.object members k :: rest, .colon⟩
  | .colon, .colon, _ => some { n with expect := .value }
  | .commaOrEnd, .comma, .array _ :: _ => some { n with expect := .value }
  | .commaOrEnd, .comma, .object _ _ :: _ => some { n with expect := .key }
  | .commaOrEnd, .closeArray, .array items :: rest => some (place (.array items.reverse) rest)
  | .commaOrEnd, .closeObject, .object members _ :: rest => some (place (ofMembers members) rest)
  | _, _, _ => none

/-- The document that a text denotes, if it is one and nothing else. -/
def read? (s : String) : Option Json := do
  let tokens ← tokens? s.toList
  let n ← tokens.foldlM Nest.step ⟨[], .value⟩
  match n.expect with
  | .nothing j => some j
  | _ => none

end ManagedDatabase.Json
