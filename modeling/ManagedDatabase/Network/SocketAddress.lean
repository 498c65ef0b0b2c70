/-
Addresses that a server listens on: an IPv4 address and a port, or a bracketed IPv6 address with an
optional numeric scope and a port. A number in an IPv4 address has at most three digits and no
superfluous zeros; a port may have leading zeros. Written back, an IPv6 address has its longest run
of at least two zero groups (the first of equals) cut to two colons, and an address that stands for
an IPv4 one shows it.
-/
import ManagedDatabase.Text.Numeral

namespace ManagedDatabase

/-- Where a server listens. -/
inductive SocketAddress
  | v4 (octets : List Nat) (port : Nat)
  | v6 (groups : List Nat) (scope : Nat) (port : Nat)
  deriving DecidableEq, Repr

namespace SocketAddress

/-- A reader takes a value off the front of a text or fails. -/
abbrev Reader (α : Type) := List Char → Option (α × List Char)

/-- One given character. -/
def given (c : Char) : Reader Unit
  | d :: cs => if d = c then some ((), cs) else none
  | [] => none

/-- The value of a digit in base 10 or 16. -/
def digitIn? (base : Nat) (c : Char) : Option Nat :=
  let n := c.toNat
  let value? :=
    if 48 ≤ n && n ≤ 57 then some (n - 48)
    else if 97 ≤ n && n ≤ 102 then some (n - 87)
    else if 65 ≤ n && n ≤ 70 then some (n - 55)
    else none
  value?.filter (· < base)

/-- The value of a run of digits. -/
def valueIn (base : Nat) (cs : List Char) : Nat :=
  cs.foldl (fun n c => n * base + (digitIn? base c).getD 0) 0

/-- A number below `bound` in some base: at least one digit, and at most `width` of them where a
width is given; `zeros` allows superfluous leading zeros. -/
def number (base : Nat) (width : Option Nat) (zeros : Bool) (bound : Nat) : Reader Nat := fun cs =>
  let ds := cs.takeWhile fun c => (digitIn? base c).isSome
  let n := valueIn base ds
  let isWide := width.any fun w => w < ds.length
  let isPadded := !zeros && ds.head? = some '0' && 1 < ds.length
  if ds.isEmpty || isWide || isPadded || bound ≤ n then none
  else some (n, cs.drop ds.length)

/-- An IPv4 address: four numbers below 256 between points. -/
def readV4 : Reader (List Nat) := fun cs => do
  let octet := number 10 (some 3) false 256
  let (a, cs) ← octet cs
  let (_, cs) ← given '.' cs
  let (b, cs) ← octet cs
  let (_, cs) ← given '.' cs
  let (c, cs) ← octet cs
  let (_, cs) ← given '.' cs
  let (d, cs) ← octet cs
  some ([a, b, c, d], cs)

/-- A reader behind a colon, except at the start. -/
def separated {α : Type} (first : Bool) (r : Reader α) : Reader α := fun cs =>
  if first then r cs
  else do
    let (_, cs) ← given ':' cs
    r cs

/-- As many groups of an IPv6 address as stand there, at most `room`; an IPv4 address takes the
place of the last two. Answers also whether it did. -/
def readGroups (first : Bool) : Nat → List Char → List Nat × Bool × List Char
  | 0, cs => ([], false, cs)
  | room + 1, cs =>
    match (if 0 < room then separated first readV4 cs else none) with
    | some ([a, b, c, d], rest) => ([a * 256 + b, c * 256 + d], true, rest)
    | _ =>
      match separated first (number 16 (some 4) true 65536) cs with
      | some (g, rest) =>
        let (gs, embedded, rest) := readGroups false room rest
        (g :: gs, embedded, rest)
      | none => ([], false, cs)

/-- An IPv6 address: eight groups, or fewer around two colons that stand for at least one group of
zeros. -/
def readV6 : Reader (List Nat) := fun cs => do
  let (head, embedded, cs) := readGroups true 8 cs
  if head.length = 8 then some (head, cs)
  else if embedded then none
  else
    let (_, cs) ← given ':' cs
    let (_, cs) ← given ':' cs
    let (tail, _, cs) := readGroups true (7 - head.length) cs
    some (head ++ List.replicate (8 - head.length - tail.length) 0 ++ tail, cs)

/-- A port behind a colon. -/
def readPort : Reader Nat := fun cs => do
  let (_, cs) ← given ':' cs
  number 10 none true 65536 cs

/-- A scope behind a percent sign; none counts as scope 0. -/
def readScope (cs : List Char) : Nat × List Char :=
  let read : Option (Nat × List Char) := do
    let (_, cs) ← given '%' cs
    number 10 none true (Nat.pow 2 32) cs
  read.getD (0, cs)

def readSocketV4 : Reader SocketAddress := fun cs => do
  let (octets, cs) ← readV4 cs
  let (port, cs) ← readPort cs
  some (.v4 octets port, cs)

def readSocketV6 : Reader SocketAddress := fun cs => do
  let (_, cs) ← given '[' cs
  let (groups, cs) ← readV6 cs
  let (scope, cs) := readScope cs
  let (_, cs) ← given ']' cs
  let (port, cs) ← readPort cs
  some (.v6 groups scope port, cs)

/-- The address that a text denotes, if it is one and nothing else. -/
def read? (s : String) : Option SocketAddress :=
  match (readSocketV4 s.toList <|> readSocketV6 s.toList) with
  | some (a, []) => some a
  | _ => none

/-- Why a text denotes no address. -/
def unreadable : String := "invalid socket address syntax"

def v4Text (octets : List Nat) : String := ".".intercalate (octets.map toString)

def groupsText (groups : List Nat) : String :=
  ":".intercalate (groups.map fun g => String.ofList (Nat.toDigits 16 g))

/-- How many zero groups stand at the front. -/
def zeroRun (groups : List Nat) : Nat := (groups.takeWhile (· == 0)).length

/-- Where the first of the longest runs of zero groups starts, and its length. -/
def longestRun (groups : List Nat) : Nat × Nat :=
  (List.range groups.length).foldl
    (fun best i => if best.2 < zeroRun (groups.drop i) then (i, zeroRun (groups.drop i)) else best)
    (0, 0)

def v6Text (groups : List Nat) : String :=
  match groups with
  | [0, 0, 0, 0, 0, 0xFFFF, a, b] => "::ffff:" ++ v4Text [a / 256, a % 256, b / 256, b % 256]
  | _ =>
    let (start, length) := longestRun groups
    if 1 < length then
      groupsText (groups.take start) ++ "::" ++ groupsText (groups.drop (start + length))
    else groupsText groups

/-- The written form of an address; scope 0 is not written. -/
def render : SocketAddress → String
  | .v4 octets port => v4Text octets ++ ":" ++ toString port
  | .v6 groups scope port =>
    let zone := if scope = 0 then "" else "%" ++ toString scope
    "[" ++ v6Text groups ++ zone ++ "]:" ++ toString port

end SocketAddress
end ManagedDatabase
