/-
Targets of web requests: a path, and maybe a query behind a question mark. A target that is made
from names may not be what it was meant to be, as nothing in it is escaped: a question mark starts
the query wherever it stands, a number sign cuts off the rest, and a character that no target may
have makes it unusable.
-/
import ManagedDatabase.Network.Query

namespace ManagedDatabase

structure Target where
  path : String
  query : Option String
  deriving DecidableEq, Repr

namespace Target

/-- Why a text is no target. -/
inductive Fault
  | invalidCharacter
  | tooLong
  deriving DecidableEq, Repr

def Fault.message : Fault → String
  | .invalidCharacter => "invalid uri character"
  | .tooLong => "uri too long"

/-- Whether a character shows and is ASCII. -/
def isVisible (c : Char) : Bool := 0x21 ≤ c.toNat && c.toNat ≤ 0x7E

/-- Whether a path may have a character. -/
def isPathChar (c : Char) : Bool := isVisible c && c != '<' && c != '>' && c != '\x60'

/-- Whether a query may have a character. -/
def isQueryChar (c : Char) : Bool := isVisible c && c != '<' && c != '>' && c != '\x22'

/-- The most bytes that a target may have. -/
def maxLength : Nat := 65534

/-- The target that a text denotes. -/
def ofText (s : String) : Except Fault Target :=
  let cs := s.toList.takeWhile (· != '#')
  let path := cs.takeWhile (· != '?')
  let query? := cs.dropWhile (· != '?')
  let query := query?.drop 1
  if maxLength < s.utf8ByteSize then .error .tooLong
  else if path.all isPathChar && query.all isQueryChar then
    .ok { path := String.ofList path
          query := if query?.isEmpty then none else some (String.ofList query) }
  else .error .invalidCharacter

/-- The parameters in the query. -/
def parameters (t : Target) : List (String × String) :=
  (t.query.map fun q => Query.decode q.toList).getD []

/-- Whether a character may stand in the scheme of an address. -/
def isSchemeChar (c : Char) : Bool := c.isAlphanum || c = '+' || c = '-' || c = '.'

/-- Whether a character ends a path or the name of a host. -/
def isEnd (c : Char) : Bool := c = '?' || c = '#'

/-- The path in a target as a server receives it, which may also be a whole address with scheme and
host, and then without path means the root; the name of a host alone has no path. -/
def receivedPath (s : String) : String :=
  match s.toList with
  | '/' :: cs => String.ofList ('/' :: cs.takeWhile fun c => !isEnd c)
  | cs =>
    match cs.dropWhile isSchemeChar with
    | ':' :: '/' :: '/' :: rest =>
      match rest.dropWhile fun c => c != '/' && !isEnd c with
      | '/' :: cs => String.ofList ('/' :: cs.takeWhile fun c => !isEnd c)
      | _ => "/"
    | _ => ""

end Target
end ManagedDatabase
