import CapsuleLoom.Text.Blank
import CapsuleLoom.Text.Quoted

/-!
# Addresses

The address of a request names a place at the server and may ask something of it.  Characters may
be written as escapes: a percent sign and two hexadecimal digits.

## Main definitions

* `Address` : a path and a query.
* `Address.read` : the address that a text stands for.
* `Address.text` : an address as it is told.
-/

namespace CapsuleLoom

/-- A place at the server, and what is asked of it. -/
structure Address where
  /-- The path, without escapes. -/
  path : String
  /-- The query, with escapes; it is empty when nothing is asked. -/
  query : String
  deriving DecidableEq

/-- Why a text is no address. -/
inductive AddressError where
  /-- The text is too long. -/
  | tooLong
  /-- There is a control character at a position. -/
  | control (c : Char) (position : Nat)
  /-- The path begins with two slashes. -/
  | doubleSlash
  deriving DecidableEq

/-- The wording of an error. -/
def AddressError.message : AddressError → String
  | tooLong => "URL too long"
  | control c position =>
    s!"Invalid non-printable ASCII character in URL, {Text.quote (String.singleton c)} " ++
      s!"at position {position}."
  | doubleSlash => "Relative URLs cannot have a path starting with '//'"

namespace Address

/-! ### Escapes -/

/-- The value of a hexadecimal digit. -/
def hexValue? (c : Char) : Option Nat :=
  if c.isDigit then some (c.toNat - '0'.toNat)
  else if 'a'.toNat ≤ c.toNat ∧ c.toNat ≤ 'f'.toNat then some (c.toNat - 'a'.toNat + 10)
  else if 'A'.toNat ≤ c.toNat ∧ c.toNat ≤ 'F'.toNat then some (c.toNat - 'A'.toNat + 10)
  else none

/-- The value of two hexadecimal digits. -/
def byteValue? (high low : Char) : Option Nat := do
  let high ← hexValue? high
  let low ← hexValue? low
  return high * 16 + low

/-- The character of an escaped byte.  Bytes outside the basic character set are not put
together, because no route has characters from there. -/
def byteChar (byte : Nat) : Char := if byte < 0x80 then Char.ofNat byte else '�'

/-- The text without its escapes; a percent sign that begins no escape stays. -/
def decode : List Char → List Char
  | '%' :: high :: low :: rest =>
    match byteValue? high low with
    | some byte => byteChar byte :: decode rest
    | none => '%' :: decode (high :: low :: rest)
  | c :: rest => c :: decode rest
  | [] => []

/-- The escapes of a character, one for each of its bytes. -/
def escapeChar (c : Char) : List Char :=
  (String.utf8EncodeChar c).flatMap fun byte =>
    '%' :: (Text.hex 2 byte.toNat).map Char.toUpper

/-- The text with escapes for the characters that do not satisfy `keep`. -/
def escape (keep : Char → Bool) (cs : List Char) : List Char :=
  cs.flatMap fun c => if keep c then [c] else escapeChar c

/-- The visible characters that a query may not have. -/
def barredInQuery : List Char := ['"', '#', '<', '>']

/-- The characters that a query may have. -/
def inQuery (c : Char) : Bool :=
  decide (' '.toNat < c.toNat) && decide (c.toNat < 0x7f) && !barredInQuery.contains c

/-- The characters that a query may have, but not the query of a request that is sent on. -/
def barredInForwarded : List Char := ['\\', '^', '\x60', '\x7b', '|', '\x7d']

/-- The characters of a query that stay when its request is sent on. -/
def inForwardedQuery (c : Char) : Bool := inQuery c && !barredInForwarded.contains c

/-! ### Paths -/

/-- Adds a segment to those of a path, the last one first.  A dot stands for the place itself and
two dots for the place above, if there is one. -/
def addSegment (above : List (List Char)) (segment : List Char) : List (List Char) :=
  if segment = ['.'] then above
  else if segment = ['.', '.'] then
    if above = [[]] then above else above.drop 1
  else segment :: above

/-- The path without segments of dots. -/
def settleDots (path : List Char) : List Char :=
  let segments := (path.splitOn '/').foldl addSegment []
  ['/'].intercalate segments.reverse

/-- A path with exactly one slash in front. -/
def rooted (path : List Char) : List Char := '/' :: path.dropWhile (· = '/')

/-- The path of a text without its query.  Escapes are taken off twice, so that an escaped percent
sign may begin another escape. -/
def settlePath (path : List Char) : List Char :=
  match settleDots (rooted path) with
  | [] => ['/']
  | settled => decode (decode settled)

/-! ### Reading -/

/-- The greatest length of an address. -/
def maxLength : Nat := 65536

/-- Whether a character is a control character of the basic character set. -/
def isControl (c : Char) : Bool := decide (c.toNat < ' '.toNat) || c.toNat == 0x7f

/-- The name of a server behind two slashes in front, which has no meaning here, and the rest. -/
def spanServer : List Char → List Char × List Char
  | '/' :: '/' :: rest => rest.span (· ≠ '/')
  | cs => ([], cs)

/-- The address that a text stands for.  What follows a number sign is not sent. -/
def read (text : String) : Except AddressError Address :=
  let cs := text.toList
  if maxLength < cs.length then .error .tooLong
  else
    match cs.zipIdx.find? fun entry => isControl entry.1 with
    | some (c, position) => .error (.control c position)
    | none =>
      let (place, query) := (cs.takeWhile (· ≠ '#')).span (· ≠ '?')
      let (server, path) := spanServer place
      if server.isEmpty && ['/', '/'].isPrefixOf path then .error .doubleSlash
      else
        .ok ⟨String.ofList (settlePath path), String.ofList (escape inQuery (query.drop 1))⟩

/-- An address as it is told. -/
def text (address : Address) : String :=
  if address.query.isEmpty then address.path else address.path ++ "?" ++ address.query

/-- The address without the slashes at the end of its path, as it is sent on. -/
def withoutSlashes (address : Address) : Address where
  path := String.ofList (Text.dropRightWhile (· = '/') address.path.toList)
  query := String.ofList (escape inForwardedQuery address.query.toList)

end Address

end CapsuleLoom
