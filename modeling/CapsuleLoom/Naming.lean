import CapsuleLoom.Text.Blank
import CapsuleLoom.Text.Case

/-!
# Names in generated sources

How project names, screen identifiers and capsule identifiers become names of types and
variables.

## Main definitions

* `appIdentifier` : the name of an app from the name of its project.
* `typeName` : the name of a screen's type.
* `stateName` : the name of a capsule's state variable.

## References

* HubLab API specification, §4.2 (screen and file assembler), identifier rule.
-/

namespace CapsuleLoom

/-- A project name without white space and with a capital letter in front. -/
def appIdentifier (projectName : String) : String :=
  String.ofList (Text.capitalizeChars (projectName.toList.filter fun c => !Text.isBlank c))

/-- A screen identifier with a capital letter in front, followed by `suffix`.  An absent or
empty identifier is replaced by `default`. -/
def typeName (id? : Option String) (suffix default : String) : String :=
  let id := id?.getD ""
  Text.capitalize (if id.isEmpty then default else id) ++ suffix

/-- The type name of a screen. -/
def screenTypeName (id suffix : String) : String := typeName (some id) suffix "Home"

/-- A letter or digit of the basic character set. -/
def isWordChar (c : Char) : Bool := c.isAlphanum

/-- The pieces of a text that begins with `c`, given the pieces of the text behind `c`: a
character outside the words ends a piece. -/
def prependToWords (c : Char) (words : List (List Char)) : List (List Char) :=
  if isWordChar c then
    match words with
    | [] => [[c]]
    | word :: rest => (c :: word) :: rest
  else
    [] :: words

/-- The runs of letters and digits of a text. -/
def splitWords (cs : List Char) : List (List Char) :=
  (cs.foldr prependToWords []).filter fun word => !word.isEmpty

/-- `cs` with its first character in small form. -/
def uncapitalizeChars : List Char → List Char
  | [] => []
  | c :: rest => Text.lowerChar c ++ rest

/-- The name of the state variable of a capsule: the words of its identifier in camel case, then
`suffix`.  Without words, or with a digit in front, the suffix alone is the name. -/
def stateName (id suffix : String) : String :=
  match splitWords id.toList with
  | [] => suffix
  | first :: rest =>
    if first.head?.any Char.isDigit then suffix
    else
      String.ofList <|
        uncapitalizeChars first ++ rest.flatMap Text.capitalizeChars ++
          Text.capitalizeChars suffix.toList

end CapsuleLoom
