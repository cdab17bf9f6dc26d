import CapsuleLoom.Text.CaseTable

/-!
# Capital and small letters

The full case mappings of texts: a letter may become several, and a capital sigma becomes the
final small sigma at the end of a word.

## Main definitions

* `upper`, `lower` : the two case mappings.
* `capitalize` : a text with its first letter in capital form.
-/

namespace CapsuleLoom.Text

/-- The image of one character under the mapping given by its runs and its expansions. -/
def mapCase (runs : List CaseRun) (expansions : List (Nat × List Nat)) (c : Char) : List Char :=
  match expansions.find? fun entry => entry.1 == c.toNat with
  | some entry => entry.2.map Char.ofNat
  | none =>
    match runs.findSome? fun run => run.image? c.toNat with
    | some code => [Char.ofNat code]
    | none => [c]

/-- The capital form of one character. -/
def upperChar (c : Char) : List Char := mapCase upperRuns upperExpansions c

/-- The small form of one character without regard to its neighbours. -/
def lowerChar (c : Char) : List Char := mapCase lowerRuns lowerExpansions c

/-- `s` in capital letters. -/
def upper (s : String) : String := String.ofList (s.toList.flatMap upperChar)

/-- Whether the nearest character that is not passed over is a cased letter. -/
def meetsCased (cs : List Char) : Bool :=
  match cs.dropWhile isCaseIgnorable with
  | c :: _ => isCased c
  | [] => false

/-- The small form of a character after `before`, which is read backwards, and in front of
`after`.  A capital sigma that ends a word takes its final form. -/
def lowerBetween (before : List Char) (c : Char) (after : List Char) : List Char :=
  if c = 'Σ' then
    if meetsCased before && !meetsCased after then ['ς'] else ['σ']
  else
    lowerChar c

/-- Extends `out`, which is read backwards, by the small forms of the remaining characters. -/
def lowerAux (before out : List Char) : List Char → List Char
  | [] => out.reverse
  | c :: after => lowerAux (c :: before) ((lowerBetween before c after).reverse ++ out) after

/-- `s` in small letters. -/
def lower (s : String) : String := String.ofList (lowerAux [] [] s.toList)

/-- `cs` with its first character in capital form. -/
def capitalizeChars : List Char → List Char
  | [] => []
  | c :: rest => upperChar c ++ rest

/-- `s` with its first character in capital form, the rest as it is. -/
def capitalize (s : String) : String := String.ofList (capitalizeChars s.toList)

end CapsuleLoom.Text
