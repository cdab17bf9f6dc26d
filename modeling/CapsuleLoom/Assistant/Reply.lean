import CapsuleLoom.Doc.Reader
import CapsuleLoom.Text.Blank

/-!
# Replies of a model

A model is asked for a JSON object, and it may put the object into a Markdown fence or between
chatter.  The whole reply without its fences is read first; where that is malformed, the first span
with balanced braces is.

## Main definitions

* `stripFences` : a reply without the fences around it.
* `firstObject?` : the first span of a text with balanced braces.
* `readReplyWithin`, `readReply` : the document of a reply.

## References

* HubLab API specification, §6 (external interfaces), AI bridge: fences are stripped, and the rest
  is parsed as JSON.
-/

namespace CapsuleLoom

/-! ### Fences -/

/-- The mark of a Markdown fence. -/
def fence : List Char := ['\x60', '\x60', '\x60']

/-- The characters that stand for each letter of `json` behind a fence. -/
def fenceLanguage : List (List Char) := [['j', 'J'], ['s', 'S', 'ſ'], ['o', 'O'], ['n', 'N']]

/-- What follows when the characters match the classes one by one. -/
def dropMatching? : List (List Char) → List Char → Option (List Char)
  | [], cs => some cs
  | _ :: _, [] => none
  | choice :: classes, c :: cs => if choice.contains c then dropMatching? classes cs else none

/-- `cs` without a line break in front. -/
def dropNewline : List Char → List Char
  | '\n' :: cs => cs
  | cs => cs

/-- `cs` without an opening fence, the language behind it and the line break behind that. -/
def dropOpeningFence (cs : List Char) : List Char :=
  match fence.isPrefixOf? cs with
  | some rest => dropNewline ((dropMatching? fenceLanguage rest).getD rest)
  | none => cs

/-- `cs` without a closing fence and the line break in front of it. -/
def dropClosingFence (cs : List Char) : List Char :=
  match fence.isPrefixOf? cs.reverse with
  | some rest => (dropNewline rest).reverse
  | none => cs

/-- A reply without the white space and the fences around it. -/
def stripFences (reply : String) : String :=
  Text.strip <| String.ofList <| dropClosingFence <| dropOpeningFence (Text.strip reply).toList

/-! ### Spans of balanced braces -/

/-- Where a scan for balanced braces stands. -/
inductive ScanMode where
  /-- Outside of quoted texts. -/
  | plain
  /-- Inside a quoted text. -/
  | quoted
  /-- Inside a quoted text, behind a backslash. -/
  | escaped
  deriving DecidableEq

/-- How a character changes the mode. -/
def ScanMode.next : ScanMode → Char → ScanMode
  | plain, c => if c = '"' then quoted else plain
  | quoted, c => if c = '\\' then escaped else if c = '"' then plain else quoted
  | escaped, _ => quoted

/-- The count of open braces behind a character; only braces outside of quoted texts count. -/
def nextDepth (mode : ScanMode) (depth : Nat) (c : Char) : Nat :=
  if mode = .plain then
    if c = '\x7b' then depth + 1 else if c = '\x7d' then depth - 1 else depth
  else depth

/-- Whether a character closes the last open brace. -/
def closesSpan (mode : ScanMode) (depth : Nat) (c : Char) : Bool :=
  mode = .plain && c = '\x7d' && decide (depth = 1)

/-- The scan up to the brace that closes the last open one; `taken` holds what was passed, the
last character first. -/
def scanSpan (mode : ScanMode) (depth : Nat) (taken : List Char) : List Char → Option (List Char)
  | [] => none
  | c :: rest =>
    if closesSpan mode depth c then some (c :: taken).reverse
    else scanSpan (mode.next c) (nextDepth mode depth c) (c :: taken) rest

/-- The first span with balanced braces, which begins at the first brace. -/
def firstSpan? (cs : List Char) : Option (List Char) :=
  match cs.dropWhile (· ≠ '\x7b') with
  | [] => none
  | cs => scanSpan .plain 0 [] cs

/-- The first span of a text with balanced braces. -/
def firstObject? (text : String) : Option String := (firstSpan? text.toList).map String.ofList

/-! ### Documents -/

/-- Why a reply holds no document. -/
inductive ReplyError where
  /-- The text is malformed. -/
  | malformed (fault : Fault) (position : Position)
  /-- The document is no object. -/
  | notObject
  /-- An integer has more digits than are converted. -/
  | integerTooLong (digits : Nat)
  /-- A compound lies deeper than there is room for. -/
  | nestedTooDeep (compound : Compound)
  deriving DecidableEq

/-- The wording of an error of a reply. -/
def ReplyError.message : ReplyError → String
  | malformed fault position =>
    "Failed to parse AI response: " ++ (ReadError.malformed fault position).message
  | notObject => "Failed to parse AI response: top-level value is not an object"
  | integerTooLong digits => (ReadError.integerTooLong digits).message
  | nestedTooDeep compound => (ReadError.nestedTooDeep compound).message

/-- The error of a reply whose text could not be read. -/
def ReplyError.ofReadError : ReadError → ReplyError
  | .malformed fault position => malformed fault position
  | .integerTooLong digits => integerTooLong digits
  | .nestedTooDeep compound => nestedTooDeep compound

/-- The document of a text that may have chatter around it: when the whole text is malformed,
the first span with balanced braces counts. -/
def readSomewhere (room : Nat) (text : String) : Except ReadError Doc :=
  match Doc.readWithin room text with
  | .error (.malformed fault position) =>
    match firstObject? text with
    | some span => Doc.readWithin room span
    | none => .error (.malformed fault position)
  | outcome => outcome

/-- The document of a reply, which must be an object, with room for some levels of compounds. -/
def readReplyWithin (room : Nat) (reply : String) : Except ReplyError Fields :=
  match readSomewhere room (stripFences reply) with
  | .ok (.obj fields) => .ok fields
  | .ok _ => .error .notObject
  | .error error => .error (.ofReadError error)

/-- The document of a reply, on a stack that holds nothing else. -/
def readReply (reply : String) : Except ReplyError Fields := readReplyWithin standardRoom reply

end CapsuleLoom
