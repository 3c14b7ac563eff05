import ProviderBindings.Toml.StringLiteral

/-! # Keys of a document

A key is a sequence of parts with points between them. A part is written bare, in
letters, digits, `-` and `_`, or as a string on one line. -/
namespace ProviderBindings.Toml

/-- Whether a character can stand in a bare part of a key. -/
def isBareKeyChar (c : Char) : Bool := c.isAlphanum || c == '-' || c == '_'

/-- Whether a part of a key can begin with a character. -/
def isKeyStart (c : Char) : Bool := isBareKeyChar c || c == '"' || c == '\''

/-- A part of a key. -/
def readKeyPart : List Char → Except Failure (Scanned String)
  | '\'' :: rest => readLiteralLine rest
  | '"' :: rest => readBasicLine rest
  | text =>
    match text.takeWhile isBareKeyChar with
    | [] => fail .invalidKeyStart text
    | part => .ok (String.ofList part, text.dropWhile isBareKeyChar)

/-- A key of at most `parts` parts, with the blanks after it. -/
def readKeyOf : (parts : Nat) → List Char → Except Failure (Scanned Key)
  | 0, text => fail .invalidKeyStart text
  | parts + 1, text => do
    let (part, rest) ← readKeyPart text
    match skipBlanks rest with
    | '.' :: rest =>
      let (key, rest) ← readKeyOf parts (skipBlanks rest)
      return (part :: key, rest)
    | rest => return ([part], rest)

/-- A key, with the blanks after it. It has no more parts than the text has
characters. -/
def readKey (text : List Char) : Except Failure (Scanned Key) := readKeyOf (text.length + 1) text

end ProviderBindings.Toml
