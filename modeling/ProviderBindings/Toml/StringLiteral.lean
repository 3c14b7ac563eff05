import ProviderBindings.Text.Digits
import ProviderBindings.Toml.Scan

/-! # Strings of a document

A string is written in one of four ways: between quotation marks with escapes, or
between apostrophes as it is, each on one line or over several. -/
namespace ProviderBindings.Toml

/-- The character that an escape of one letter stands for. -/
def letterEscape? : Char → Option Char
  | 'b' => some '\x08'
  | 't' => some '\t'
  | 'n' => some '\n'
  | 'f' => some '\x0c'
  | 'r' => some '\r'
  | '"' => some '"'
  | '\\' => some '\\'
  | _ => none

/-- The value of a sequence of hexadecimal digits. -/
def hexValue? (digits : List Char) : Option Nat :=
  if digits.all fun c => (Text.hexDigit? c).isSome then some (Text.digitsValue 16 digits) else none

/-- White space that is being left out of a string of several lines after a backslash:
up to the end of the line, which must come next, or from there on. -/
inductive Gap
  | none
  | toLineEnd
  | beyondLineEnd
  deriving DecidableEq, Repr

/-- A character before what is read after it. -/
def before (c : Char) (reading : Except Failure (Scanned (List Char))) :
    Except Failure (Scanned (List Char)) :=
  reading.map fun (text, rest) => (c :: text, rest)

/-- The rest of a string with escapes, up to and with its closing marks. -/
def readBasic (multiline : Bool) : Gap → List Char → Except Failure (Scanned (List Char))
  | _, [] => fail .stringNotEnded []
  | gap, c :: rest =>
    if gap = .toLineEnd then
      if isBlank c then readBasic multiline .toLineEnd rest
      else if c = '\n' then readBasic multiline .beyondLineEnd rest
      else fail .invalidEscape (c :: rest)
    else if gap = .beyondLineEnd ∧ isSpace c then readBasic multiline .beyondLineEnd rest
    else if c = '"' then
      if multiline then
        match rest with
        | '"' :: '"' :: rest => .ok ([], rest)
        | _ => before c (readBasic multiline .none rest)
      else .ok ([], rest)
    else if c = '\\' then
      match rest with
      | 'u' :: a :: b :: c :: d :: rest =>
        match hexValue? [a, b, c, d] with
        | some code =>
          if code.isValidChar then before (.ofNat code) (readBasic multiline .none rest)
          else fail .notScalar rest
        | none => fail .invalidHex (a :: b :: c :: d :: rest)
      | 'u' :: rest => fail .invalidHex rest
      | 'U' :: a :: b :: c :: d :: e :: f :: g :: h :: rest =>
        match hexValue? [a, b, c, d, e, f, g, h] with
        | some code =>
          if code.isValidChar then before (.ofNat code) (readBasic multiline .none rest)
          else fail .notScalar rest
        | none => fail .invalidHex (a :: b :: c :: d :: e :: f :: g :: h :: rest)
      | 'U' :: rest => fail .invalidHex rest
      | e :: rest =>
        match letterEscape? e with
        | some c => before c (readBasic multiline .none rest)
        | none =>
          if multiline ∧ isBlank e then readBasic multiline .toLineEnd rest
          else if multiline ∧ e = '\n' then readBasic multiline .beyondLineEnd rest
          else fail .invalidEscape rest
      | [] => fail .invalidEscape []
    else if if multiline then isTextControl c else isLineControl c then
      fail (.illegalCharacter c) (c :: rest)
    else before c (readBasic multiline .none rest)

/-- A string with escapes on one line, after its opening mark. -/
def readBasicLine (text : List Char) : Except Failure (Scanned String) := do
  let (chars, rest) ← readBasic false .none text
  return (String.ofList chars, rest)

/-- A string without escapes on one line, after its opening mark. -/
def readLiteralLine (text : List Char) : Except Failure (Scanned String) := do
  let (chars, rest) ← readUntil ['\''] isLineControl text
  return (String.ofList chars, rest)

/-- The text without the line end that it may begin with. -/
def skipLineEnd : List Char → List Char
  | '\n' :: rest => rest
  | text => text

/-- Up to two marks right after the closing three, which belong to the string. -/
def trailingMarks (mark : Char) (text : List Char) : List Char :=
  (text.take 2).takeWhile (· == mark)

/-- A string over several lines that has been read up to its closing marks, with the
marks after them. -/
def withTrailingMarks (mark : Char) (chars rest : List Char) : String × List Char :=
  let marks := trailingMarks mark rest
  (String.ofList (chars ++ marks), rest.drop marks.length)

/-- A string with escapes over several lines, after its opening marks. -/
def readBasicLines (text : List Char) : Except Failure (Scanned String) := do
  let (chars, rest) ← readBasic true .none (skipLineEnd text)
  return withTrailingMarks '"' chars rest

/-- A string without escapes over several lines, after its opening marks. -/
def readLiteralLines (text : List Char) : Except Failure (Scanned String) := do
  let (chars, rest) ← readUntil ['\'', '\'', '\''] isTextControl (skipLineEnd text)
  return withTrailingMarks '\'' chars rest

end ProviderBindings.Toml
