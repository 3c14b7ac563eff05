import ProviderBindings.Toml.Problem

/-! # Reading a document from left to right

A reader takes the text that is left and gives what it has read together with the
rest. When it fails, it says at which rest, so that the place of the failure is
known wherever the reader began.

This module holds what stands between the parts of a document: blanks, line ends
and comments. -/
namespace ProviderBindings.Toml

/-- Why a reader stopped: a problem where `rest` begins, or an integer with too many
digits. -/
inductive Failure
  | problem (p : Problem) (rest : List Char)
  | tooManyDigits (count : Nat)
  deriving DecidableEq, Repr

/-- A problem where `rest` begins. -/
def fail {α : Type} (p : Problem) (rest : List Char) : Except Failure α :=
  .error (.problem p rest)

/-- What has been read, and the rest. -/
abbrev Scanned (α : Type) := α × List Char

/-- Whether a character is white space within a line. -/
def isBlank (c : Char) : Bool := c == ' ' || c == '\t'

/-- Whether a character is white space. -/
def isSpace (c : Char) : Bool := isBlank c || c == '\n'

/-- Whether a character is a control character of ASCII. -/
def isControl (c : Char) : Bool := decide (c.toNat < 32) || c.toNat == 127

/-- Whether a character may not stand within a line. -/
def isLineControl (c : Char) : Bool := isControl c && c != '\t'

/-- Whether a character may not stand within a text of several lines. -/
def isTextControl (c : Char) : Bool := isLineControl c && c != '\n'

/-- The text after the blanks at its start. -/
def skipBlanks (text : List Char) : List Char := text.dropWhile isBlank

/-- A comment, after its mark, up to the end of its line, which is left. -/
def skipCommentBody : List Char → Except Failure (List Char)
  | [] => .ok []
  | c :: rest =>
    if c = '\n' then .ok (c :: rest)
    else if isLineControl c then fail (.invalidCharacter c) (c :: rest)
    else skipCommentBody rest

/-- A comment, if there is one. -/
def skipComment : List Char → Except Failure (List Char)
  | '#' :: rest => skipCommentBody rest
  | text => .ok text

/-- White space, line ends and comments; `inComment` says that a comment has begun. -/
def skipTriviaFrom (inComment : Bool) : List Char → Except Failure (List Char)
  | [] => .ok []
  | c :: rest =>
    if inComment then
      if c = '\n' then skipTriviaFrom false rest
      else if isLineControl c then fail (.invalidCharacter c) (c :: rest)
      else skipTriviaFrom true rest
    else if isSpace c then skipTriviaFrom false rest
    else if c = '#' then skipTriviaFrom true rest
    else .ok (c :: rest)

/-- White space, line ends and comments. -/
def skipTrivia (text : List Char) : Except Failure (List Char) := skipTriviaFrom false text

/-- What stands before the first occurrence of a delimiter and what follows it. -/
def splitAt? (delimiter : List Char) : List Char → Option (List Char × List Char)
  | [] => none
  | c :: rest =>
    if delimiter.isPrefixOf (c :: rest) then some ([], (c :: rest).drop delimiter.length)
    else (splitAt? delimiter rest).map fun (before, after) => (c :: before, after)

/-- The text up to a delimiter, which must occur; no refused character may stand before
it. -/
def readUntil (delimiter : List Char) (refused : Char → Bool) (text : List Char) :
    Except Failure (Scanned (List Char)) :=
  match splitAt? delimiter text with
  | none => fail (.missingDelimiter (String.ofList delimiter)) []
  | some (before, after) =>
    if before.any refused then
      match text.dropWhile fun c => !refused c with
      | c :: rest => fail (.invalidCharacter c) (c :: rest)
      | [] => .ok (before, after)
    else .ok (before, after)

end ProviderBindings.Toml
