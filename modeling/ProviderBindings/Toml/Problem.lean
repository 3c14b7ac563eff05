import ProviderBindings.Text.Quoted

/-! # What can be wrong with a document

The ways in which a text fails to be a TOML document, with their wording, and the
place that a message points at. -/
namespace ProviderBindings.Toml

/-- A dotted key: its parts, outermost first. -/
abbrev Key := List String

/-- A dotted key in messages: its parts in quoted form, in parentheses, with a comma
after a part that stands alone. -/
def Key.message : Key → String
  | [part] => s!"({Text.quoted part},)"
  | parts => "(" ++ ", ".intercalate (parts.map Text.quoted) ++ ")"

/-- Why a text is not a document. -/
inductive Problem
  | invalidStatement
  | statementNotEnded
  | invalidKeyStart
  | missingEquals
  | declaredTwice (key : Key)
  | namespaceRedefined (key : Key)
  | namespaceFrozen (key : Key)
  | valueOverwritten
  | duplicateInlineKey (part : String)
  | tableNotClosed
  | arrayOfTablesNotClosed
  | arrayNotClosed
  | inlineTableNotClosed
  | missingDelimiter (delimiter : String)
  | invalidCharacter (c : Char)
  | illegalCharacter (c : Char)
  | stringNotEnded
  | invalidEscape
  | invalidHex
  | notScalar
  | invalidDate
  | invalidValue
  deriving DecidableEq, Repr

/-- The wording of a problem. -/
def Problem.message : Problem → String
  | .invalidStatement => "Invalid statement"
  | .statementNotEnded => "Expected newline or end of document after a statement"
  | .invalidKeyStart => "Invalid initial character for a key part"
  | .missingEquals => "Expected '=' after a key in a key/value pair"
  | .declaredTwice key => s!"Cannot declare {key.message} twice"
  | .namespaceRedefined key => s!"Cannot redefine namespace {key.message}"
  | .namespaceFrozen key => s!"Cannot mutate immutable namespace {key.message}"
  | .valueOverwritten => "Cannot overwrite a value"
  | .duplicateInlineKey part => s!"Duplicate inline table key {Text.quoted part}"
  | .tableNotClosed => "Expected ']' at the end of a table declaration"
  | .arrayOfTablesNotClosed => "Expected ']]' at the end of an array declaration"
  | .arrayNotClosed => "Unclosed array"
  | .inlineTableNotClosed => "Unclosed inline table"
  | .missingDelimiter delimiter => s!"Expected {Text.quoted delimiter}"
  | .invalidCharacter c => s!"Found invalid character {Text.quoted c.toString}"
  | .illegalCharacter c => s!"Illegal character {Text.quoted c.toString}"
  | .stringNotEnded => "Unterminated string"
  | .invalidEscape => "Unescaped '\\' in a string"
  | .invalidHex => "Invalid hex value"
  | .notScalar => "Escaped character is not a Unicode scalar value"
  | .invalidDate => "Invalid date or datetime"
  | .invalidValue => "Invalid value"

/-- A place in a document. Lines and columns count from one. -/
inductive Place
  | position (line column : Nat)
  | documentEnd
  deriving DecidableEq, Repr

/-- The wording of a place. -/
def Place.message : Place → String
  | .position line column => s!"line {line}, column {column}"
  | .documentEnd => "end of document"

/-- The place in `text` at which `rest`, a tail of it, begins. -/
def Place.ofRest (text rest : List Char) : Place :=
  match rest with
  | [] => .documentEnd
  | _ :: _ =>
    let before := text.take (text.length - rest.length)
    .position (before.count '\n' + 1) ((before.reverse.takeWhile (· != '\n')).length + 1)

/-- Why a text cannot be read: a problem at a place, or an integer with more decimal
digits than are read. -/
inductive Error
  | malformed (problem : Problem) (place : Place)
  | tooManyDigits (count : Nat)
  deriving DecidableEq, Repr

end ProviderBindings.Toml
