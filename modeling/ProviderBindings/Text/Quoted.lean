import ProviderBindings.Text.Digits
import ProviderBindings.Text.Printable

/-! # Quoted text

The quoted form in which messages show a text: between two marks, on one line,
with every character that does not show as itself written as an escape. The mark
is the apostrophe, unless the text holds an apostrophe and no quotation mark; so
the mark itself has to be escaped only when the text holds both. -/
namespace ProviderBindings.Text

/-- The mark that encloses `text`. -/
def quoteMark (text : List Char) : Char :=
  if '\'' ∈ text ∧ '"' ∉ text then '"' else '\''

/-- A code point in hexadecimal, with two, four or eight digits as it needs. -/
def codeEscape (c : Char) : List Char :=
  if c.toNat < 0x100 then '\\' :: 'x' :: paddedHex 2 c.toNat
  else if c.toNat < 0x10000 then '\\' :: 'u' :: paddedHex 4 c.toNat
  else '\\' :: 'U' :: paddedHex 8 c.toNat

/-- One character of a quoted text. -/
def quotedChar (mark c : Char) : List Char :=
  if c = mark ∨ c = '\\' then ['\\', c]
  else if c = '\n' then ['\\', 'n']
  else if c = '\r' then ['\\', 'r']
  else if c = '\t' then ['\\', 't']
  else if isPrintable c then [c]
  else codeEscape c

/-- The quoted form of a sequence of characters. -/
def quotedChars (text : List Char) : List Char :=
  let mark := quoteMark text
  mark :: text.flatMap (quotedChar mark) ++ [mark]

/-- The quoted form of a text. -/
def quoted (text : String) : String := String.ofList (quotedChars text.toList)

end ProviderBindings.Text
