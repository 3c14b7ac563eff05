import ProviderBindings.Text.CaseTable

/-! # Upper and lower case of a text

Both mappings work on all characters, and one character may become several:
`ß` is `SS` in upper case. Upper case looks at each character by itself. Lower
case does too, with one exception: a capital sigma is written `ς` at the end of a
word and `σ` elsewhere, and the end of a word is seen from its neighbours in the
text that is being mapped. -/
namespace ProviderBindings.Text

open CaseTable

/-- The characters that `c` becomes under a mapping: its expansion if it has one,
else its image if it has one, else itself. -/
def mapChar (expansions : List (Nat × List Nat)) (runs : List Run) (c : Char) : List Char :=
  match expansions.lookup c.toNat with
  | some codes => codes.map Char.ofNat
  | none =>
    match image? runs c.toNat with
    | some code => [Char.ofNat code]
    | none => [c]

/-- The upper case of one character. -/
def upperChar (c : Char) : List Char := mapChar upperExpansions upperRuns c

/-- The lower case of one character, a capital sigma being taken as inside a word. -/
def lowerChar (c : Char) : List Char := mapChar lowerExpansions lowerRuns c

/-- Whether `c` has letter case. -/
def isCased (c : Char) : Bool := CodeRange.covers cased c

/-- Whether `c` is passed over when a cased neighbour is looked for. -/
def isCaseIgnorable (c : Char) : Bool := CodeRange.covers ignorable c

/-- Whether the first character of a text that is not passed over is cased. -/
def startsCased : List Char → Bool
  | [] => false
  | c :: rest => if isCaseIgnorable c then startsCased rest else isCased c

/-- The upper case of a text. -/
def upper (text : List Char) : List Char := text.flatMap upperChar

/-- The lower case of what follows a prefix of a text; `afterCased` says whether the
last character of that prefix that is not passed over is cased. A capital sigma
ends a word when the character before it is cased and the one after it is not. -/
def lowerAfter (afterCased : Bool) : List Char → List Char
  | [] => []
  | c :: rest =>
    let image := if c = 'Σ' ∧ afterCased ∧ !startsCased rest then ['ς'] else lowerChar c
    image ++ lowerAfter (if isCaseIgnorable c then afterCased else isCased c) rest

/-- The lower case of a text. -/
def lower (text : List Char) : List Char := lowerAfter false text

@[simp] theorem upper_nil : upper [] = [] := rfl

@[simp] theorem upper_append (s t : List Char) : upper (s ++ t) = upper s ++ upper t := by
  simp [upper]

@[simp] theorem lower_nil : lower [] = [] := rfl

end ProviderBindings.Text
