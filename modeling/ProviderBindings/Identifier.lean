import ProviderBindings.Fault
import ProviderBindings.Text.LetterCase

/-! # Identifiers derived from a network's name

Two identifiers of the generated module belong to a network: that of its shared
provider and that of the function which hands the provider out. Both come from the
name by these functions alone, and the second from the first, so that they cannot
drift apart:

    provider   NAME_PROVIDER
    accessor   get_name_provider -/
namespace ProviderBindings.Identifier

/-- What follows the name in the identifier of a provider. -/
def storageEnding : String := "_PROVIDER"

/-- What stands before the provider's identifier in that of its accessor. -/
def accessorStart : String := "get_"

/-- The identifier of a network's shared provider. -/
def storage (name : String) : String :=
  String.ofList (Text.upper name.toList) ++ storageEnding

/-- The identifier of the function that hands out a network's provider. -/
def accessor (name : String) : String :=
  accessorStart ++ String.ofList (Text.lower (storage name).toList)

/-- Whether a character can begin an identifier: a letter of ASCII or `_`. -/
def isStart (c : Char) : Bool := c.isAlpha || c == '_'

/-- Whether a character can stand in an identifier: a letter or digit of ASCII or
`_`. -/
def isPart (c : Char) : Bool := c.isAlphanum || c == '_'

/-- Whether a sequence of characters is an identifier. -/
def isWord : List Char → Bool
  | [] => false
  | c :: rest => isStart c && rest.all isPart

/-- Whether a text is an identifier, with or without an end of line after it: what is
checked is a line, and the character that ends a line is no part of it. -/
def isLine (text : String) : Bool :=
  isWord text.toList || (text.toList.getLast? == some '\n' && isWord text.toList.dropLast)

/-- The string that a name is, when it is one; no other value has an upper case. -/
def nameText : Value → Except Fault String
  | .string name => .ok name
  | v => .error (.notSupported v.kind .upper)

@[simp] theorem nameText_string (name : String) : nameText (.string name) = .ok name := rfl

theorem storage_toList (name : String) :
    (storage name).toList = Text.upper name.toList ++ storageEnding.toList := by
  simp [storage]

theorem accessor_toList (name : String) :
    (accessor name).toList = accessorStart.toList ++ Text.lower (storage name).toList := by
  simp [accessor]

end ProviderBindings.Identifier
