import ProviderBindings.Check.Findings
import ProviderBindings.Identifier
import ProviderBindings.Network

/-! # Checks of single networks

What must hold of a network by itself for a module to be generated from it. The
name and the address must be strings, and not empty; the identifier derived from
the name must be one; the address must be able to stand in a string literal as it
is; a bound on the work per second, if there is one, must be a positive integer.

A check fails only where its message would show an integer with too many digits. -/
namespace ProviderBindings

/-! ## The codes of violations -/

namespace Code

/-- A name that is no string. -/
def invalidName : String := "invalid_name"

/-- An empty name. -/
def missingName : String := "missing_name"

/-- A name that derives no identifier. -/
def invalidIdentifier : String := "invalid_identifier"

/-- An address that is no string. -/
def invalidUrl : String := "invalid_url"

/-- An empty address. -/
def missingUrl : String := "missing_url"

/-- An address that cannot stand in a string literal. -/
def unsafeUrl : String := "unsafe_url"

/-- A bound on the work per second that is no positive integer. -/
def invalidComputeUnits : String := "invalid_compute_units"

/-- A name that derives the same identifiers as an earlier one. -/
def duplicateName : String := "duplicate_name"

/-- The address of an earlier network. -/
def duplicateUrl : String := "duplicate_url"

/-- The codes of violations that leave nothing to generate from. -/
def unrenderable : List String := [invalidName, invalidUrl]

end Code

namespace Network

/-- The violation of a field of the network at `index`. -/
def violation (n : Network) (index : Nat) (severity : Severity) (code : String) (field : Field)
    (message : String) : Violation :=
  ⟨severity, code, message, index, n.nameOrEmpty, field.label⟩

/-- Whether a character would end or change a string literal in which it stands. -/
def breaksLiteral (c : Char) : Bool := c ∈ ['"', '\\', '\n', '\r']

/-- What is wrong with the name of the network at `index`. -/
def findingsOnName (n : Network) (index : Nat) : Except Fault Findings :=
  let error := n.violation index .error
  match n.name with
  | .string name =>
    if name = "" then
      return [error Code.missingName .name ("No network name (url=" ++ (← n.url.inspect) ++ ")")]
    else if Identifier.isLine (Identifier.storage name) then return []
    else
      return [error Code.invalidIdentifier .name
        (s!"Name {Text.quoted name} derives {Text.quoted (Identifier.storage name)}, " ++
          "which is not a valid identifier")]
  | name =>
    return [error Code.invalidName .name ("Name must be a string, got " ++ (← name.inspect))]

/-- What is wrong with the address of the network at `index`. -/
def findingsOnUrl (n : Network) (index : Nat) : Except Fault Findings :=
  let error := n.violation index .error
  match n.url with
  | .string url =>
    if url = "" then return [error Code.missingUrl .url "No url"]
    else if url.toList.any breaksLiteral then
      return [error Code.unsafeUrl .url
        s!"Url {Text.quoted url} cannot be embedded in a string literal"]
    else return []
  | url => return [error Code.invalidUrl .url ("Url must be a string, got " ++ (← url.inspect))]

/-- Whether a bound on the work per second is absent or a positive integer. -/
def unitsAllowed : Value → Bool
  | .absent => true
  | .integer n => decide (0 < n)
  | _ => false

/-- What is wrong with the bound on the work per second of the network at `index`. -/
def findingsOnComputeUnits (n : Network) (index : Nat) : Except Fault Findings :=
  if unitsAllowed n.computeUnits then return []
  else
    return [n.violation index .error Code.invalidComputeUnits .computeUnits
      ("Must be a positive integer, got " ++ (← n.computeUnits.inspect))]

/-- What is wrong with the fields of the network at `index`. -/
def findingsOnFields (n : Network) (index : Nat) : Except Fault Findings :=
  return (← n.findingsOnName index) ++ (← n.findingsOnUrl index) ++
    (← n.findingsOnComputeUnits index)

end Network

namespace Check

/-- What is wrong with the fields of networks of which the first is at `index`. -/
def fieldsFrom (index : Nat) : List Network → Except Fault Findings
  | [] => return []
  | n :: rest => return (← n.findingsOnFields index) ++ (← fieldsFrom (index + 1) rest)

/-- The fields of one part of a list are checked without regard to the other, the index
apart. -/
theorem fieldsFrom_append (index : Nat) (xs ys : List Network) :
    fieldsFrom index (xs ++ ys) =
      (do return (← fieldsFrom index xs) ++ (← fieldsFrom (index + xs.length) ys)) := by
  induction xs generalizing index with
  | nil => simp [fieldsFrom]
  | cons n rest ih =>
    have h : index + (rest.length + 1) = index + 1 + rest.length := by omega
    simp only [List.cons_append, fieldsFrom, ih, List.length_cons, h]
    cases n.findingsOnFields index <;> cases fieldsFrom (index + 1) rest <;>
      cases fieldsFrom (index + 1 + rest.length) ys <;>
      simp [bind, Except.bind, pure, Except.pure]

/-- What is wrong with the fields of the networks of a manifest. -/
def fields (networks : List Network) : Except Fault Findings := fieldsFrom 0 networks

end Check

end ProviderBindings
