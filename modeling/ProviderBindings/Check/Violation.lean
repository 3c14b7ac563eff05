import ProviderBindings.Value.Text

/-! # Violations

A violation is one thing that is wrong with one network of a manifest, with what
is needed to find it there. -/
namespace ProviderBindings

/-- How much a violation matters: an error keeps a module from being generated
unless that is forced, a warning does not. -/
inductive Severity
  | error
  | warning
  deriving DecidableEq, Repr

namespace Severity

/-- The word for a severity. -/
def word : Severity → String
  | .error => "error"
  | .warning => "warning"

/-- The severity as the first word of a message. -/
def label : Severity → String
  | .error => "ERROR"
  | .warning => "WARNING"

/-- The severity that a word stands for. -/
def ofWord (word : String) : Except Fault Severity :=
  if word = "error" then .ok .error
  else if word = "warning" then .ok .warning
  else .error (.unknownSeverity word)

theorem ofWord_word (s : Severity) : ofWord s.word = .ok s := by
  cases s <;> rfl

end Severity

/-- Something wrong with the network at `index` in a manifest. `network` is its name
and `field` the field at fault; either is empty when there is none to give. `code`
names the sort of violation. -/
structure Violation where
  severity : Severity
  code : String
  message : String
  index : Int
  network : String
  field : String
  deriving DecidableEq, Repr

namespace Violation

/-- Whether the violation is an error. -/
def isError (v : Violation) : Bool := v.severity == .error

/-- Whether the violation is a warning. -/
def isWarning (v : Violation) : Bool := v.severity == .warning

/-- Where the violation is, such as `networks[2].url (base)`. -/
def location (v : Violation) : Except Fault String := do
  let index ← integerText v.index
  let field := if v.field = "" then "" else "." ++ v.field
  let network := if v.network = "" then "" else " (" ++ v.network ++ ")"
  return "networks[" ++ index ++ "]" ++ field ++ network

/-- The violation on one line: its severity, its place and its message. -/
def text (v : Violation) : Except Fault String :=
  return v.severity.label ++ " " ++ (← v.location) ++ ": " ++ v.message

end Violation

end ProviderBindings
