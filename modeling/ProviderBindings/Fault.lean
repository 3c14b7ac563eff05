import ProviderBindings.Text.Utf8
import ProviderBindings.Toml.Problem
import ProviderBindings.Value.Basic

/-! # Faults

What can keep an operation from giving its result. A fault is a cause; its wording
is in `Fault.message` alone. -/
namespace ProviderBindings

/-- Integers with more decimal digits than this have no text, and none is read. -/
def digitLimit : Nat := 4300

/-- An operation that a value may be asked for and not have. -/
inductive Operation
  | upper
  | get
  deriving DecidableEq, Repr

/-- The name of an operation in messages. -/
def Operation.name : Operation → String
  | .upper => "upper"
  | .get => "get"

/-- The cause of a failure. -/
inductive Fault
  | integerTooLong
  | undecodable (problem : Text.Utf8.Problem)
  | unreadable (error : Toml.Error)
  | notSupported (kind : Kind) (operation : Operation)
  | notIterable (kind : Kind)
  | notAKey (kind : Kind)
  | notAPath (kind : Kind)
  | unknownSeverity (word : String)
  | fixedField (name : String)
  | nullInPath
  | notFound (path : String)
  | isDirectory (path : String)
  | notDirectory (path : String)
  | fileExists (path : String)
  | pathTooLong (path : String)
  deriving DecidableEq, Repr

/-- The wording of the limit on integers. -/
def digitLimitMessage : String :=
  s!"Exceeds the limit ({digitLimit} digits) for integer string conversion"

/-- What to do about the limit on integers. -/
def digitLimitAdvice : String := "use sys.set_int_max_str_digits() to increase the limit"

/-- The wording of a reader's error. -/
def Toml.Error.message : Toml.Error → String
  | .malformed problem place => s!"{problem.message} (at {place.message})"
  | .tooManyDigits count =>
    s!"{digitLimitMessage}: value has {count} digits; {digitLimitAdvice}"

/-- The wording of a fault. -/
def Fault.message : Fault → String
  | .integerTooLong => s!"{digitLimitMessage}; {digitLimitAdvice}"
  | .undecodable problem => problem.message
  | .unreadable error => error.message
  | .notSupported kind operation =>
    s!"'{kind.name}' object has no attribute '{operation.name}'"
  | .notIterable kind => s!"'{kind.name}' object is not iterable"
  | .notAKey kind => s!"unhashable type: '{kind.name}'"
  | .notAPath kind => s!"expected str, bytes or os.PathLike object, not {kind.bareName}"
  | .unknownSeverity word => s!"{Text.quoted word} is not a valid Severity"
  | .fixedField name => s!"cannot assign to field {Text.quoted name}"
  | .nullInPath => "embedded null byte"
  | .notFound path => s!"[Errno 2] No such file or directory: {Text.quoted path}"
  | .isDirectory path => s!"[Errno 21] Is a directory: {Text.quoted path}"
  | .notDirectory path => s!"[Errno 20] Not a directory: {Text.quoted path}"
  | .fileExists path => s!"[Errno 17] File exists: {Text.quoted path}"
  | .pathTooLong path => s!"[Errno 36] File name too long: {Text.quoted path}"

end ProviderBindings
