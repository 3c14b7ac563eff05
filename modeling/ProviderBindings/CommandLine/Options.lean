import ProviderBindings.Text.DecimalDigit
import ProviderBindings.Text.Quoted

/-! # Options among arguments

How a list of arguments is told apart into options, their values and other words.
An option has names, such as `-o` and `--output`, and may take a value. It can be
written in several ways:

* `--output x`, `--output=x`, and with a beginning of its name that no other option
  has, `--out x`;
* `-o x`, `-ox`, `-o=x`;
* options of one letter that take no value may be joined, `-ab`, and the last of the
  group may take the value that follows.

After `--` no argument is an option. Written as the value of an option, as in `-o--`,
it is dropped, and the option is left without a value. A joined letter that is no option
is a misuse of the one before it. Reading gives a list of steps in the order of the
arguments, and ends at the first misuse; what a step does is for others to say.

These are the rules of release 3.11.2 of the argument parser. Later ones, 3.11.10 among
them, keep a `--` that is written as a value, set a joined letter that is no option aside,
so that `-hx` shows the help, and take `=` after an option without a value, as in `-h=c`,
for a misuse. -/
namespace ProviderBindings

/-- An option: what it stands for, its names, and whether it takes a value. -/
structure OptionSpec (κ : Type) where
  key : κ
  names : List String
  takesValue : Bool

namespace Options

/-- What an option that takes a value is given: a text, or nothing where the separator was
written as the value. -/
inductive Given
  | text (s : String)
  | nothing
  deriving DecidableEq, Repr

namespace Given

/-- What is given with a text as the value. -/
def ofText (s : String) : Given := if s = "--" then .nothing else .text s

theorem ofText_of_ne {s : String} (h : s ≠ "--") : ofText s = .text s := by
  simp [ofText, h]

end Given

/-- What can be wrong with arguments. -/
inductive Misuse
  | ambiguous (arg : String) (candidates : List String)
  | missingValue (names : List String)
  | unwantedValue (names : List String) (value : String)
  | invalidCommand (word : String) (commands : List String)
  | unrecognized (args : List String)
  deriving DecidableEq, Repr

/-- The wording of a misuse. -/
def Misuse.message : Misuse → String
  | .ambiguous arg candidates =>
    "ambiguous option: " ++ arg ++ " could match " ++ ", ".intercalate candidates
  | .missingValue names => "argument " ++ "/".intercalate names ++ ": expected one argument"
  | .unwantedValue names value =>
    "argument " ++ "/".intercalate names ++ ": ignored explicit argument " ++ Text.quoted value
  | .invalidCommand word commands =>
    "argument command: invalid choice: " ++ Text.quoted word ++ " (choose from " ++
      ", ".intercalate (commands.map Text.quoted) ++ ")"
  | .unrecognized args => "unrecognized arguments: " ++ " ".intercalate args

variable {κ : Type}

/-- An option that an argument names: under which name, and the value that the argument
itself gives. -/
structure Named (κ : Type) where
  spec : OptionSpec κ
  name : String
  value : Option (List Char)

/-- What an argument is: a word, the separator after which all are words, a known option,
or one that is not known. -/
inductive Token (κ : Type)
  | word
  | separator
  | known (named : Named κ)
  | unknown

/-- The option of a name. -/
def find? (specs : List (OptionSpec κ)) (name : String) : Option (OptionSpec κ) :=
  specs.find? (·.names.contains name)

/-- All names of options, with their options, in order. -/
def allNames (specs : List (OptionSpec κ)) : List (String × OptionSpec κ) :=
  specs.flatMap fun spec => spec.names.map fun name => (name, spec)

/-- Whether digits, and among them at most one point with digits after it, make up a
text. -/
def isNumber (text : List Char) : Bool :=
  let rest := text.dropWhile Text.isDecimalDigit
  match rest with
  | [] => !text.isEmpty
  | c :: digits => c == '.' && !digits.isEmpty && digits.all Text.isDecimalDigit

/-- The text without the line end that it may end with. -/
def dropLineEnd (text : List Char) : List Char :=
  if text.getLast? = some '\n' then text.dropLast else text

/-- Whether an argument is a negative number. -/
def isNegativeNumber : List Char → Bool
  | '-' :: rest => isNumber rest || isNumber (dropLineEnd rest)
  | _ => false

/-- The part of a text before the first `=`, and the part after it. -/
def splitEquals? (text : List Char) : Option (List Char × List Char) :=
  match text.dropWhile (· != '=') with
  | [] => none
  | _ :: value => some (text.takeWhile (· != '='), value)

/-- Whether an argument has the form of a long name. -/
def isLong (arg : List Char) : Bool := ['-', '-'].isPrefixOf arg

/-- The options that an argument can mean which is the full name of none: those whose long
name begins with it, or the one whose letter it begins with. -/
def candidates (specs : List (OptionSpec κ)) (arg : List Char) : List (Named κ) :=
  if isLong arg then
    let (start, value) :=
      match splitEquals? arg with
      | some (start, value) => (start, some value)
      | none => (arg, none)
    ((allNames specs).filter fun (name, _) => start.isPrefixOf name.toList).map
      fun (name, spec) => ⟨spec, name, value⟩
  else
    ((allNames specs).filter fun (name, _) => name.toList = arg.take 2).map
      fun (name, spec) => ⟨spec, name, some (arg.drop 2)⟩

/-- The option that an argument names in full, with or without a value after `=`. -/
def namedInFull? (specs : List (OptionSpec κ)) (arg : List Char) : Option (Named κ) :=
  match find? specs (String.ofList arg) with
  | some spec => some ⟨spec, String.ofList arg, none⟩
  | none => do
    let (start, value) ← splitEquals? arg
    let spec ← find? specs (String.ofList start)
    return ⟨spec, String.ofList start, some value⟩

/-- What one argument is, before a separator. -/
def classify (specs : List (OptionSpec κ)) (arg : String) : Except Misuse (Token κ) :=
  let chars := arg.toList
  if arg = "--" then .ok .separator
  else if chars.head? ≠ some '-' ∨ chars.length = 1 then .ok .word
  else
    match namedInFull? specs chars with
    | some named => .ok (.known named)
    | none =>
      match candidates specs chars with
      | [named] => .ok (.known named)
      | [] => .ok (if isNegativeNumber chars || chars.contains ' ' then .word else .unknown)
      | several => .error (.ambiguous arg (several.map (·.name)))

/-- The arguments with what they are. -/
def classifyAll (specs : List (OptionSpec κ)) :
    List String → Except Misuse (List (String × Token κ))
  | [] => .ok []
  | arg :: rest => do
    match ← classify specs arg with
    | .separator => return (arg, .separator) :: rest.map fun word => (word, .word)
    | token => return (arg, token) :: (← classifyAll specs rest)

/-- A step of reading arguments: an option, with its value if it takes one, a word, an
argument that cannot be used, or the misuse at which reading ends. -/
inductive Step (κ : Type)
  | option (key : κ)
  | value (key : κ) (value : Given)
  | word (arg : String) (rest : List String)
  | surplus (arg : String)
  | misuse (problem : Misuse)

/-- What an argument with an option comes to: the options of a group that take no value,
and the option at its end, which may have its value or still need one. -/
structure Group (κ : Type) where
  flags : List κ
  last : OptionSpec κ
  value : Option String

/-- The options that are joined in one argument. `value` is what follows the option `spec`
in the argument; it is its value if it takes one, and else begins with the letter of
the next option. -/
def readGroup (specs : List (OptionSpec κ)) (spec : OptionSpec κ) (joins : Bool) :
    List Char → Except Misuse (Group κ)
  | [] =>
    if spec.takesValue then .ok ⟨[], spec, some ""⟩
    else .error (.unwantedValue spec.names "")
  | c :: rest =>
    if spec.takesValue then .ok ⟨[], spec, some (String.ofList (c :: rest))⟩
    else if joins then
      match find? specs (String.ofList ['-', c]) with
      | none => .error (.unwantedValue spec.names (String.ofList (c :: rest)))
      | some next =>
        if rest.isEmpty then .ok ⟨[spec.key], next, none⟩
        else
          (readGroup specs next true rest).map fun group =>
            { group with flags := spec.key :: group.flags }
    else .error (.unwantedValue spec.names (String.ofList (c :: rest)))

/-- The options in one argument. -/
def Named.group (specs : List (OptionSpec κ)) (named : Named κ) : Except Misuse (Group κ) :=
  match named.value with
  | none => .ok ⟨[], named.spec, none⟩
  | some value => readGroup specs named.spec (!isLong named.name.toList) value

/-- The steps of arguments. -/
def stepsOf (specs : List (OptionSpec κ)) : List (String × Token κ) → List (Step κ)
  | [] => []
  | (_, .known named) :: rest =>
    match named.group specs with
    | .error problem => [.misuse problem]
    | .ok ⟨flags, last, some value⟩ =>
      flags.map .option ++ .value last.key (.ofText value) :: stepsOf specs rest
    | .ok ⟨flags, last, none⟩ =>
      if last.takesValue then
        match rest with
        | (value, .word) :: rest =>
          flags.map .option ++ .value last.key (.ofText value) :: stepsOf specs rest
        | _ => [.misuse (.missingValue last.names)]
      else flags.map .option ++ .option last.key :: stepsOf specs rest
  | (arg, .unknown) :: rest => .surplus arg :: stepsOf specs rest
  | (arg, _) :: rest => .word arg (rest.map (·.1)) :: stepsOf specs rest

/-- The steps of a list of arguments. An argument that could mean several options is a
misuse before all others. -/
def read (specs : List (OptionSpec κ)) (args : List String) : List (Step κ) :=
  match classifyAll specs args with
  | .ok tokens => stepsOf specs tokens
  | .error problem => [.misuse problem]

end Options

end ProviderBindings
