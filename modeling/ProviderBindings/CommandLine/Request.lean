import ProviderBindings.CommandLine.Usage

/-! # What a command line asks for

A command line asks for help, or it asks for a command with its settings, or it is
misused. Options take effect from left to right, so that help which is asked for
before a misuse is given; of a repeated option the last one counts. Arguments that
nothing can be done with are a misuse of the program, once all others are read. -/
namespace ProviderBindings

/-- What is asked of the command that writes the module: where to write it, whether to
print it instead, and whether errors are no hindrance. -/
structure GenerateSettings where
  output : Option Options.Given
  stdout : Bool
  force : Bool
  deriving DecidableEq, Repr

/-- A command with its settings. -/
inductive Command
  | generate (settings : GenerateSettings)
  | validate
  | info
  deriving DecidableEq, Repr

/-- What a command line asks for. -/
inductive Request
  | help (usage : Usage)
  | misuse (usage : Usage) (problem : Options.Misuse)
  | run (config : Option Options.Given) (command : Command)

namespace Request

open Options

/-- The settings before any option is read. -/
def noSettings : GenerateSettings := ⟨none, false, false⟩

/-- The settings after one more option. -/
def setting (s : GenerateSettings) : Switch → Option Given → GenerateSettings
  | .output, value => { s with output := value }
  | .stdout, _ => { s with stdout := true }
  | .force, _ => { s with force := true }
  | _, _ => s

/-- The command of a name with settings. -/
def command (s : GenerateSettings) : CommandName → Command
  | .generate => .generate s
  | .validate => .validate
  | .info => .info

/-- What the steps of a command's own arguments ask for, after the settings `s`.
`surplus` are the arguments so far that nothing can be done with. -/
def ofCommandSteps (config : Option Given) (name : CommandName) :
    GenerateSettings → (surplus : List String) → List (Step Switch) → Request
  | s, [], [] => .run config (command s name)
  | _, surplus, [] => .misuse .ofProgram (.unrecognized surplus)
  | s, surplus, step :: rest =>
    match step with
    | .option .help => .help (.ofCommand name)
    | .option key => ofCommandSteps config name (setting s key none) surplus rest
    | .value key value => ofCommandSteps config name (setting s key (some value)) surplus rest
    | .word arg _ => ofCommandSteps config name s (surplus ++ [arg]) rest
    | .surplus arg => ofCommandSteps config name s (surplus ++ [arg]) rest
    | .misuse problem => .misuse (.ofCommand name) problem

/-- What a command word asks for with the arguments after it. -/
def ofCommand (config : Option Given) (surplus : List String) (word : String)
    (args : List String) : Request :=
  match CommandName.ofWord? word with
  | some name =>
    ofCommandSteps config name noSettings surplus (read (Usage.ofCommand name).options args)
  | none => .misuse .ofProgram (.invalidCommand word (CommandName.all.map CommandName.word))

/-- What the steps of the program's arguments ask for, up to the command word. -/
def ofSteps (config : Option Given) (surplus : List String) : List (Step Switch) → Request
  | [] => if surplus.isEmpty then .help .ofProgram else .misuse .ofProgram (.unrecognized surplus)
  | step :: rest =>
    match step with
    | .option .help => .help .ofProgram
    | .option _ => ofSteps config surplus rest
    | .value _ value => ofSteps (some value) surplus rest
    | .word arg args =>
      if arg = "--" ∧ args.isEmpty then ofSteps config (surplus ++ [arg]) rest
      else ofCommand config surplus arg args
    | .surplus arg => ofSteps config (surplus ++ [arg]) rest
    | .misuse problem => .misuse .ofProgram problem

/-- What a command line asks for. -/
def ofArgs (args : List String) : Request := ofSteps none [] (read Usage.ofProgram.options args)

end Request

end ProviderBindings
