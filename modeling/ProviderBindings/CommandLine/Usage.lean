import ProviderBindings.CommandLine.Options

/-! # The commands and their help

The program and each of its commands read their own options. For each of them this
module holds its name, its options, its usage and its help. -/
namespace ProviderBindings

/-- The options of the program and its commands. -/
inductive Switch
  | help
  | config
  | output
  | stdout
  | force
  deriving DecidableEq, Repr

/-- The commands of the program. -/
inductive CommandName
  | generate
  | validate
  | info
  deriving DecidableEq, Repr

namespace CommandName

/-- All commands, in the order in which they are listed. -/
def all : List CommandName := [.generate, .validate, .info]

/-- The word for a command. -/
def word : CommandName → String
  | .generate => "generate"
  | .validate => "validate"
  | .info => "info"

/-- The command that a word stands for, which is never abbreviated. -/
def ofWord? (word : String) : Option CommandName := all.find? (·.word = word)

theorem ofWord?_word (c : CommandName) : ofWord? c.word = some c := by
  cases c <;> rfl

end CommandName

/-- A reader of arguments: the name under which it speaks, its options, and the lines of its
usage and of its help, which begins with the usage. -/
structure Usage where
  program : String
  options : List (OptionSpec Switch)
  summary : String
  details : List String

namespace Usage

/-- The option that shows the help. -/
def helpOption : OptionSpec Switch := ⟨.help, ["-h", "--help"], false⟩

/-- The usage as a line. -/
def line (u : Usage) : String := "usage: " ++ u.program ++ " " ++ u.summary ++ "\n"

/-- The text of the help. -/
def help (u : Usage) : String := u.line ++ String.join (u.details.map (· ++ "\n"))

/-- What a misuse is answered with. -/
def complaint (u : Usage) (problem : Options.Misuse) : String :=
  u.line ++ u.program ++ ": error: " ++ problem.message ++ "\n"

/-- The reader of the arguments before the command. -/
def ofProgram : Usage where
  program := "netbindgen"
  options := [helpOption, ⟨.config, ["-c", "--config"], true⟩]
  summary := "[-h] [-c CONFIG] \x7bgenerate,validate,info\x7d ..."
  details :=
    ["",
     "Generate shared network provider bindings from a manifest.",
     "",
     "positional arguments:",
     "  \x7bgenerate,validate,info\x7d",
     "    generate            Generate the bindings module",
     "    validate            Run constraint validation",
     "    info                Show networks and generated identifiers",
     "",
     "options:",
     "  -h, --help            show this help message and exit",
     "  -c CONFIG, --config CONFIG",
     "                        Path to netbindgen.toml (default: ./netbindgen.toml)"]

/-- The command that writes the module. -/
def generate : Usage where
  program := "netbindgen generate"
  options :=
    [helpOption, ⟨.output, ["-o", "--output"], true⟩, ⟨.stdout, ["--stdout"], false⟩,
     ⟨.force, ["--force"], false⟩]
  summary := "[-h] [-o OUTPUT] [--stdout] [--force]"
  details :=
    ["",
     "options:",
     "  -h, --help            show this help message and exit",
     "  -o OUTPUT, --output OUTPUT",
     "                        Output file (default: [output] path from the config)",
     "  --stdout              Print output to stdout instead of writing a file",
     "  --force               Generate even if validation errors exist"]

/-- A command without options of its own. -/
def plain (word : String) : Usage where
  program := "netbindgen " ++ word
  options := [helpOption]
  summary := "[-h]"
  details :=
    ["",
     "options:",
     "  -h, --help  show this help message and exit"]

/-- The reader of a command's arguments. -/
def ofCommand : CommandName → Usage
  | .generate => generate
  | c => plain c.word

end Usage

end ProviderBindings
