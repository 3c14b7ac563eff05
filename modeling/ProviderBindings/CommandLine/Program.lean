import ProviderBindings.Check.Repetition
import ProviderBindings.CommandLine.Request
import ProviderBindings.CommandLine.Session
import ProviderBindings.Manifest
import ProviderBindings.ProviderModule

/-! # The program

The three commands and the run of the program. Every command reads the manifest
first, in the same way: a manifest that is not there and one that is no document
are reported, and the run ends. `validate` reports what the checks find; `info`
shows the networks with their identifiers; `generate` writes the module, unless
the checks find errors and it is not forced, or nothing can force it. -/
namespace ProviderBindings

open Session

namespace Program

/-- What an option was given, as a value: nothing is the empty array. -/
def valueOf : Options.Given → Value
  | .text s => .string s
  | .nothing => .array []

/-- The path that a value is. -/
def pathOf : Value → Except Fault String
  | .string path => .ok path
  | v => .error (.notAPath v.kind)

/-- The path of the manifest to read. -/
def manifestPath : Option Options.Given → Except Fault String
  | none => .ok Manifest.defaultPath
  | some given => pathOf (valueOf given)

/-- The path of the manifest in messages: an empty one counts as none. -/
def shownPath (path : String) : String := if path = "" then Manifest.defaultPath else path

/-- Reads the manifest. -/
def load (config : Option Options.Given) : Session Manifest := do
  let path ← attempt (manifestPath config)
  match (← get).files.read (.ofString path) with
  | .error (.notFound _) =>
    complain ("Error: config file not found: " ++ shownPath path)
    exit 1
  | .error fault => attempt (.error fault)
  | .ok bytes =>
    match Manifest.ofBytes bytes with
    | .error (.unreadable (.malformed problem place)) =>
      complain ("Error: cannot parse " ++ shownPath path ++ ": " ++
        (Toml.Error.malformed problem place).message)
      exit 1
    | result => attempt result

/-! ## Writing the module -/

/-- Why the module is not written, if it is not: errors that leave nothing to generate from,
or errors at all when they are a hindrance. -/
def refusal? (force : Bool) (findings : Findings) : Option String :=
  if findings.isValid then none
  else if findings.errors.any fun v => Code.unrenderable.contains v.code then
    some "Names and urls must be strings, even with --force."
  else if force then none
  else some "Use --force to generate despite errors."

/-- Reports errors, with all else that was found. -/
def reportErrors (findings : Findings) : Session Unit := do
  if !findings.isValid then
    complain "Validation errors found:"
    complain (← attempt findings.report)

/-- Lists the warnings under their number. -/
def listWarnings (findings : Findings) : Session Unit := do
  if !findings.warnings.isEmpty then
    complain s!"Validation: {findings.warnings.length} warning(s)"
    findings.warnings.forM fun v => do complain (← attempt (Findings.reportLine v))

/-- What names the file for the module: what the option was given, unless that is empty, or
else what the manifest says. -/
def outputOf (settings : GenerateSettings) (m : Manifest) : Value :=
  match settings.output with
  | none => m.output
  | some given => if (valueOf given).isEmpty then m.output else valueOf given

/-- Where the module goes: to a file, whose path may turn out to be none, or to the
standard output. -/
def destination? (settings : GenerateSettings) (m : Manifest) : Option Value :=
  let path := outputOf settings m
  if path.isEmpty || settings.stdout then none else some path

/-- Writes the module where it is to go. -/
def emit (m : Manifest) (destination : Option Value) (text : String) : Session Unit := do
  match destination with
  | none => write text
  | some v =>
    let path ← attempt (pathOf v)
    save (.ofString path) (Text.Utf8.encode text.toList)
    print s!"  networks: wrote {path} ({m.networks.length} networks, {text.length} bytes)"

/-- The command that writes the module. -/
def generate (settings : GenerateSettings) (m : Manifest) : Session Nat := do
  let findings ← attempt (Check.all m.networks)
  reportErrors findings
  match refusal? settings.force findings with
  | some reason =>
    complain reason
    return 1
  | none =>
    listWarnings findings
    let text ← attempt (ProviderModule.generate m.networks)
    emit m (destination? settings m) text
    return 0

/-! ## Showing a manifest -/

/-- The command that reports what the checks find. -/
def validate (m : Manifest) : Session Nat := do
  let findings ← attempt (Check.all m.networks)
  print s!"Networks: {m.networks.length}"
  print ""
  print (← attempt findings.report)
  return if findings.isValid then 0 else 1

/-- Shows where the module would be written. -/
def showOutput (m : Manifest) : Session Unit := do
  let path ← attempt (if m.output.isEmpty then .ok "(stdout)" else m.output.text)
  print ("Output: " ++ path)

/-- Shows a network and its identifiers. -/
def showNetwork (n : Network) : Session Unit := do
  print ("  " ++ (← attempt n.text))
  if n.isBounded then
    print ("    compute units: " ++ (← attempt n.computeUnits.text) ++ "/s")
  else print "    compute units: client default"
  match n.name.string? with
  | none => print "    provider:      (name is not a string)"
  | some name =>
    print ("    provider:      " ++ Identifier.storage name)
    print ("    accessor:      " ++ Identifier.accessor name ++ "()")

/-- The command that shows the networks. -/
def info (m : Manifest) : Session Nat := do
  showOutput m
  print ""
  print "Networks:"
  m.networks.forM showNetwork
  return 0

/-! ## A run -/

/-- Carries out a command on a manifest. -/
def perform (m : Manifest) : Command → Session Nat
  | .generate settings => generate settings m
  | .validate => validate m
  | .info => info m

/-- Does what is asked for. -/
def answer : Request → Session Nat
  | .help usage => do
    write usage.help
    return 0
  | .misuse usage problem => do
    writeError (usage.complaint problem)
    return 2
  | .run config command => do
    let m ← load config
    perform m command

/-- The file that a command on a manifest writes, if it may write one. -/
def target? (m : Manifest) : Command → Option Path
  | .generate settings =>
    match destination? settings m with
    | some (.string path) => some (.ofString path)
    | _ => none
  | _ => none

/-- The paths that a run with the given arguments looks at, as far as the given files tell:
the manifest, and the file that the module goes to. -/
def pathsOf (args : List String) (files : FileTree) : List Path :=
  match Request.ofArgs args with
  | .run config command =>
    match manifestPath config with
    | .ok path =>
      match files.read (.ofString path) >>= Manifest.ofBytes with
      | .ok m => .ofString path :: (target? m command).toList
      | .error _ => [.ofString path]
    | .error _ => []
  | _ => []

/-- A run of the program with the given arguments, on the given files. -/
def run (args : List String) (files : FileTree) : Outcome :=
  outcome (answer (.ofArgs args)) files

end Program

end ProviderBindings
