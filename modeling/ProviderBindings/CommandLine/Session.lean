import ProviderBindings.FileTree

/-! # Sessions

A session is a run of the program in progress: it changes files and writes lines to
its two outputs, and it ends with a status or a fault. What it has done before it
ends stays done. -/
namespace ProviderBindings

/-- What a run can see and change. -/
structure World where
  files : FileTree
  out : String
  err : String
  deriving DecidableEq, Repr

/-- How a run ends. -/
inductive Ending
  | exit (status : Nat)
  | fault (cause : Fault)
  deriving DecidableEq, Repr

/-- An activity within a run. It may end the run. -/
abbrev Session (α : Type) := ExceptT Ending (StateM World) α

namespace Session

/-- Writes to the standard output. -/
def write (text : String) : Session Unit := modify fun w => { w with out := w.out ++ text }

/-- Writes a line to the standard output. -/
def print (line : String) : Session Unit := write (line ++ "\n")

/-- Writes to the error output. -/
def writeError (text : String) : Session Unit := modify fun w => { w with err := w.err ++ text }

/-- Writes a line to the error output. -/
def complain (line : String) : Session Unit := writeError (line ++ "\n")

/-- Ends the run with a status. -/
def exit {α : Type} (status : Nat) : Session α := throw (.exit status)

/-- The result of an operation, whose fault ends the run. -/
def attempt {α : Type} : Except Fault α → Session α
  | .ok a => pure a
  | .error fault => throw (.fault fault)

/-- Writes a file, after making the directories above it. -/
def save (path : Path) (bytes : List UInt8) : Session Unit := do
  let (files, result) := (← get).files.save path bytes
  modify fun w => { w with files }
  attempt result

/-- What comes of an activity in a world: its result or how it ended the run, and the
world after it. -/
def runOn {α : Type} (s : Session α) (w : World) : Except Ending α × World := s.run.run w

section

variable {α β : Type} (w : World)

@[simp] theorem runOn_pure (a : α) : runOn (pure a) w = (.ok a, w) := rfl

/-- An activity that ends the run keeps what comes after it from happening. -/
@[simp] theorem runOn_bind (s : Session α) (k : α → Session β) :
    runOn (s >>= k) w =
      match runOn s w with
      | (.ok a, w) => runOn (k a) w
      | (.error ending, w) => (.error ending, w) := by
  simp only [runOn, ExceptT.run_bind, StateT.run_bind]
  rcases s.run.run w with ⟨_ | _, _⟩ <;> rfl

@[simp] theorem runOn_map (g : α → β) (s : Session α) :
    runOn (g <$> s) w =
      match runOn s w with
      | (.ok a, w) => (.ok (g a), w)
      | (.error ending, w) => (.error ending, w) := by
  simp only [← bind_pure_comp, runOn_bind, runOn_pure]

@[simp] theorem runOn_get : runOn get w = (.ok w, w) := rfl

@[simp] theorem runOn_write (text : String) :
    runOn (write text) w = (.ok (), { w with out := w.out ++ text }) := rfl

@[simp] theorem runOn_print (line : String) :
    runOn (print line) w = (.ok (), { w with out := w.out ++ (line ++ "\n") }) := rfl

@[simp] theorem runOn_writeError (text : String) :
    runOn (writeError text) w = (.ok (), { w with err := w.err ++ text }) := rfl

@[simp] theorem runOn_complain (line : String) :
    runOn (complain line) w = (.ok (), { w with err := w.err ++ (line ++ "\n") }) := rfl

@[simp] theorem runOn_exit (status : Nat) :
    runOn (exit status : Session α) w = (.error (.exit status), w) := rfl

@[simp] theorem runOn_attempt_ok (a : α) : runOn (attempt (.ok a)) w = (.ok a, w) := rfl

@[simp] theorem runOn_attempt_error (fault : Fault) :
    runOn (attempt (.error fault) : Session α) w = (.error (.fault fault), w) := rfl

/-- Directories that have been made stay when the writing fails. -/
theorem runOn_save (path : Path) (bytes : List UInt8) :
    runOn (save path bytes) w =
      match w.files.save path bytes with
      | (files, .ok ()) => (.ok (), { w with files })
      | (files, .error fault) => (.error (.fault fault), { w with files }) := by
  change runOn (attempt (w.files.save path bytes).2)
    { w with files := (w.files.save path bytes).1 } = _
  rcases w.files.save path bytes with ⟨files, _ | _⟩ <;> rfl

end

/-- What a run has come to: how it ended, what it wrote, and the files after it. -/
structure Outcome where
  ending : Ending
  out : String
  err : String
  files : FileTree
  deriving DecidableEq, Repr

/-- The outcome of a session that gives its status. -/
def outcome (session : Session Nat) (files : FileTree) : Outcome :=
  match runOn session ⟨files, "", ""⟩ with
  | (.ok status, w) => ⟨.exit status, w.out, w.err, w.files⟩
  | (.error ending, w) => ⟨ending, w.out, w.err, w.files⟩

end Session

end ProviderBindings
