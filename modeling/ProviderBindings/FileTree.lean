import ProviderBindings.Fault

/-! # Files and directories

The files that a run of the program can see: what is at each place, and what
reading and writing at a path does. A path is a sequence of parts that is followed
from the working directory, part by part, through directories that exist; `..` leads
back to the directory that holds the present one. A place is where such a walk
arrives, so that two paths to one place show the same file. Paths and their parts are
limited in length.

Writing a file makes the directories above it first. They stay when the writing
fails after that. Links and permissions are left out: what is at a place is a file or
a directory, and each can be read and written. -/
namespace ProviderBindings

/-- A path as it is written, without the parts that say nothing. The first part of a
path from the root is `/`, or `//` where exactly two of them are written: they lead to
the same place, but the path is shown as it was written. -/
structure Path where
  parts : List String
  deriving DecidableEq, Repr

namespace Path

/-- Whether a part of a path is the root. -/
def isRoot (part : String) : Bool := part == "/" || part == "//"

/-- The root with which a text begins, if the path that it writes is one from the root. -/
def root? : List Char → Option String
  | '/' :: '/' :: '/' :: _ => some "/"
  | '/' :: '/' :: _ => some "//"
  | '/' :: _ => some "/"
  | _ => none

/-- The path that a text writes. Empty parts and `.` are left out. -/
def ofString (text : String) : Path :=
  let parts := (text.toList.splitOn '/').map String.ofList
  let named := parts.filter fun part => part ≠ "" ∧ part ≠ "."
  ⟨(root? text.toList).toList ++ named⟩

/-- The path as a text. -/
def text : Path → String
  | ⟨[]⟩ => "."
  | ⟨part :: parts⟩ =>
    if isRoot part then part ++ "/".intercalate parts else "/".intercalate (part :: parts)

/-- The path of the directory above. The root has none, and is taken itself. -/
def parent (p : Path) : Path :=
  if p.parts.length = 1 ∧ p.parts.all isRoot then p else ⟨p.parts.dropLast⟩

/-- Whether the path has the character that ends a path for the system. -/
def hasNull (p : Path) : Bool := p.parts.any fun part => part.toList.any (· == '\x00')

/-- The most bytes that a path may have. -/
def lengthLimit : Nat := 4095

/-- The most bytes that a part of a path may have. -/
def partLimit : Nat := 255

/-- Whether a part of a path is too long to be a name. -/
def isLongPart (part : String) : Bool := decide (partLimit < part.utf8ByteSize)

/-- Whether some part of the path is too long to be a name. -/
def hasLongPart (p : Path) : Bool := p.parts.any isLongPart

/-- Whether the path as a whole is too long to be followed. -/
def isTooLong (p : Path) : Bool := decide (lengthLimit < p.text.utf8ByteSize)

end Path

/-- A place: the names that lead to it from the working directory, which is the empty
place, after as many `..` as are needed; or from the root, which is `/`. -/
abbrev Location := List String

namespace Location

/-- The place that holds a place. -/
def up (l : Location) : Location :=
  if l.all (· == "..") then l ++ [".."] else if l = ["/"] then l else l.dropLast

/-- The place to which one part of a path leads. -/
def step (l : Location) (part : String) : Location :=
  if Path.isRoot part then ["/"] else if part = ".." then l.up else l ++ [part]

/-- Whether a place is the working directory, one that holds it, or the root. -/
def isBase (l : Location) : Bool := l.all (· == "..") || l == ["/"]

/-- Whether a place is in the working directory or below it. -/
def isInside (l : Location) : Bool := l.head? != some ".." && l.head? != some "/"

end Location

/-- What is at a place. -/
inductive Node
  | file (bytes : List UInt8)
  | directory
  deriving DecidableEq, Repr

/-- The files and directories, by their place. -/
structure FileTree where
  entries : List (Location × Node)
  deriving DecidableEq, Repr

/-- Why a walk does not arrive, or nothing can be made where it does. -/
inductive Obstacle
  | missing
  | notDirectory
  | occupied
  | tooLong
  deriving DecidableEq, Repr

/-- The fault of an operation on a path that meets an obstacle. -/
def Obstacle.fault (p : Path) : Obstacle → Fault
  | .missing => .notFound p.text
  | .notDirectory => .notDirectory p.text
  | .occupied => .fileExists p.text
  | .tooLong => .pathTooLong p.text

namespace FileTree

/-- What is at a place. -/
def node? (t : FileTree) (l : Location) : Option Node :=
  if l.isBase then some .directory else t.entries.lookup l

/-- The tree with something put at a place. -/
def set (t : FileTree) (l : Location) (node : Node) : FileTree :=
  ⟨Entries.set l node t.entries⟩

theorem node?_of_isBase (t : FileTree) {l : Location} (h : l.isBase = true) :
    t.node? l = some .directory := by
  simp [node?, h]

theorem node?_set_self (t : FileTree) {l : Location} (node : Node) (h : l.isBase = false) :
    (t.set l node).node? l = some node := by
  simp [node?, set, h]

/-- Nothing changes at the other places. -/
theorem node?_set_of_ne (t : FileTree) {l m : Location} (node : Node) (h : m ≠ l) :
    (t.set l node).node? m = t.node? m := by
  simp [node?, set, Entries.lookup_set_of_ne h]

@[simp] theorem set_set_self (t : FileTree) (l : Location) (node : Node) :
    (t.set l node).set l node = t.set l node := by
  simp [set]

/-- Where the walk along `parts` arrives. There may be nothing at that place. -/
def walk (t : FileTree) : Location → List String → Except Obstacle Location
  | l, [] => .ok l
  | l, part :: rest =>
    match t.node? l with
    | some .directory =>
      if Path.isLongPart part then .error .tooLong
      else walk t (l.step part) rest
    | some (.file _) => .error .notDirectory
    | none => .error .missing

/-- The place of a path. -/
def locate (t : FileTree) (p : Path) : Except Obstacle Location :=
  if p.isTooLong then .error .tooLong else t.walk [] p.parts

/-- Whether there is a directory at a path. -/
def isDirectory (t : FileTree) (p : Path) : Bool :=
  match t.locate p with
  | .ok l => t.node? l == some .directory
  | .error _ => false

/-- The content of the file at a path. -/
def read (t : FileTree) (p : Path) : Except Fault (List UInt8) :=
  if p.hasNull then .error .nullInPath
  else
    match t.locate p with
    | .error obstacle => .error (obstacle.fault p)
    | .ok l =>
      match t.node? l with
      | some (.file bytes) => .ok bytes
      | some .directory => .error (.isDirectory p.text)
      | none => .error (.notFound p.text)

/-- The tree with a file written at a path, in place of what the file held before. -/
def write (t : FileTree) (p : Path) (bytes : List UInt8) : Except Fault FileTree :=
  if p.hasNull then .error .nullInPath
  else
    match t.locate p with
    | .error obstacle => .error (obstacle.fault p)
    | .ok l =>
      match t.node? l with
      | some .directory => .error (.isDirectory p.text)
      | _ => .ok (t.set l (.file bytes))

/-- The tree with a directory made at a path where there is nothing. -/
def makeDirectory (t : FileTree) (p : Path) : Except Obstacle FileTree := do
  let l ← t.locate p
  match t.node? l with
  | some _ => .error .occupied
  | none => return t.set l .directory

/-- Making a directory, allowed if there is one already; nothing above it is made. -/
def ensureDirectory (t : FileTree) (p : Path) : FileTree × Except Fault Unit :=
  match t.makeDirectory p with
  | .ok t => (t, .ok ())
  | .error obstacle =>
    if obstacle ≠ .missing ∧ t.isDirectory p then (t, .ok ())
    else (t, .error (obstacle.fault p))

/-- Making a directory and those above it that are missing. The path is given by its
parts from the last one to the first. -/
def ensureDirectories (t : FileTree) : (reversed : List String) → FileTree × Except Fault Unit
  | [] => t.ensureDirectory ⟨[]⟩
  | part :: above =>
    let p : Path := ⟨(part :: above).reverse⟩
    match t.makeDirectory p with
    | .error .missing =>
      match t.ensureDirectories above with
      | (t, .ok ()) => t.ensureDirectory p
      | (t, .error fault) => (t, .error fault)
    | _ => t.ensureDirectory p

/-- Writing a file after making the directories above it. -/
def save (t : FileTree) (p : Path) (bytes : List UInt8) : FileTree × Except Fault Unit :=
  if p.parent.hasNull then (t, .error .nullInPath)
  else
    match t.ensureDirectories p.parent.parts.reverse with
    | (t, .error fault) => (t, .error fault)
    | (t, .ok ()) =>
      match t.write p bytes with
      | .ok t => (t, .ok ())
      | .error fault => (t, .error fault)

/-- The tree with a file or a directory at a path, and the directories that the path goes
through, as far as all of them can be made. -/
def plant (t : FileTree) (p : Path) : Node → FileTree
  | .file bytes => (t.save p bytes).1
  | .directory => (t.ensureDirectories p.parts.reverse).1

/-- A tree of the given files and directories, each with a path to it. -/
def ofList (entries : List (Path × Node)) : FileTree :=
  entries.foldl (fun t (p, node) => t.plant p node) ⟨[]⟩

/-- The entries inside the working directory that differ from those of an older tree, by
the text of their place, in order. -/
def changes (old new : FileTree) : List (String × Node) :=
  let changed := new.entries.filter fun (l, node) => l.isInside && old.node? l != some node
  (changed.map fun (l, node) => ("/".intercalate l, node)).mergeSort
    fun a b => decide (a.1 ≤ b.1)

/-- The files that are new or have changed. -/
def changedFiles (old new : FileTree) : List (String × List UInt8) :=
  (changes old new).filterMap fun (path, node) =>
    match node with
    | .file bytes => some (path, bytes)
    | .directory => none

/-- The directories that are new. -/
def newDirectories (old new : FileTree) : List String :=
  (changes old new).filterMap fun (path, node) =>
    match node with
    | .file _ => none
    | .directory => some path

end FileTree

end ProviderBindings
