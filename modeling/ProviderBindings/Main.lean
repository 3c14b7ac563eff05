import ProviderBindings.CommandLine.Program

/-! # The program on a real system

A run of the program is a function of its arguments and of the files that it looks
at. Here these files are read, the function is applied, and what it has changed is
written back. -/
namespace ProviderBindings.Host

/-- The code of the system's error on reading a directory as a file. -/
def directoryCode : UInt32 := 21

/-- What is at a path of the system. There is nothing where a path is too long. -/
def observe (path : Path) : IO (Option Node) := do
  if path.isTooLong || path.hasLongPart then return none
  try
    return some (.file (← IO.FS.readBinFile path.text).toList)
  catch error =>
    match error with
    | .noFileOrDirectory .. => return none
    | .inappropriateType _ code _ => return if code = directoryCode then some .directory else none
    | error => throw error

/-- The tree with what is found on the way along a path. -/
def observeAlong (files : FileTree) (path : Path) : IO FileTree := do
  let mut files := files
  if !path.hasNull then
    for count in List.range path.parts.length do
      let parts := path.parts.take (count + 1)
      let place := parts.foldl Location.step []
      if !place.isBase then
        if let some node ← observe ⟨parts⟩ then
          files := files.set place node
  return files

/-- The files that a run with the given arguments looks at. The manifest is read first, as
it may name another one. -/
def observeAll (args : List String) : IO FileTree := do
  let files ← (Program.pathsOf args ⟨[]⟩).foldlM observeAlong ⟨[]⟩
  (Program.pathsOf args files).foldlM observeAlong files

/-- Writes back what differs between two trees. -/
def writeBack (old new : FileTree) : IO Unit := do
  for (place, node) in new.entries do
    if old.node? place != some node then
      match node with
      | .directory => IO.FS.createDir (Path.text ⟨place⟩)
      | .file bytes => IO.FS.writeBinFile (Path.text ⟨place⟩) (ByteArray.mk bytes.toArray)

end ProviderBindings.Host

open ProviderBindings in
/-- Runs the program: a fault is reported on the error output, with status 1. -/
def main (args : List String) : IO UInt32 := do
  let files ← Host.observeAll args
  let outcome := Program.run args files
  Host.writeBack files outcome.files
  (← IO.getStdout).putStr outcome.out
  (← IO.getStderr).putStr outcome.err
  match outcome.ending with
  | .exit status => return UInt32.ofNat status
  | .fault cause =>
    IO.eprintln cause.message
    return 1
