import ProviderBindings.Toml.Item

/-! # Documents

A document is a sequence of lines: headers that open a table or a new table of an
array, and pairs of a key and a value that go into the table opened last. What may
not be opened or changed any more is kept beside the tables: a key is *declared*
when a header or a dotted key of a finished section has opened its table, and
*frozen* when its value was written in one piece, as an array or an inline table,
and then so is everything below it. -/
namespace ProviderBindings.Toml

/-- A document that has been read in part: its tables, the keys that are declared, those
that will be with the next header, those that are frozen, and the key of the table
opened last. -/
structure Draft where
  tables : Table
  declared : List Key
  pending : List Key
  frozen : List Key
  header : Key

namespace Draft

/-- Nothing read yet. -/
def empty : Draft := ⟨[], [], [], [], []⟩

/-- The end of a section: the keys that were pending are declared. -/
def endSection (d : Draft) : Draft := { d with declared := d.pending ++ d.declared, pending := [] }

/-- Opens the table of a key. -/
def openTable (d : Draft) (key : Key) : Except Problem Draft :=
  if key ∈ d.declared ∨ isFrozen d.frozen key then .error (.declaredTwice key)
  else return { d with
    tables := ← updateAt true .ok key d.tables, declared := key :: d.declared, header := key }

/-- Opens a new table of the array of a key. All that was declared or frozen below the
key belonged to the table before it. -/
def openNext (d : Draft) (key : Key) : Except Problem Draft :=
  if isFrozen d.frozen key then .error (.namespaceFrozen key)
  else return { d with
    tables := ← updateAt true (addTable (key.getLastD "")) key.dropLast d.tables
    declared := key :: d.declared.filter fun k => !key.isPrefixOf k
    frozen := d.frozen.filter fun k => !key.isPrefixOf k
    header := key }

/-- The keys of the tables through which a key leads from the table opened last. -/
def passed (d : Draft) (key : Key) : List Key :=
  (List.range' 1 (key.length - 1)).map fun n => d.header ++ key.take n

/-- Adds a pair to the table opened last. -/
def add (d : Draft) (key : Key) (v : Value) : Except Problem Draft := do
  let parent := d.header ++ key.dropLast
  match (d.passed key).find? (· ∈ d.declared) with
  | some redefined => .error (.namespaceRedefined redefined)
  | none =>
    if isFrozen d.frozen parent then .error (.namespaceFrozen parent)
    else
      let tables ← updateAt true (addEntry .valueOverwritten (key.getLastD "") v) parent d.tables
      return { d with
        tables
        pending := d.passed key ++ d.pending
        frozen := if isContainer v then (d.header ++ key) :: d.frozen else d.frozen }

end Draft

/-- A header of the array of tables, after its opening marks. -/
def readArrayHeader (d : Draft) (text : List Char) : Except Failure (Scanned Draft) := do
  let (key, rest) ← readKey (skipBlanks text)
  let d ← orFail rest (d.endSection.openNext key)
  match rest with
  | ']' :: ']' :: rest => return (d, rest)
  | rest => fail .arrayOfTablesNotClosed rest

/-- A header of a table, after its opening mark. -/
def readTableHeader (d : Draft) (text : List Char) : Except Failure (Scanned Draft) := do
  let (key, rest) ← readKey (skipBlanks text)
  let d ← orFail rest (d.endSection.openTable key)
  match rest with
  | ']' :: rest => return (d, rest)
  | rest => fail .tableNotClosed rest

/-- A statement: a header or a pair. A line that holds only a comment is a statement
that changes nothing. -/
def readStatement (d : Draft) : List Char → Except Failure (Scanned Draft)
  | '[' :: '[' :: rest => readArrayHeader d rest
  | '[' :: rest => readTableHeader d rest
  | '#' :: rest => .ok (d, '#' :: rest)
  | c :: rest =>
    if isKeyStart c then do
      let ((key, v), rest) ← readPair (readItem (rest.length + 2)) (c :: rest)
      return (← orFail rest (d.add key v), rest)
    else fail .invalidStatement (c :: rest)
  | [] => .ok (d, [])

/-- A document of at most `lines` lines. -/
def readLines : (lines : Nat) → Draft → List Char → Except Failure Draft
  | 0, d, _ => .ok d
  | lines + 1, d, text =>
    match skipBlanks text with
    | [] => .ok d
    | '\n' :: rest => readLines lines d rest
    | text => do
      let (d, rest) ← readStatement d text
      match ← skipComment (skipBlanks rest) with
      | [] => return d
      | '\n' :: rest => readLines lines d rest
      | rest => fail .statementNotEnded rest

/-- The text with every line end of two characters as one. -/
def normalizeLineEnds : List Char → List Char
  | '\r' :: '\n' :: rest => '\n' :: normalizeLineEnds rest
  | c :: rest => c :: normalizeLineEnds rest
  | [] => []

/-- The tables of a document whose line ends are single characters. -/
def readDocument (text : List Char) : Except Failure Table :=
  (readLines (text.length + 1) .empty text).map (·.tables)

/-- The tables of a document, or why it cannot be read. -/
def parse (text : List Char) : Except Error Table :=
  let text := normalizeLineEnds text
  match readDocument text with
  | .ok t => .ok t
  | .error (.problem p rest) => .error (.malformed p (.ofRest text rest))
  | .error (.tooManyDigits count) => .error (.tooManyDigits count)

end ProviderBindings.Toml
