import ProviderBindings.Toml.DottedKey
import ProviderBindings.Toml.Nesting
import ProviderBindings.Toml.Scalar

/-! # Values of a document

A value is a string, a truth value, a date, a time or a number, an array of values,
or an inline table. Values may be nested; how deep they are is bounded by the
length of the text, and so is the number of items of one array or table. -/
namespace ProviderBindings.Toml

/-- A reader of values. -/
abbrev ItemReader := List Char → Except Failure (Scanned Value)

/-- A problem that shows at `rest`, if there is one. -/
def orFail {α : Type} (rest : List Char) : Except Problem α → Except Failure α
  | .ok a => .ok a
  | .error p => fail p rest

/-- A key, the sign after it and a value. -/
def readPair (item : ItemReader) (text : List Char) : Except Failure (Scanned (Key × Value)) := do
  let (key, rest) ← readKey text
  match rest with
  | '=' :: rest =>
    let (v, rest) ← item (skipBlanks rest)
    return ((key, v), rest)
  | rest => fail .missingEquals rest

/-- The items of an array, at most `count` of them, up to and with its closing mark. -/
def readItems (item : ItemReader) :
    (count : Nat) → List Char → Except Failure (Scanned (List Value))
  | 0, text => fail .arrayNotClosed text
  | count + 1, text =>
    match text with
    | ']' :: rest => .ok ([], rest)
    | text => do
      let (v, rest) ← item text
      match ← skipTrivia rest with
      | ']' :: rest => return ([v], rest)
      | ',' :: rest =>
        let (items, rest) ← readItems item count (← skipTrivia rest)
        return (v :: items, rest)
      | rest => fail .arrayNotClosed rest

/-- Adds a pair to an inline table, in which the frozen keys take no more entries. -/
def addPair (frozen : List Key) (key : Key) (v : Value) (t : Table) : Except Problem Table :=
  if isFrozen frozen key then .error (.namespaceFrozen key)
  else
    let part := key.getLastD ""
    updateAt false (addEntry (.duplicateInlineKey part) part v) key.dropLast t

/-- The pairs of an inline table, at most `count` of them, up to and with its closing
mark. `t` and `frozen` are what the pairs before have made. -/
def readPairs (item : ItemReader) :
    (count : Nat) → (frozen : List Key) → Table → List Char → Except Failure (Scanned Table)
  | 0, _, _, text => fail .inlineTableNotClosed text
  | count + 1, frozen, t, text => do
    let ((key, v), rest) ← readPair item text
    let t ← orFail rest (addPair frozen key v t)
    match skipBlanks rest with
    | '}' :: rest => return (t, rest)
    | ',' :: rest =>
      let frozen := if isContainer v then key :: frozen else frozen
      readPairs item count frozen t (skipBlanks rest)
    | rest => fail .inlineTableNotClosed rest

/-- An inline table, after its opening mark. -/
def readInlineTable (item : ItemReader) (text : List Char) : Except Failure (Scanned Value) :=
  match skipBlanks text with
  | '}' :: rest => .ok (.table [], rest)
  | text => do
    let (t, rest) ← readPairs item (text.length + 1) [] [] text
    return (.table t, rest)

/-- An array, after its opening mark. -/
def readArray (item : ItemReader) (text : List Char) : Except Failure (Scanned Value) := do
  let text ← skipTrivia text
  let (items, rest) ← readItems item (text.length + 1) text
  return (.array items, rest)

/-- A string as a value. -/
def asString (reading : Except Failure (Scanned String)) : Except Failure (Scanned Value) :=
  reading.map fun (text, rest) => (.string text, rest)

/-- A value nested less than `depth` deep. -/
def readItem : (depth : Nat) → ItemReader
  | 0, text => fail .invalidValue text
  | depth + 1, text =>
    match text with
    | '"' :: '"' :: '"' :: rest => asString (readBasicLines rest)
    | '"' :: rest => asString (readBasicLine rest)
    | '\'' :: '\'' :: '\'' :: rest => asString (readLiteralLines rest)
    | '\'' :: rest => asString (readLiteralLine rest)
    | 't' :: 'r' :: 'u' :: 'e' :: rest => .ok (.boolean true, rest)
    | 'f' :: 'a' :: 'l' :: 's' :: 'e' :: rest => .ok (.boolean false, rest)
    | '[' :: rest => readArray (readItem depth) rest
    | '{' :: rest => readInlineTable (readItem depth) rest
    | text => readScalar text

end ProviderBindings.Toml
