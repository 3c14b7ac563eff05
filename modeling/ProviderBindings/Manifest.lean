import ProviderBindings.Network
import ProviderBindings.Text.Utf8
import ProviderBindings.Toml.Document

/-! # Manifests

A manifest lists networks and says where the generated module is to be written. It
is read from a document: the entries of `networks`, in order, and the `path` in
`output`. Values are taken as they are written; only what does not have the shape
of a manifest is refused, the networks before the output. All else in a document
is ignored. -/
namespace ProviderBindings

/-- The networks of a manifest, in order, and the path of its output, which is empty
when there is none. -/
structure Manifest where
  networks : List Network
  output : Value

namespace Manifest

/-- The path of the manifest that is read when none is named. -/
def defaultPath : String := "netbindgen.toml"

/-- The elements of a value: the items of an array, the keys of a table, the characters
of a string. -/
def elements : Value → Except Fault (List Value)
  | .array items => .ok items
  | .table entries => .ok (entries.map fun entry => .string entry.1)
  | .string text => .ok (text.toList.map fun c => .string c.toString)
  | v => .error (.notIterable v.kind)

/-- The network that an element of `networks` describes. -/
def network : Value → Except Fault Network
  | .table t =>
    .ok ⟨Table.getD t "name" (.string ""), Table.getD t "url" (.string ""),
      Table.getD t "compute_units_per_second" .absent⟩
  | v => .error (.notSupported v.kind .get)

/-- The path in `output`, which may be left out or empty. -/
def outputPath (v : Value) : Except Fault Value :=
  if v.isEmpty then .ok (.string "")
  else
    match v with
    | .table t => .ok (Table.getD t "path" (.string ""))
    | v => .error (.notSupported v.kind .get)

/-- The manifest that a document describes. -/
def ofTable (t : Table) : Except Fault Manifest := do
  let entries ← elements (Table.getD t "networks" (.array []))
  let networks ← entries.mapM network
  let output ← outputPath (Table.getD t "output" (.table []))
  return ⟨networks, output⟩

/-- The document that a text is. -/
def document (text : List Char) : Except Fault Table :=
  (Toml.parse text).mapError .unreadable

/-- The manifest in a file of the given bytes. -/
def ofBytes (bytes : List UInt8) : Except Fault Manifest := do
  let text ← (Text.Utf8.decode bytes).mapError .undecodable
  ofTable (← document text)

end Manifest

end ProviderBindings
