import ProviderBindings.Value.Equality
import ProviderBindings.Value.Text

/-! # Networks

A network is one remote endpoint for which a provider is generated. Its fields
hold whatever the manifest holds; which values make sense is for the checks to
say. -/
namespace ProviderBindings

/-- One entry of a manifest: its name, the address of its endpoint, and a bound on
the work that may be asked of it per second, which may be absent. -/
structure Network where
  name : Value
  url : Value
  computeUnits : Value

namespace Network

/-- The fields of a network. -/
inductive Field
  | name
  | url
  | computeUnits
  deriving DecidableEq, Repr

/-- The name of a field in messages. -/
def Field.label : Field → String
  | .name => "name"
  | .url => "url"
  | .computeUnits => "compute_units_per_second"

/-- The values of the three fields, in order. -/
def values (n : Network) : List Value := [n.name, n.url, n.computeUnits]

/-- Whether the network bounds the work per second. -/
def isBounded (n : Network) : Bool := n.computeUnits.isPresent

/-- The name, when it is a string; the empty string otherwise. -/
def nameOrEmpty (n : Network) : String := n.name.string?.getD ""

/-- The network in running text: its name, and its address in parentheses. -/
def text (n : Network) : Except Fault String :=
  return (← n.name.text) ++ " (" ++ (← n.url.text) ++ ")"

/-- The text that shows the network with all its fields. -/
def inspect (n : Network) : Except Fault String := do
  let name ← n.name.inspect
  let url ← n.url.inspect
  let units ← n.computeUnits.inspect
  return "Network(name=" ++ name ++ ", url=" ++ url ++ ", compute_units_per_second=" ++ units ++
    ")"

/-- The kind of the first field that cannot be a key, if there is one. -/
def firstNonKey? (n : Network) : Option Kind :=
  (n.values.find? fun v => !v.canBeKey).map Value.kind

/-- Whether two networks agree in every field. -/
def isEqual (a b : Network) : Bool :=
  a.name.isEqual b.name && a.url.isEqual b.url && a.computeUnits.isEqual b.computeUnits

/-- What comes of setting a field: a network is fixed once it is made. -/
def assign (_ : Network) (field : String) : Fault := .fixedField field

end Network

end ProviderBindings
