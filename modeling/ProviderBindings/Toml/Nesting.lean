import ProviderBindings.Toml.Problem
import ProviderBindings.Value.Basic

/-! # Tables within tables

A dotted key leads from a table to one inside it. The tables on the way are made
where they are missing. A way may lead through an array of tables, and then goes
on in its last table; anything else on the way blocks it. -/
namespace ProviderBindings.Toml

/-- Whether a value is an array or an inline table, to which nothing can be added
later. -/
def isContainer : Value → Bool
  | .array _ => true
  | .table _ => true
  | _ => false

/-- Whether a key lies at or below one of the frozen ones. -/
def isFrozen (frozen : List Key) (key : Key) : Bool := frozen.any (·.isPrefixOf key)

/-- Changes the table to which a key leads. -/
def updateAt (throughArrays : Bool) (change : Table → Except Problem Table) :
    Key → Table → Except Problem Table
  | [], t => change t
  | part :: key, t =>
    match t.lookup part with
    | none => return t.set part (.table (← updateAt throughArrays change key []))
    | some (.table inner) =>
      return t.set part (.table (← updateAt throughArrays change key inner))
    | some (.array items) =>
      match throughArrays, items.getLast? with
      | true, some (.table inner) =>
        return t.set part
          (.array (items.dropLast ++ [.table (← updateAt throughArrays change key inner)]))
      | _, _ => .error .valueOverwritten
    | some _ => .error .valueOverwritten

/-- Adds an entry to a table; `taken` is the problem when there is one of its key. -/
def addEntry (taken : Problem) (part : String) (v : Value) (t : Table) : Except Problem Table :=
  match t.lookup part with
  | some _ => .error taken
  | none => .ok (t.set part v)

/-- Adds an empty table to an array of tables, which is made where it is missing. -/
def addTable (part : String) (t : Table) : Except Problem Table :=
  match t.lookup part with
  | none => .ok (t.set part (.array [.table []]))
  | some (.array items) => .ok (t.set part (.array (items ++ [.table []])))
  | some _ => .error .valueOverwritten

end ProviderBindings.Toml
