import ProviderBindings.Calendar
import ProviderBindings.Decimal.Binary64
import ProviderBindings.Entries

/-! # Values of a manifest

A field of a manifest holds a value of any type that a document can write, or
nothing. Nothing is assumed of a value before it is checked, so all later parts
ask a value what kind it is.

A value may be nested to any depth, and what reads, shows or compares it follows it
to the end. A machine that keeps a place for every level runs out of places at some
hundreds or thousands of levels, as it does where that many directories are to be made
inside one another, and ends with a failure of its own. This limit is left out of the
library: what is said to stop a text, a check or a run is what stops it within the
limit. -/
namespace ProviderBindings

/-- A value, or the absence of one. A table keeps the order in which its entries
were written. -/
inductive Value
  | absent
  | boolean (b : Bool)
  | integer (n : Int)
  | float (x : Binary64)
  | string (text : String)
  | array (items : List Value)
  | table (entries : List (String × Value))
  | moment (m : Moment)
  | date (d : Date)
  | time (t : TimeOfDay)

/-- The entries of a table, in the order in which they were written. -/
abbrev Table := List (String × Value)

/-- The types of values. -/
inductive Kind
  | absent
  | boolean
  | integer
  | float
  | string
  | array
  | table
  | moment
  | date
  | time
  deriving DecidableEq, Repr

/-- The name of a kind in messages. -/
def Kind.name : Kind → String
  | .absent => "NoneType"
  | .boolean => "bool"
  | .integer => "int"
  | .float => "float"
  | .string => "str"
  | .array => "list"
  | .table => "dict"
  | .moment => "datetime.datetime"
  | .date => "datetime.date"
  | .time => "datetime.time"

/-- The name of a kind in messages about paths, which leave out where a kind is
defined. -/
def Kind.bareName : Kind → String
  | .moment => "datetime"
  | .date => "date"
  | .time => "time"
  | kind => kind.name

namespace Table

/-- The value of a key, or `default` when there is none. -/
def getD (t : Table) (key : String) (default : Value) : Value := (t.lookup key).getD default

/-- The table with one key's value replaced where it stands, or added at the end. -/
def set (t : Table) (key : String) (value : Value) : Table := Entries.set key value t

@[simp] theorem lookup_set_self (t : Table) (key : String) (value : Value) :
    (Table.set t key value).lookup key = some value :=
  Entries.lookup_set_self key value t

theorem lookup_set_of_ne (t : Table) {key other : String} (h : other ≠ key) (value : Value) :
    (Table.set t key value).lookup other = t.lookup other :=
  Entries.lookup_set_of_ne h value t

end Table

namespace Value

/-- The kind of a value. -/
def kind : Value → Kind
  | .absent => .absent
  | .boolean _ => .boolean
  | .integer _ => .integer
  | .float _ => .float
  | .string _ => .string
  | .array _ => .array
  | .table _ => .table
  | .moment _ => .moment
  | .date _ => .date
  | .time _ => .time

/-- The text of a value that is a string. -/
def string? : Value → Option String
  | .string text => some text
  | _ => none

/-- Whether there is a value. -/
def isPresent : Value → Bool
  | .absent => false
  | _ => true

/-- Whether a value counts as none: nothing, `false`, zero, and the empty string, array
and table do. -/
def isEmpty : Value → Bool
  | .absent => true
  | .boolean b => !b
  | .integer n => n == 0
  | .float (.finite _ mantissa _) => mantissa == 0
  | .float _ => false
  | .string text => text == ""
  | .array items => items.isEmpty
  | .table entries => entries.isEmpty
  | .moment _ => false
  | .date _ => false
  | .time _ => false

/-- Whether a value can be a key: all kinds but arrays and tables. -/
def canBeKey : Value → Bool
  | .array _ => false
  | .table _ => false
  | _ => true

@[simp] theorem string?_string (text : String) : (Value.string text).string? = some text := rfl

theorem string?_eq_some_iff {v : Value} {text : String} :
    v.string? = some text ↔ v = .string text := by
  cases v <;> simp [string?]

theorem sizeOf_lt_of_mem_entries {entries : List (String × Value)} {entry : String × Value}
    (h : entry ∈ entries) : sizeOf entry.2 < sizeOf entries :=
  calc sizeOf entry.2 < sizeOf entry := by
        rw [Prod.mk.sizeOf_spec entry.1 entry.2]; omega
    _ < sizeOf entries := List.sizeOf_lt_of_mem h

/-- **Induction over values**: what is true of an array as soon as it is true of its items, of a
table as soon as it is true of the values in it, and of all other values, is true of all. -/
theorem memberInduction {motive : Value → Prop}
    (single : ∀ v : Value, v.canBeKey = true → motive v)
    (array : ∀ items : List Value, (∀ v ∈ items, motive v) → motive (.array items))
    (table : ∀ entries : Table, (∀ entry ∈ entries, motive entry.2) → motive (.table entries)) :
    ∀ v : Value, motive v
  | .array items => array items fun v _ => memberInduction single array table v
  | .table entries => table entries fun entry h =>
    have := sizeOf_lt_of_mem_entries h
    memberInduction single array table entry.2
  | .absent | .boolean _ | .integer _ | .float _ | .string _ | .moment _ | .date _
  | .time _ => single _ rfl

end Value

end ProviderBindings
