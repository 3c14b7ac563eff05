import ProviderBindings.Value.Basic

/-! # When two values are equal

Numbers are compared by their exact value, whatever their kind; a truth value
counts as zero or one. What is not a number is equal to nothing, not even to
itself. Arrays are compared item by item, tables key by key without regard to the
order of their entries. Values of other kinds are equal only within their kind. -/
namespace ProviderBindings

/-- A number by its value alone. -/
inductive Quantity
  | exact (value : Dyadic)
  | infinite (negative : Bool)
  | undefined
  deriving DecidableEq

/-- The quantity that a double-precision number stands for; the two zeros stand for
the same one. -/
def Binary64.quantity : Binary64 → Quantity
  | .nan => .undefined
  | .infinite negative => .infinite negative
  | .finite negative mantissa exponent =>
    .exact (.ofIntWithPrec (if negative then -(mantissa : Int) else mantissa) (-exponent))

/-- Whether two quantities are equal; an undefined one is equal to none. -/
def Quantity.isSame : Quantity → Quantity → Bool
  | .undefined, _ => false
  | q, r => q = r

namespace Value

/-- The quantity of a value that counts as a number. -/
def quantity? : Value → Option Quantity
  | .boolean b => some (.exact (.ofIntWithPrec (if b then 1 else 0) 0))
  | .integer n => some (.exact (.ofIntWithPrec n 0))
  | .float x => some x.quantity
  | _ => none

mutual

/-- Whether two values are equal. -/
def isEqual : Value → Value → Bool
  | .absent, .absent => true
  | .string s, .string t => s == t
  | .array a, .array b => isEqualItems a b
  | .table a, .table b => a.length == b.length && isEqualEntries a b
  | .moment m, .moment n => m.isSame n
  | .date d, .date e => d == e
  | .time t, .time u => t == u
  | v, w =>
    match v.quantity?, w.quantity? with
    | some q, some r => q.isSame r
    | _, _ => false

/-- Whether two arrays have equal items throughout. -/
def isEqualItems : List Value → List Value → Bool
  | [], [] => true
  | v :: a, w :: b => isEqual v w && isEqualItems a b
  | _, _ => false

/-- Whether each entry of the first table has an equal one in the second. -/
def isEqualEntries : List (String × Value) → List (String × Value) → Bool
  | [], _ => true
  | (key, v) :: a, b =>
    (match b.lookup key with
      | some w => isEqual v w
      | none => false) && isEqualEntries a b

end

mutual

/-- Whether no table in a value, at any depth, has two entries of one key. -/
def HasDistinctKeys : Value → Prop
  | .array items => HaveDistinctKeys items
  | .table entries => (entries.map (·.1)).Nodup ∧ EntriesHaveDistinctKeys entries
  | _ => True

/-- `HasDistinctKeys` for every item of an array. -/
def HaveDistinctKeys : List Value → Prop
  | [] => True
  | v :: rest => HasDistinctKeys v ∧ HaveDistinctKeys rest

/-- `HasDistinctKeys` for the value of every entry of a table. -/
def EntriesHaveDistinctKeys : List (String × Value) → Prop
  | [] => True
  | (_, v) :: rest => HasDistinctKeys v ∧ EntriesHaveDistinctKeys rest

end

@[simp] theorem hasDistinctKeys_array {items : List Value} :
    (Value.array items).HasDistinctKeys ↔ ∀ v ∈ items, v.HasDistinctKeys := by
  rw [HasDistinctKeys]
  induction items with
  | nil => simp [HaveDistinctKeys]
  | cons v rest ih => rw [HaveDistinctKeys, ih, List.forall_mem_cons]

@[simp] theorem hasDistinctKeys_table {entries : Table} :
    (Value.table entries).HasDistinctKeys ↔
      (entries.map (·.1)).Nodup ∧ ∀ entry ∈ entries, entry.2.HasDistinctKeys := by
  have hvalues : EntriesHaveDistinctKeys entries ↔ ∀ entry ∈ entries, entry.2.HasDistinctKeys := by
    induction entries with
    | nil => simp [EntriesHaveDistinctKeys]
    | cons entry rest ih =>
      obtain ⟨key, v⟩ := entry
      rw [EntriesHaveDistinctKeys, ih, List.forall_mem_cons]
  rw [HasDistinctKeys, hvalues]

end Value

end ProviderBindings
