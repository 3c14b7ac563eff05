import ProviderBindings.Proofs.DistinctKeys
import ProviderBindings.Proofs.ValueEquality

/-! # Equality of networks

A network is compared as the array of its fields would be (`Network.isEqual_eq_array`), so its
equality has the properties that equality has on values.  It is an equality of what networks are: a
network that is made again is the same, unless there is a NaN in it, and two that are equal cannot
be told apart by whether they have a bound or by what keeps them from being keys
(`Network.isEqual_is_value_equality`).
-/
namespace ProviderBindings.Network

variable {a b c : Network}

/-- Whether a field of a network is a NaN or holds one, at any depth. -/
def HoldsNaN (n : Network) : Prop := ∃ v ∈ n.values, v.HoldsNaN

theorem isEqual_eq_array (a b : Network) :
    a.isEqual b = (Value.array a.values).isEqual (.array b.values) := by
  rw [Value.isEqual]
  simp only [values, Value.isEqualItems, Bool.and_true, isEqual, Bool.and_assoc]

theorem isEqual_iff_forall₂ :
    a.isEqual b = true ↔ List.Forall₂ (fun v w => v.isEqual w) a.values b.values := by
  rw [isEqual_eq_array, Value.isEqual, Value.isEqualItems_iff]

theorem holdsNaN_iff : a.HoldsNaN ↔ (Value.array a.values).HoldsNaN := by
  constructor
  · rintro ⟨v, hv, h⟩
    exact .array hv h
  · intro h
    cases h with
    | array hv h => exact ⟨_, hv, h⟩

theorem isBounded_eq_of_isEqual (h : a.isEqual b) : a.isBounded = b.isBounded :=
  Value.isPresent_eq_of_isEqual (Bool.and_eq_true_iff.mp h).2

/-- Of equal lists of values, the first that cannot be a key has the same kind. -/
theorem firstNonKey?_eq_of_forall₂ {vs ws : List Value}
    (h : List.Forall₂ (fun v w => v.isEqual w) vs ws) :
    (vs.find? fun v => !v.canBeKey).map Value.kind =
      (ws.find? fun w => !w.canBeKey).map Value.kind := by
  induction h with
  | nil => rfl
  | @cons v w _ _ hvw _ ih =>
    rw [List.find?_cons, List.find?_cons, ← Value.canBeKey_eq_of_isEqual hvw]
    cases hkey : v.canBeKey with
    | true => exact ih
    | false => exact congrArg some (Value.kind_eq_of_isEqual hvw hkey)

/-- **Networks are compared by value.**  For networks whose tables have each key once, which is so
for all that are read from a manifest (`Manifest.hasDistinctKeys_of_ofBytes`), equality is symmetric
and transitive.  A network made again from the same fields is equal to the first exactly when no
field has a NaN in it.  Equal networks agree in whether they are bounded, and in whether they can be
keys: where they cannot, it is a field of the same kind that keeps both from it. -/
theorem isEqual_is_value_equality (ha : a.HasDistinctKeys) :
    (a.isEqual b → b.isEqual a) ∧
    (a.isEqual b → b.isEqual c → a.isEqual c) ∧
    (a.isEqual a ↔ ¬ a.HoldsNaN) ∧
    (a.isEqual b → a.isBounded = b.isBounded ∧ a.firstNonKey? = b.firstNonKey?) := by
  have hkeys : (Value.array a.values).HasDistinctKeys := Value.hasDistinctKeys_array.mpr ha
  refine ⟨?_, ?_, ?_, ?_⟩
  · intro hab
    rw [isEqual_eq_array] at hab ⊢
    exact Value.isEqual_symm hkeys hab
  · intro hab hbc
    rw [isEqual_eq_array] at hab hbc ⊢
    exact Value.isEqual_trans hab hbc
  · rw [isEqual_eq_array, holdsNaN_iff]
    exact Value.isEqual_self_iff hkeys
  · intro hab
    exact ⟨isBounded_eq_of_isEqual hab, firstNonKey?_eq_of_forall₂ (isEqual_iff_forall₂.mp hab)⟩

/-- A network with numbers of all kinds and a moment in a table, and a large bound. -/
def firstForm : Network :=
  ⟨.table [("odds", .array [.integer 1, .boolean false, .float (.zero true)]),
    ("born", .moment ⟨⟨1979, 5, 27⟩, ⟨0, 32, 0, 0⟩, some 120⟩)],
    .string "https://one.example", .integer 1152921504606846976⟩

/-- The same values in other forms, with the entries of the table the other way round. -/
def secondForm : Network :=
  ⟨.table [("born", .moment ⟨⟨1979, 5, 26⟩, ⟨22, 32, 0, 0⟩, some 0⟩),
    ("odds", .array [.boolean true, .float (.zero false), .integer 0])],
    .string "https://one.example", .float (.finite false 4503599627370496 8)⟩

/-- The same values in a third form. -/
def thirdForm : Network :=
  ⟨.table [("born", .moment ⟨⟨1979, 5, 26⟩, ⟨18, 2, 0, 0⟩, some (-270)⟩),
    ("odds", .array [.float (.finite false 4503599627370496 (-52)), .integer 0, .boolean false])],
    .string "https://one.example", .integer 1152921504606846976⟩

/-- A network with a NaN deep in its bound. -/
def nestedNaN : Network :=
  ⟨.string "base", .string "", .array [.integer 1, .table [("depth", .array [.float .nan])]]⟩

theorem equalForms_equality :
    (firstForm.HasDistinctKeys ∧ firstForm.isEqual secondForm ∧ secondForm.isEqual thirdForm) ∧
    (secondForm.isEqual firstForm ∧ firstForm.isEqual thirdForm ∧ ¬ firstForm.HoldsNaN) ∧
    (secondForm.isBounded = true ∧ secondForm.firstNonKey? = some .table) ∧
    nestedNaN.HasDistinctKeys ∧ nestedNaN.HoldsNaN ∧ ¬ nestedNaN.isEqual nestedNaN := by
  have hkeysFirst : firstForm.HasDistinctKeys := by
    simp only [HasDistinctKeys, values, firstForm, List.forall_mem_cons,
      Value.hasDistinctKeys_table, Value.hasDistinctKeys_array]
    simp [Value.HasDistinctKeys]
  have hkeysNaN : nestedNaN.HasDistinctKeys := by
    simp only [HasDistinctKeys, values, nestedNaN, List.forall_mem_cons,
      Value.hasDistinctKeys_table, Value.hasDistinctKeys_array]
    simp [Value.HasDistinctKeys]
  have hnan : nestedNaN.HoldsNaN :=
    ⟨_, List.mem_of_getLast? rfl, .array (List.mem_of_getLast? rfl)
      (.table (List.mem_of_getLast? rfl) (.array List.mem_cons_self .float))⟩
  have hab : firstForm.isEqual secondForm := by decide
  have hbc : secondForm.isEqual thirdForm := by decide
  have haa : firstForm.isEqual firstForm := by decide
  obtain ⟨hsymm, htrans, hself, hagree⟩ :=
    @isEqual_is_value_equality firstForm secondForm thirdForm hkeysFirst
  obtain ⟨-, -, hselfNaN, -⟩ := @isEqual_is_value_equality nestedNaN nestedNaN nestedNaN hkeysNaN
  obtain ⟨hbounded, hnonkey⟩ := hagree hab
  refine ⟨⟨hkeysFirst, hab, hbc⟩, ⟨hsymm hab, htrans hab hbc, hself.mp haa⟩,
    ⟨hbounded ▸ rfl, hnonkey ▸ rfl⟩, hkeysNaN, hnan, ?_⟩
  intro hequal
  exact hselfNaN.mp hequal hnan

end ProviderBindings.Network
