import Mathlib.Algebra.Field.Rat
import Mathlib.Data.List.Forall2
import Mathlib.Data.List.Perm.Subperm
import ProviderBindings.Network

/-! # Equality as an equality of values

Values are compared by a program that looks at both at once.  What it compares them by is said here
without it, one level deep (`Value.Matches`): numbers of all kinds by the rational number they are,
moments by their mark, arrays item by item, tables by what each key finds.  The program agrees
(`Value.isEqual_iff`).  All that makes it an equality is then an induction over values, along the
items of arrays and the entries of tables: it is symmetric (`Value.isEqual_symm`) and transitive
(`Value.isEqual_trans`), and what is equal to itself is what holds no NaN
(`Value.isEqual_self_iff`).

A table is taken to have each key once, as the tables of a document do.  Otherwise an entry could
stand behind another one of its key, where no comparison finds it.
-/
namespace ProviderBindings

theorem Quantity.isSame_iff {q r : Quantity} : q.isSame r = true ↔ q = r ∧ q ≠ .undefined := by
  cases q <;> simp [isSame]

/-- What a moment is compared by: its instant when it has an offset, its date and time when it has
none. -/
def Moment.mark (m : Moment) : Int ⊕ (Date × TimeOfDay) :=
  match m.offset with
  | some offset => .inl (m.instant offset)
  | none => .inr (m.date, m.time)

theorem Moment.isSame_iff {m n : Moment} : m.isSame n = true ↔ m.mark = n.mark := by
  unfold isSame mark
  cases m.offset <;> cases n.offset <;> simp

namespace Value

/-! ## Numbers -/

/-- The rational number that a value is, if it is a finite number. -/
def rational? : Value → Option Rat
  | .boolean b => some (if b then 1 else 0)
  | .integer n => some n
  | .float (.finite negative mantissa exponent) =>
    some ((if negative then -(mantissa : Rat) else mantissa) * 2 ^ exponent)
  | _ => none

theorem rational?_eq_some_iff {v : Value} {x : Rat} :
    v.rational? = some x ↔ ∃ d : Dyadic, v.quantity? = some (.exact d) ∧ d.toRat = x := by
  unfold rational? quantity?
  cases v with
  | boolean b => cases b <;> simp [Dyadic.toRat_ofIntWithPrec_eq_mul_two_pow]
  | integer n => simp [Dyadic.toRat_ofIntWithPrec_eq_mul_two_pow]
  | float x =>
    cases x with
    | finite negative mantissa exponent =>
      cases negative <;> simp [Binary64.quantity, Dyadic.toRat_ofIntWithPrec_eq_mul_two_pow]
    | _ => simp [Binary64.quantity]
  | _ => simp

theorem quantity?_eq_infinite_iff {v : Value} {negative : Bool} :
    v.quantity? = some (.infinite negative) ↔ v = .float (.infinite negative) := by
  unfold quantity?
  cases v with
  | float x => cases x <;> simp [Binary64.quantity]
  | _ => simp

theorem canBeKey_of_rational? {v : Value} {x : Rat} (h : v.rational? = some x) :
    v.canBeKey = true := by
  cases v <;> first | rfl | cases h

theorem isPresent_of_rational? {v : Value} {x : Rat} (h : v.rational? = some x) :
    v.isPresent = true := by
  cases v <;> first | rfl | cases h

/-! ## What makes values equal -/

/-- Whether each key of the first table finds an equal value in the second. -/
def EntriesMatch (s t : Table) : Prop :=
  ∀ entry ∈ s, ∃ w, t.lookup entry.1 = some w ∧ entry.2.isEqual w

/-- What makes two values equal, by what makes the values in them equal.  Nothing is equal to a
NaN. -/
inductive Matches : Value → Value → Prop
  | absent : Matches .absent .absent
  | number {v w : Value} {x : Rat} (hv : v.rational? = some x) (hw : w.rational? = some x) :
      Matches v w
  | infinite (negative : Bool) :
      Matches (.float (.infinite negative)) (.float (.infinite negative))
  | string (text : String) : Matches (.string text) (.string text)
  | array {a b : List Value} (h : List.Forall₂ (fun v w => v.isEqual w) a b) :
      Matches (.array a) (.array b)
  | table {s t : Table} (hlength : s.length = t.length) (h : EntriesMatch s t) :
      Matches (.table s) (.table t)
  | moment {m n : Moment} (h : m.mark = n.mark) : Matches (.moment m) (.moment n)
  | date (d : Date) : Matches (.date d) (.date d)
  | time (t : TimeOfDay) : Matches (.time t) (.time t)

theorem isEqualItems_iff {a b : List Value} :
    isEqualItems a b = true ↔ List.Forall₂ (fun v w => v.isEqual w) a b := by
  induction a generalizing b with
  | nil => cases b <;> simp [isEqualItems]
  | cons v a ih =>
    cases b with
    | nil => simp [isEqualItems]
    | cons w b => rw [isEqualItems, Bool.and_eq_true, ih, List.forall₂_cons]

theorem isEqualEntries_iff {s t : Table} : isEqualEntries s t = true ↔ EntriesMatch s t := by
  unfold EntriesMatch
  induction s with
  | nil => simp [isEqualEntries]
  | cons entry rest ih =>
    obtain ⟨key, v⟩ := entry
    rw [isEqualEntries, Bool.and_eq_true, ih, List.forall_mem_cons]
    cases t.lookup key <;> simp

/-- Two numbers are compared by their quantities. -/
theorem isEqual_of_quantity? {v w : Value} {q r : Quantity} (hv : v.quantity? = some q)
    (hw : w.quantity? = some r) : v.isEqual w = q.isSame r := by
  unfold isEqual
  split <;> first | cases hv | rw [hv, hw]

theorem matches_of_quantity? {v w : Value} {q : Quantity} (hv : v.quantity? = some q)
    (hw : w.quantity? = some q) (hq : q ≠ .undefined) : Matches v w := by
  cases q with
  | exact d =>
    exact .number (rational?_eq_some_iff.mpr ⟨d, hv, rfl⟩) (rational?_eq_some_iff.mpr ⟨d, hw, rfl⟩)
  | infinite negative =>
    rw [quantity?_eq_infinite_iff.mp hv, quantity?_eq_infinite_iff.mp hw]
    exact .infinite negative
  | undefined => exact absurd rfl hq

/-- **The program compares values by what makes them equal.** -/
theorem isEqual_iff {v w : Value} : v.isEqual w = true ↔ Matches v w := by
  constructor
  · intro h
    unfold isEqual at h
    split at h
    · exact .absent
    · obtain rfl := beq_iff_eq.mp h
      exact .string _
    · exact .array (isEqualItems_iff.mp h)
    · obtain ⟨hlength, hentries⟩ := Bool.and_eq_true_iff.mp h
      exact .table (beq_iff_eq.mp hlength) (isEqualEntries_iff.mp hentries)
    · exact .moment (Moment.isSame_iff.mp h)
    · obtain rfl := beq_iff_eq.mp h
      exact .date _
    · obtain rfl := beq_iff_eq.mp h
      exact .time _
    · split at h
      · rename_i q r hv hw
        obtain ⟨rfl, hq⟩ := Quantity.isSame_iff.mp h
        exact matches_of_quantity? hv hw hq
      · cases h
  · intro h
    cases h with
    | absent => rw [isEqual]
    | number hv hw =>
      obtain ⟨d, hd, hx⟩ := rational?_eq_some_iff.mp hv
      obtain ⟨e, he, hy⟩ := rational?_eq_some_iff.mp hw
      obtain rfl := Dyadic.toRat_inj.mp (hx.trans hy.symm)
      rw [isEqual_of_quantity? hd he]
      exact Quantity.isSame_iff.mpr ⟨rfl, by simp⟩
    | infinite negative =>
      rw [isEqual_of_quantity? (q := .infinite negative) (r := .infinite negative) rfl rfl]
      exact Quantity.isSame_iff.mpr ⟨rfl, by simp⟩
    | string text => rw [isEqual, beq_self_eq_true]
    | array h => rw [isEqual, isEqualItems_iff.mpr h]
    | table hlength h => rw [isEqual, hlength, beq_self_eq_true, isEqualEntries_iff.mpr h]; rfl
    | moment h => rw [isEqual, Moment.isSame_iff.mpr h]
    | date d => rw [isEqual, beq_self_eq_true]
    | time t => rw [isEqual, beq_self_eq_true]

/-- An integer is not equal to the float that is next to it. -/
example : (Value.integer 9007199254740993).isEqual
    (.float (.finite false 4503599627370496 1)) = false := by decide

theorem isEqual_array_iff {items : List Value} {w : Value} :
    (Value.array items).isEqual w = true ↔
      ∃ others, w = .array others ∧ List.Forall₂ (fun v w => v.isEqual w) items others := by
  rw [isEqual_iff]
  constructor
  · intro h
    cases h with
    | number hv => cases hv
    | array h => exact ⟨_, rfl, h⟩
  · rintro ⟨others, rfl, h⟩
    exact .array h

theorem isEqual_table_iff {s : Table} {w : Value} : (Value.table s).isEqual w = true ↔
    ∃ t, w = .table t ∧ s.length = t.length ∧ EntriesMatch s t := by
  rw [isEqual_iff]
  constructor
  · intro h
    cases h with
    | number hv => cases hv
    | table hlength h => exact ⟨_, rfl, hlength, h⟩
  · rintro ⟨t, rfl, hlength, h⟩
    exact .table hlength h

/-! ## What equal values have in common -/

theorem rational?_eq_of_isEqual {v w : Value} (h : v.isEqual w) : v.rational? = w.rational? := by
  cases isEqual_iff.mp h with
  | number hv hw => rw [hv, hw]
  | _ => rfl

theorem isPresent_eq_of_isEqual {v w : Value} (h : v.isEqual w) : v.isPresent = w.isPresent := by
  cases isEqual_iff.mp h with
  | number hv hw => rw [isPresent_of_rational? hv, isPresent_of_rational? hw]
  | _ => rfl

theorem canBeKey_eq_of_isEqual {v w : Value} (h : v.isEqual w) : v.canBeKey = w.canBeKey := by
  cases isEqual_iff.mp h with
  | number hv hw => rw [canBeKey_of_rational? hv, canBeKey_of_rational? hw]
  | _ => rfl

theorem kind_eq_of_isEqual {v w : Value} (h : v.isEqual w) (hkey : v.canBeKey = false) :
    v.kind = w.kind := by
  cases isEqual_iff.mp h with
  | number hv _ => simp [canBeKey_of_rational? hv] at hkey
  | _ => rfl

/-! ## Symmetry -/

/-- If all entries of a table have equals in another one of its size, the two have the same
keys. -/
theorem EntriesMatch.keys_perm {s t : Table} (h : EntriesMatch s t) (hkeys : (s.map (·.1)).Nodup)
    (hlength : s.length = t.length) : (s.map (·.1)).Perm (t.map (·.1)) := by
  have hsubset : s.map (·.1) ⊆ t.map (·.1) := by
    intro key hkey
    obtain ⟨entry, hentry, rfl⟩ := List.mem_map.mp hkey
    obtain ⟨w, hw, -⟩ := h entry hentry
    exact List.mem_map.mpr ⟨_, Entries.mem_of_lookup hw, rfl⟩
  exact (List.subperm_of_subset hkeys hsubset).perm_of_length_le (by simp [hlength])

/-- Tables of one size match both ways, where equality is symmetric on the values of the first. -/
theorem EntriesMatch.symm {s t : Table} (h : EntriesMatch s t) (hkeys : (s.map (·.1)).Nodup)
    (hlength : s.length = t.length)
    (hsymm : ∀ entry ∈ s, ∀ w, entry.2.isEqual w → w.isEqual entry.2) : EntriesMatch t s := by
  -- the keys are the same, so that each key of `t` finds the entry of `s` that it was found by
  have hperm := h.keys_perm hkeys hlength
  have htkeys : (t.map (·.1)).Nodup := hperm.nodup_iff.mp hkeys
  rintro ⟨key, w⟩ hw
  obtain ⟨⟨_, v⟩, hv, rfl⟩ := List.mem_map.mp (hperm.mem_iff.mpr (List.mem_map_of_mem hw))
  obtain ⟨found, hfound, hequal⟩ := h _ hv
  rw [Entries.lookup_of_mem htkeys hw] at hfound
  cases hfound
  exact ⟨v, Entries.lookup_of_mem hkeys hv, hsymm _ hv w hequal⟩

theorem isEqual_symm {v w : Value} (hv : v.HasDistinctKeys) (h : v.isEqual w) : w.isEqual v := by
  induction v using memberInduction generalizing w with
  | single v hkey =>
    rw [isEqual_iff] at h ⊢
    cases h with
    | absent => exact .absent
    | number hv hw => exact .number hw hv
    | infinite negative => exact .infinite negative
    | string text => exact .string text
    | array | table => cases hkey
    | moment h => exact .moment h.symm
    | date d => exact .date d
    | time t => exact .time t
  | array items ih =>
    rw [hasDistinctKeys_array] at hv
    obtain ⟨others, rfl, hitems⟩ := isEqual_array_iff.mp h
    have hsymm := fun v hmem w => @ih v hmem w (hv v hmem)
    refine isEqual_array_iff.mpr ⟨items, rfl, List.Forall₂.flip ?_⟩
    refine ((List.forall₂_and_left items others).mpr ⟨hsymm, hitems⟩).imp ?_
    rintro v w ⟨hsymm, hvw⟩
    exact hsymm w hvw
  | table s ih =>
    obtain ⟨hkeys, hvalues⟩ := hasDistinctKeys_table.mp hv
    obtain ⟨t, rfl, hlength, hentries⟩ := isEqual_table_iff.mp h
    refine isEqual_table_iff.mpr ⟨s, rfl, hlength.symm, hentries.symm hkeys hlength ?_⟩
    intro entry hentry w
    exact ih entry hentry (hvalues entry hentry)

/-! ## Transitivity -/

theorem forall₂_trans {α : Type} {R : α → α → Prop} {a b c : List α}
    (htrans : ∀ u ∈ a, ∀ v w, R u v → R v w → R u w) (hab : List.Forall₂ R a b)
    (hbc : List.Forall₂ R b c) : List.Forall₂ R a c := by
  induction hab generalizing c with
  | nil => exact hbc
  | cons huv _ ih =>
    cases hbc with
    | cons hvw hrest =>
      obtain ⟨hfirst, htrans⟩ := List.forall_mem_cons.mp htrans
      exact .cons (hfirst _ _ huv hvw) (ih htrans hrest)

theorem EntriesMatch.trans {s t u : Table} (hst : EntriesMatch s t) (htu : EntriesMatch t u)
    (htrans : ∀ entry ∈ s, ∀ v w, entry.2.isEqual v → v.isEqual w → entry.2.isEqual w) :
    EntriesMatch s u := by
  intro entry hentry
  obtain ⟨v, hv, hequal⟩ := hst entry hentry
  obtain ⟨w, hw, hvw⟩ := htu _ (Entries.mem_of_lookup hv)
  exact ⟨w, hw, htrans entry hentry v w hequal hvw⟩

theorem isEqual_trans {u v w : Value} (huv : u.isEqual v) (hvw : v.isEqual w) : u.isEqual w := by
  induction u using memberInduction generalizing v w with
  | single u hkey =>
    cases isEqual_iff.mp huv with
    | absent | infinite | string | date | time => exact hvw
    | number hu hv => exact isEqual_iff.mpr (.number hu (rational?_eq_of_isEqual hvw ▸ hv))
    | array | table => cases hkey
    | moment hmark =>
      cases isEqual_iff.mp hvw with
      | number hnumber => cases hnumber
      | moment hmark' => exact isEqual_iff.mpr (.moment (hmark.trans hmark'))
  | array items ih =>
    obtain ⟨others, rfl, hitems⟩ := isEqual_array_iff.mp huv
    obtain ⟨more, rfl, hothers⟩ := isEqual_array_iff.mp hvw
    refine isEqual_array_iff.mpr ⟨more, rfl, forall₂_trans ?_ hitems hothers⟩
    intro u hu v w
    exact ih u hu
  | table s ih =>
    obtain ⟨t, rfl, hlength, hst⟩ := isEqual_table_iff.mp huv
    obtain ⟨t', rfl, hlength', htt'⟩ := isEqual_table_iff.mp hvw
    refine isEqual_table_iff.mpr ⟨t', rfl, hlength.trans hlength', hst.trans htt' ?_⟩
    intro entry hentry v w
    exact ih entry hentry

/-! ## What is equal to itself -/

/-- Whether a value is a NaN or holds one, at any depth. -/
inductive HoldsNaN : Value → Prop
  | float : HoldsNaN (.float .nan)
  | array {items : List Value} {v : Value} (hv : v ∈ items) (h : HoldsNaN v) :
      HoldsNaN (.array items)
  | table {entries : Table} {entry : String × Value} (hentry : entry ∈ entries)
      (h : HoldsNaN entry.2) : HoldsNaN (.table entries)

theorem HoldsNaN.not_isEqual {v : Value} (h : v.HoldsNaN) (w : Value) : ¬ v.isEqual w := by
  intro hequal
  induction h generalizing w with
  | float =>
    cases isEqual_iff.mp hequal with
    | number hnumber => cases hnumber
  | array hv _ ih =>
    obtain ⟨others, rfl, hitems⟩ := isEqual_array_iff.mp hequal
    obtain ⟨i, rfl⟩ := List.mem_iff_get.mp hv
    exact ih _ (hitems.get i.isLt (hitems.length_eq ▸ i.isLt))
  | table hentry _ ih =>
    obtain ⟨t, rfl, -, hentries⟩ := isEqual_table_iff.mp hequal
    obtain ⟨w, -, hw⟩ := hentries _ hentry
    exact ih w hw

theorem isEqual_self {v : Value} (hkeys : v.HasDistinctKeys) (hnan : ¬ v.HoldsNaN) :
    v.isEqual v := by
  induction v using memberInduction with
  | single v hkey =>
    rw [isEqual_iff]
    cases v with
    | absent => exact .absent
    | boolean | integer => exact .number rfl rfl
    | float x =>
      cases x with
      | nan => exact absurd .float hnan
      | infinite negative => exact .infinite negative
      | finite => exact .number rfl rfl
    | string text => exact .string text
    | array | table => cases hkey
    | moment m => exact .moment rfl
    | date d => exact .date d
    | time t => exact .time t
  | array items ih =>
    rw [hasDistinctKeys_array] at hkeys
    refine isEqual_array_iff.mpr ⟨items, rfl, List.forall₂_same.mpr ?_⟩
    intro v hv
    exact ih v hv (hkeys v hv) fun h => hnan (.array hv h)
  | table entries ih =>
    obtain ⟨hnodup, hvalues⟩ := hasDistinctKeys_table.mp hkeys
    refine isEqual_table_iff.mpr ⟨entries, rfl, rfl, ?_⟩
    intro entry hentry
    refine ⟨entry.2, Entries.lookup_of_mem hnodup hentry, ?_⟩
    exact ih entry hentry (hvalues entry hentry) fun h => hnan (.table hentry h)

theorem isEqual_self_iff {v : Value} (hkeys : v.HasDistinctKeys) :
    v.isEqual v = true ↔ ¬ v.HoldsNaN :=
  ⟨fun h hnan => hnan.not_isEqual v h, isEqual_self hkeys⟩

end Value

end ProviderBindings
