import ProviderBindings.Proofs.Attempt
import ProviderBindings.Proofs.ManifestShape
import ProviderBindings.Value.Equality

/-! # The tables of a document have each key once

An entry goes into a table under a key that has none, or takes the place of the one that the key
had.  So a reader that begins with an empty table and changes it by such steps keeps each key to one
entry, in the table and in all that it holds.  The steps are those of a dotted key
(`distinctKeys_updateAt`), and the reader is followed from there through values and statements up to
manifests (`Manifest.hasDistinctKeys_of_ofBytes`).
-/
namespace ProviderBindings

open Attempt

/-- Whether a table and all tables in it have each key once. -/
abbrev Table.HasDistinctKeys (t : Table) : Prop := (Value.table t).HasDistinctKeys

namespace Table

variable {t : Table} {key : String} {v : Value}

theorem HasDistinctKeys.nil : Table.HasDistinctKeys [] := by
  simp [Table.HasDistinctKeys]

theorem HasDistinctKeys.set (ht : t.HasDistinctKeys) (hv : v.HasDistinctKeys) :
    (t.set key v).HasDistinctKeys := by
  obtain ⟨hkeys, hvalues⟩ := Value.hasDistinctKeys_table.mp ht
  refine Value.hasDistinctKeys_table.mpr ⟨Entries.nodup_keys_set key v hkeys, ?_⟩
  intro entry hentry
  rcases Entries.eq_or_mem_of_mem_set hentry with rfl | hentry
  · exact hv
  · exact hvalues entry hentry

theorem HasDistinctKeys.lookup (ht : t.HasDistinctKeys) (h : t.lookup key = some v) :
    v.HasDistinctKeys :=
  (Value.hasDistinctKeys_table.mp ht).2 _ (Entries.mem_of_lookup h)

end Table

namespace Toml

/-! ## Changing a table -/

section

variable {change : Table → Except Problem Table}
  (hchange : ∀ t : Table, t.HasDistinctKeys → Yields Table.HasDistinctKeys (change t))
include hchange

theorem distinctKeys_updateAt (throughArrays : Bool) (key : Key) {t : Table}
    (ht : t.HasDistinctKeys) :
    Yields Table.HasDistinctKeys (updateAt throughArrays change key t) := by
  induction key generalizing t with
  | nil => exact hchange t ht
  | cons part key ih =>
    unfold updateAt
    split
    · exact (ih .nil).bind fun inner hinner => .ok (ht.set hinner)
    · rename_i inner hlookup
      exact (ih (ht.lookup hlookup)).bind fun inner hinner => .ok (ht.set hinner)
    · rename_i items hlookup
      have hitems := Value.hasDistinctKeys_array.mp (ht.lookup hlookup)
      split
      · rename_i inner hlast
        refine (ih (hitems _ (List.mem_of_getLast? hlast))).bind fun inner hinner => .ok (ht.set ?_)
        refine Value.hasDistinctKeys_array.mpr (List.forall_mem_append.mpr ⟨?_, ?_⟩)
        · intro v hv
          exact hitems v (List.dropLast_subset _ hv)
        · exact List.forall_mem_singleton.mpr hinner
      · exact .error _
    · exact .error _

end

theorem distinctKeys_addEntry (taken : Problem) (part : String) {v : Value} (hv : v.HasDistinctKeys)
    (t : Table) (ht : t.HasDistinctKeys) :
    Yields Table.HasDistinctKeys (addEntry taken part v t) := by
  unfold addEntry
  split
  · exact .error _
  · exact .ok (ht.set hv)

theorem distinctKeys_addTable (part : String) (t : Table) (ht : t.HasDistinctKeys) :
    Yields Table.HasDistinctKeys (addTable part t) := by
  unfold addTable
  split
  · refine .ok (ht.set (Value.hasDistinctKeys_array.mpr ?_))
    exact List.forall_mem_singleton.mpr Table.HasDistinctKeys.nil
  · rename_i items hlookup
    have hitems := Value.hasDistinctKeys_array.mp (ht.lookup hlookup)
    refine .ok (ht.set (Value.hasDistinctKeys_array.mpr (List.forall_mem_append.mpr ⟨hitems, ?_⟩)))
    exact List.forall_mem_singleton.mpr Table.HasDistinctKeys.nil
  · exact .error _

theorem distinctKeys_addPair (frozen : List Key) (key : Key) {v : Value} (hv : v.HasDistinctKeys)
    {t : Table} (ht : t.HasDistinctKeys) :
    Yields Table.HasDistinctKeys (addPair frozen key v t) := by
  unfold addPair
  split
  · exact .error _
  · exact distinctKeys_updateAt (distinctKeys_addEntry _ _ hv) _ _ ht

theorem yields_orFail {α : Type} {P : α → Prop} (rest : List Char) {x : Except Problem α}
    (h : Yields P x) : Yields P (orFail rest x) := by
  cases x with
  | ok a => exact .ok (h a rfl)
  | error p => exact .error _

/-! ## Reading a value -/

/-- Whether all tables in what has been read have each key once. -/
abbrev Scanned.HasDistinctKeys (scanned : Scanned Value) : Prop := scanned.1.HasDistinctKeys

theorem distinctKeys_readCalendar? {text : List Char} {date : Date} {v : Value} {rest : List Char}
    (h : readCalendar? text = some (date, v, rest)) : v.HasDistinctKeys := by
  obtain ⟨⟨_, _⟩, -, h⟩ := Option.bind_eq_some_iff.mp h
  dsimp only at h
  split at h
  · cases h
    trivial
  · cases h
    trivial

theorem distinctKeys_readDecimal? {text : List Char} {reading : Except Failure (Scanned Value)}
    (h : readDecimal? text = some reading) : Yields Scanned.HasDistinctKeys reading := by
  obtain ⟨⟨whole, rest⟩, -, h⟩ := Option.bind_eq_some_iff.mp h
  dsimp only at h
  split at h
  · split at h
    · cases h
      exact .error _
    · cases h
      exact .ok trivial
  · cases h
    exact .ok trivial

theorem distinctKeys_readWord? {text : List Char} {v : Value} {rest : List Char}
    (h : readWord? text = some (v, rest)) : v.HasDistinctKeys := by
  unfold readWord? at h
  dsimp only at h
  split at h
  · cases h
    trivial
  · cases h
    trivial
  · cases h

theorem distinctKeys_readScalar (text : List Char) :
    Yields Scanned.HasDistinctKeys (readScalar text) := by
  unfold readScalar
  split
  · rename_i hcalendar
    split
    · exact .ok (distinctKeys_readCalendar? hcalendar)
    · exact .error _
  · split
    · exact .ok trivial
    · split
      · exact .ok trivial
      · split
        · rename_i hdecimal
          exact distinctKeys_readDecimal? hdecimal
        · split
          · rename_i hword
            exact .ok (distinctKeys_readWord? hword)
          · exact .error _

theorem distinctKeys_asString (reading : Except Failure (Scanned String)) :
    Yields Scanned.HasDistinctKeys (asString reading) := by
  cases reading with
  | ok scanned => exact .ok trivial
  | error e => exact .error e

section

variable {item : ItemReader} (hitem : ∀ text, Yields Scanned.HasDistinctKeys (item text))
include hitem

theorem distinctKeys_readPair (text : List Char) :
    Yields (fun scanned => scanned.1.2.HasDistinctKeys) (readPair item text) := by
  refine .of_bind ?_
  rintro ⟨key, rest⟩
  dsimp only
  split
  · refine (hitem _).bind ?_
    rintro ⟨v, rest⟩ hv
    exact .ok hv
  · exact .error _

theorem distinctKeys_readItems (count : Nat) (text : List Char) :
    Yields (fun scanned => ∀ v ∈ scanned.1, v.HasDistinctKeys) (readItems item count text) := by
  induction count generalizing text with
  | zero => exact .error _
  | succ count ih =>
    unfold readItems
    split
    · exact .ok (List.forall_mem_nil _)
    · refine (hitem _).bind ?_
      rintro ⟨v, rest⟩ hv
      refine .of_bind fun next => ?_
      split
      · exact .ok (List.forall_mem_singleton.mpr hv)
      · refine .of_bind fun text => (ih text).bind ?_
        rintro ⟨items, rest⟩ hitems
        exact .ok (List.forall_mem_cons.mpr ⟨hv, hitems⟩)
      · exact .error _

theorem distinctKeys_readPairs (count : Nat) (frozen : List Key) {t : Table}
    (ht : t.HasDistinctKeys) (text : List Char) :
    Yields (fun scanned => scanned.1.HasDistinctKeys) (readPairs item count frozen t text) := by
  induction count generalizing frozen t text with
  | zero => exact .error _
  | succ count ih =>
    refine (distinctKeys_readPair hitem text).bind ?_
    rintro ⟨⟨key, v⟩, rest⟩ hv
    refine (yields_orFail _ (distinctKeys_addPair frozen key hv ht)).bind fun t ht => ?_
    dsimp only
    split
    · exact .ok ht
    · exact ih _ ht _
    · exact .error _

theorem distinctKeys_readInlineTable (text : List Char) :
    Yields Scanned.HasDistinctKeys (readInlineTable item text) := by
  unfold readInlineTable
  split
  · exact .ok Table.HasDistinctKeys.nil
  · refine (distinctKeys_readPairs hitem _ _ .nil _).bind ?_
    rintro ⟨t, rest⟩ ht
    exact .ok ht

theorem distinctKeys_readArray (text : List Char) :
    Yields Scanned.HasDistinctKeys (readArray item text) := by
  refine .of_bind fun text => (distinctKeys_readItems hitem _ _).bind ?_
  rintro ⟨items, rest⟩ hitems
  exact .ok (Value.hasDistinctKeys_array.mpr hitems)

end

theorem distinctKeys_readItem (depth : Nat) (text : List Char) :
    Yields Scanned.HasDistinctKeys (readItem depth text) := by
  induction depth generalizing text with
  | zero => exact .error _
  | succ depth ih =>
    unfold readItem
    split
    · exact distinctKeys_asString _
    · exact distinctKeys_asString _
    · exact distinctKeys_asString _
    · exact distinctKeys_asString _
    · exact .ok trivial
    · exact .ok trivial
    · exact distinctKeys_readArray ih _
    · exact distinctKeys_readInlineTable ih _
    · exact distinctKeys_readScalar _

/-! ## Reading a document -/

/-- Whether all tables of a draft have each key once. -/
abbrev Draft.HasDistinctKeys (d : Draft) : Prop := d.tables.HasDistinctKeys

section

variable {d : Draft} (hd : d.HasDistinctKeys)
include hd

theorem distinctKeys_openTable (key : Key) : Yields Draft.HasDistinctKeys (d.openTable key) := by
  unfold Draft.openTable
  split
  · exact .error _
  · exact (distinctKeys_updateAt (fun t ht => .ok ht) _ _ hd).bind fun t ht => .ok ht

theorem distinctKeys_openNext (key : Key) : Yields Draft.HasDistinctKeys (d.openNext key) := by
  unfold Draft.openNext
  split
  · exact .error _
  · exact (distinctKeys_updateAt (distinctKeys_addTable _) _ _ hd).bind fun t ht => .ok ht

theorem distinctKeys_add (key : Key) {v : Value} (hv : v.HasDistinctKeys) :
    Yields Draft.HasDistinctKeys (d.add key v) := by
  unfold Draft.add
  dsimp only
  split
  · exact .error _
  · split
    · exact .error _
    · exact (distinctKeys_updateAt (distinctKeys_addEntry _ _ hv) _ _ hd).bind fun t ht => .ok ht

theorem distinctKeys_readArrayHeader (text : List Char) :
    Yields (fun scanned => scanned.1.HasDistinctKeys) (readArrayHeader d text) := by
  refine .of_bind ?_
  rintro ⟨key, rest⟩
  refine (yields_orFail _ (@distinctKeys_openNext d.endSection hd key)).bind fun d hd => ?_
  split
  · exact .ok hd
  · exact .error _

theorem distinctKeys_readTableHeader (text : List Char) :
    Yields (fun scanned => scanned.1.HasDistinctKeys) (readTableHeader d text) := by
  refine .of_bind ?_
  rintro ⟨key, rest⟩
  refine (yields_orFail _ (@distinctKeys_openTable d.endSection hd key)).bind fun d hd => ?_
  split
  · exact .ok hd
  · exact .error _

theorem distinctKeys_readStatement (text : List Char) :
    Yields (fun scanned => scanned.1.HasDistinctKeys) (readStatement d text) := by
  unfold readStatement
  split
  · exact distinctKeys_readArrayHeader hd _
  · exact distinctKeys_readTableHeader hd _
  · exact .ok hd
  · split
    · refine (distinctKeys_readPair (distinctKeys_readItem _) _).bind ?_
      rintro ⟨⟨key, v⟩, rest⟩ hv
      exact (yields_orFail _ (distinctKeys_add hd key hv)).bind fun d hd => .ok hd
    · exact .error _
  · exact .ok hd

end

theorem distinctKeys_readLines (lines : Nat) {d : Draft} (hd : d.HasDistinctKeys)
    (text : List Char) : Yields Draft.HasDistinctKeys (readLines lines d text) := by
  induction lines generalizing d text with
  | zero => exact .ok hd
  | succ lines ih =>
    unfold readLines
    split
    · exact .ok hd
    · exact ih hd _
    · refine (distinctKeys_readStatement hd _).bind ?_
      rintro ⟨d, rest⟩ hd
      refine .of_bind fun next => ?_
      split
      · exact .ok hd
      · exact ih hd _
      · exact .error _

/-- **The tables of a document have each key once**, at any depth. -/
theorem distinctKeys_parse {text : List Char} {t : Table} (h : parse text = .ok t) :
    t.HasDistinctKeys := by
  unfold parse at h
  dsimp only at h
  split at h
  · rename_i hread
    cases h
    unfold readDocument at hread
    generalize hlines : readLines _ Draft.empty _ = lines at hread
    cases lines with
    | ok d =>
      cases hread
      exact distinctKeys_readLines _ .nil _ d hlines
    | error e => cases hread
  · cases h
  · cases h

end Toml

/-! ## Reading a manifest -/

/-- Whether all tables in the fields of a network have each key once. -/
def Network.HasDistinctKeys (n : Network) : Prop := ∀ v ∈ n.values, v.HasDistinctKeys

namespace Manifest

theorem Gives.hasDistinctKeys {t : Table} {key : String} {default v : Value}
    (h : Gives t key default v) (ht : t.HasDistinctKeys) (hdefault : default.HasDistinctKeys) :
    v.HasDistinctKeys := by
  rcases h with hlookup | ⟨-, rfl⟩
  · exact ht.lookup hlookup
  · exact hdefault

theorem Tells.hasDistinctKeys {t : Table} {n : Network} (h : Tells t n) (ht : t.HasDistinctKeys) :
    n.HasDistinctKeys := by
  simp only [Network.HasDistinctKeys, Network.values, List.forall_mem_cons]
  exact ⟨h.name.hasDistinctKeys ht trivial, h.url.hasDistinctKeys ht trivial,
    h.computeUnits.hasDistinctKeys ht trivial, List.forall_mem_nil _⟩

theorem Lists.hasDistinctKeys {d : Table} {ts : List Table} (h : Lists (d.lookup "networks") ts)
    (hd : d.HasDistinctKeys) : ∀ t ∈ ts, t.HasDistinctKeys := by
  generalize hlookup : d.lookup "networks" = networks at h
  cases h with
  | array ts =>
    intro t ht
    exact Value.hasDistinctKeys_array.mp (hd.lookup hlookup) _ (List.mem_map_of_mem ht)
  | _ => exact List.forall_mem_nil _

/-- **In a manifest that has been read, all tables have each key once**, whatever the fields of the
networks hold. -/
theorem hasDistinctKeys_of_ofBytes {bytes : List UInt8} {m : Manifest} (h : ofBytes bytes = .ok m) :
    ∀ n ∈ m.networks, n.HasDistinctKeys := by
  obtain ⟨text, -, h⟩ := bind_eq_ok_iff.mp h
  obtain ⟨d, hd, h⟩ := bind_eq_ok_iff.mp h
  have hkeys : d.HasDistinctKeys := Toml.distinctKeys_parse (mapError_eq_ok_iff.mp hd)
  obtain ⟨⟨ts, hlists, htells⟩, -⟩ := ofTable_eq_ok_iff.mp h
  intro n hn
  obtain ⟨i, rfl⟩ := List.mem_iff_get.mp hn
  have hi : i.1 < ts.length := by
    rw [htells.length_eq]
    exact i.isLt
  exact (htells.get hi i.isLt).hasDistinctKeys (hlists.hasDistinctKeys hkeys _ (List.get_mem _ _))

end Manifest

end ProviderBindings
