import Mathlib.Data.List.Forall2
import ProviderBindings.Manifest
import ProviderBindings.Proofs.Attempt

/-! # The shape of a manifest

A document is read without being checked: what `networks` holds is gone through, and each of its
elements, like `output`, is asked for the keys that matter.  So which documents are manifests
follows from what the kinds of values allow.  An array of tables is what is meant; but nothing
can be wrong with a value that has no elements to go through, or that counts as none.

Which manifest a document describes (`Manifest.Describes`) and what keeps it from being one
(`Manifest.Spoils`) are said here without the reader, by the values under the two keys.  The
reader agrees with both (`Manifest.ofTable_shape`).
-/
namespace ProviderBindings

open Attempt

/-- The values that count as none: nothing, `false`, zero with or without a sign, and the empty
string, array and table. -/
inductive Value.IsVoid : Value → Prop
  | absent : IsVoid .absent
  | no : IsVoid (.boolean false)
  | zero : IsVoid (.integer 0)
  | float (negative : Bool) (exponent : Int) : IsVoid (.float (.finite negative 0 exponent))
  | string : IsVoid (.string "")
  | array : IsVoid (.array [])
  | table : IsVoid (.table [])

theorem Value.isEmpty_iff {v : Value} : v.isEmpty = true ↔ v.IsVoid := by
  constructor
  · intro h
    cases v with
    | absent => exact .absent
    | boolean b =>
      cases b with
      | false => exact .no
      | true => cases h
    | integer n =>
      obtain rfl := beq_iff_eq.mp h
      exact .zero
    | float x =>
      cases x with
      | finite negative mantissa exponent =>
        obtain rfl := beq_iff_eq.mp h
        exact .float negative exponent
      | _ => cases h
    | string text =>
      obtain rfl := beq_iff_eq.mp h
      exact .string
    | array items =>
      obtain rfl := List.isEmpty_iff.mp h
      exact .array
    | table entries =>
      obtain rfl := List.isEmpty_iff.mp h
      exact .table
    | _ => cases h
  · intro h
    cases h <;> rfl

theorem Value.kind_eq_table_iff {v : Value} : v.kind = .table ↔ ∃ t, v = .table t := by
  cases v <;> simp [kind]

/-- Whether the values of a kind have elements. -/
def Kind.hasElements : Kind → Bool
  | .string | .array | .table => true
  | _ => false

namespace Manifest

/-! ## What a document describes -/

/-- What a table gives for a key: the value that is written, as it is, or a default. -/
def Gives (t : Table) (key : String) (default v : Value) : Prop :=
  t.lookup key = some v ∨ (t.lookup key = none ∧ v = default)

/-- The tables that `networks` lists: those in its array.  It lists none where it is left out, or
is an empty string or table. -/
inductive Lists : Option Value → List Table → Prop
  | missing : Lists none []
  | emptyString : Lists (some (.string "")) []
  | emptyTable : Lists (some (.table [])) []
  | array (ts : List Table) : Lists (some (.array (ts.map .table))) ts

/-- A network is the one that a table tells of. -/
structure Tells (t : Table) (n : Network) : Prop where
  name : Gives t "name" (.string "") n.name
  url : Gives t "url" (.string "") n.url
  computeUnits : Gives t "compute_units_per_second" .absent n.computeUnits

/-- The path that `output` leads to: the one that is given in its table.  It is empty where
`output` is left out or counts as none. -/
inductive Leads : Option Value → Value → Prop
  | missing : Leads none (.string "")
  | void {v : Value} (h : v.IsVoid) : Leads (some v) (.string "")
  | table {t : Table} {path : Value} (h : Gives t "path" (.string "") path) :
      Leads (some (.table t)) path

/-- A document describes a manifest: one network for each table that is listed, in order, and the
path of the output. -/
structure Describes (d : Table) (m : Manifest) : Prop where
  networks : ∃ ts, Lists (d.lookup "networks") ts ∧ List.Forall₂ Tells ts m.networks
  output : Leads (d.lookup "output") m.output

/-- Whether a document has the shape of a manifest. -/
structure HasShape (d : Table) : Prop where
  networks : ∃ ts, Lists (d.lookup "networks") ts
  output : ∀ v, d.lookup "output" = some v → v.IsVoid ∨ v.kind = .table

/-! ## What is wrong with a document -/

/-- What is wrong with `networks`: it has no elements, or it has one that is no table, of which
the first is at fault.  Those of a string and of a table are strings. -/
inductive NotListed : Value → Fault → Prop
  | noElements {v : Value} (h : v.kind.hasElements = false) : NotListed v (.notIterable v.kind)
  | character {text : String} (h : text ≠ "") :
      NotListed (.string text) (.notSupported .string .get)
  | key (entry : String × Value) (rest : Table) :
      NotListed (.table (entry :: rest)) (.notSupported .string .get)
  | item (ts : List Table) {v : Value} (rest : List Value) (h : v.kind ≠ .table) :
      NotListed (.array (ts.map .table ++ v :: rest)) (.notSupported v.kind .get)

/-- What keeps a document from being a manifest: what is wrong with `networks`, or else that
`output` is something, and no table. -/
inductive Spoils (d : Table) : Fault → Prop
  | networks {v : Value} {fault : Fault} (hv : d.lookup "networks" = some v)
      (h : NotListed v fault) : Spoils d fault
  | output {ts : List Table} {v : Value} (hts : Lists (d.lookup "networks") ts)
      (hv : d.lookup "output" = some v) (hvoid : ¬ v.IsVoid) (hkind : v.kind ≠ .table) :
      Spoils d (.notSupported v.kind .get)

/-! ## What matters of a document -/

/-- Two values are the same, or they are tables that agree on some keys. -/
inductive AgreeOn (keys : List String) : Value → Value → Prop
  | same (v : Value) : AgreeOn keys v v
  | tables {t t' : Table} (h : ∀ key ∈ keys, t.lookup key = t'.lookup key) :
      AgreeOn keys (.table t) (.table t')

/-- The keys of a network. -/
def networkKeys : List String := ["name", "url", "compute_units_per_second"]

/-- Two documents agree on all that a manifest takes from them: they have the same `networks`, or
arrays whose items agree one by one on the keys of a network; and the same `output`, or tables
that agree on the path. -/
structure Agree (d d' : Table) : Prop where
  networks : d.lookup "networks" = d'.lookup "networks" ∨
    ∃ vs vs', d.lookup "networks" = some (.array vs) ∧ d'.lookup "networks" = some (.array vs') ∧
      List.Forall₂ (AgreeOn networkKeys) vs vs'
  output : d.lookup "output" = d'.lookup "output" ∨
    ∃ v v', d.lookup "output" = some v ∧ d'.lookup "output" = some v' ∧ AgreeOn ["path"] v v'

/-! ## Values under a key -/

variable {d d' t t' : Table} {v v' : Value} {n : Network} {fault : Fault}

theorem gives_iff {key : String} {default : Value} :
    Gives t key default v ↔ Table.getD t key default = v := by
  unfold Gives Table.getD
  cases t.lookup key with
  | none => simp [eq_comm]
  | some w => simp

theorem getD_eq_of_lookup_eq {key : String} (default : Value)
    (h : t.lookup key = t'.lookup key) : Table.getD t key default = Table.getD t' key default := by
  unfold Table.getD
  rw [h]

/-! ## Networks -/

theorem network_eq_ok_iff : network v = .ok n ↔ ∃ t, v = .table t ∧ Tells t n := by
  constructor
  · intro h
    cases v with
    | table t =>
      cases h
      exact ⟨t, rfl, gives_iff.mpr rfl, gives_iff.mpr rfl, gives_iff.mpr rfl⟩
    | _ => cases h
  · rintro ⟨t, rfl, hname, hurl, hunits⟩
    rw [network, gives_iff.mp hname, gives_iff.mp hurl, gives_iff.mp hunits]

theorem network_eq_error_iff :
    network v = .error fault ↔ v.kind ≠ .table ∧ fault = .notSupported v.kind .get := by
  cases v <;> simp [network, Value.kind, eq_comm]

theorem network_of_agreeOn (h : AgreeOn networkKeys v v') : network v = network v' := by
  cases h with
  | same => rfl
  | tables h =>
    simp only [networkKeys, List.forall_mem_cons] at h
    obtain ⟨hname, hurl, hunits, -⟩ := h
    rw [network, network, getD_eq_of_lookup_eq _ hname, getD_eq_of_lookup_eq _ hurl,
      getD_eq_of_lookup_eq _ hunits]

theorem mapM_network_eq_ok_iff {vs : List Value} {ns : List Network} :
    vs.mapM network = .ok ns ↔ ∃ ts, vs = ts.map .table ∧ List.Forall₂ Tells ts ns := by
  induction vs generalizing ns with
  | nil =>
    constructor
    · intro h
      cases h
      exact ⟨[], rfl, .nil⟩
    · rintro ⟨ts, hts, hns⟩
      obtain rfl := List.map_eq_nil_iff.mp hts.symm
      cases hns
      rfl
  | cons v rest ih =>
    rw [mapM_cons_eq_ok_iff]
    constructor
    · rintro ⟨n, others, hn, hothers, rfl⟩
      obtain ⟨t, rfl, ht⟩ := network_eq_ok_iff.mp hn
      obtain ⟨ts, rfl, hts⟩ := ih.mp hothers
      exact ⟨t :: ts, rfl, .cons ht hts⟩
    · rintro ⟨ts, hts, hns⟩
      obtain ⟨t, ts, rfl, rfl, rfl⟩ := List.map_eq_cons_iff.mp hts.symm
      cases hns with
      | cons ht hrest =>
        exact ⟨_, _, network_eq_ok_iff.mpr ⟨t, rfl, ht⟩, ih.mpr ⟨ts, rfl, hrest⟩, rfl⟩

theorem mapM_network_eq_error_iff {vs : List Value} : vs.mapM network = .error fault ↔
    ∃ (ts : List Table) (v : Value) (rest : List Value), vs = ts.map .table ++ v :: rest ∧
      v.kind ≠ .table ∧ fault = .notSupported v.kind .get := by
  rw [mapM_eq_error_iff]
  constructor
  · rintro ⟨before, v, rest, rfl, hbefore, hv⟩
    -- all that comes before the one at fault are tables
    obtain ⟨ns, hns⟩ := exists_mapM_eq_ok_iff.mpr hbefore
    obtain ⟨ts, rfl, -⟩ := mapM_network_eq_ok_iff.mp hns
    exact ⟨ts, v, rest, rfl, network_eq_error_iff.mp hv⟩
  · rintro ⟨ts, v, rest, rfl, hv⟩
    refine ⟨_, v, rest, rfl, ?_, network_eq_error_iff.mpr hv⟩
    intro w hw
    obtain ⟨t, -, rfl⟩ := List.mem_map.mp hw
    exact ⟨_, rfl⟩

theorem mapM_network_of_agreeOn {vs vs' : List Value}
    (h : List.Forall₂ (AgreeOn networkKeys) vs vs') : vs.mapM network = vs'.mapM network := by
  induction h with
  | nil => rfl
  | cons hv _ ih => rw [List.mapM_cons, List.mapM_cons, network_of_agreeOn hv, ih]

/-- The networks that are listed under the key, if there is one. -/
def listed (networks : Option Value) : Except Fault (List Network) := do
  (← elements (networks.getD (.array []))).mapM network

/-- A string can be asked for nothing, so a string whose characters are gone through is empty. -/
theorem listed_string (text : String) : listed (some (.string text)) =
    if text = "" then .ok [] else .error (.notSupported .string .get) := by
  show (text.toList.map fun c => Value.string c.toString).mapM network = _
  split
  · rename_i hempty
    subst hempty
    rfl
  · rename_i htext
    have hne : text.toList ≠ [] := mt String.toList_eq_nil_iff.mp htext
    obtain ⟨c, rest, hlist⟩ := List.exists_cons_of_ne_nil hne
    rw [hlist, List.map_cons, List.mapM_cons]
    rfl

theorem listed_eq_ok_iff {networks : Option Value} {ns : List Network} :
    listed networks = .ok ns ↔ ∃ ts, Lists networks ts ∧ List.Forall₂ Tells ts ns := by
  have hnone : Except.ok [] = (.ok ns : Except Fault (List Network)) ↔
      List.Forall₂ Tells [] ns := by
    rw [List.forall₂_nil_left_iff, Except.ok.injEq, eq_comm]
  constructor
  · intro h
    rcases networks with _ | v
    · exact ⟨[], .missing, hnone.mp h⟩
    · cases v with
      | array vs =>
        obtain ⟨ts, rfl, hts⟩ := mapM_network_eq_ok_iff.mp h
        exact ⟨ts, .array ts, hts⟩
      | string text =>
        rw [listed_string] at h
        split at h
        · rename_i hempty
          subst hempty
          exact ⟨[], .emptyString, hnone.mp h⟩
        · cases h
      | table entries =>
        cases entries with
        | nil => exact ⟨[], .emptyTable, hnone.mp h⟩
        | cons entry rest => cases h
      | _ => cases h
  · rintro ⟨ts, hlists, hts⟩
    cases hlists with
    | array ts => exact mapM_network_eq_ok_iff.mpr ⟨ts, rfl, hts⟩
    | _ => exact hnone.mpr hts

theorem listed_eq_error_iff {networks : Option Value} : listed networks = .error fault ↔
    ∃ v, networks = some v ∧ NotListed v fault := by
  constructor
  · intro h
    rcases networks with _ | v
    · cases h
    · refine ⟨v, rfl, ?_⟩
      cases v with
      | array vs =>
        obtain ⟨ts, w, rest, rfl, hw, rfl⟩ := mapM_network_eq_error_iff.mp h
        exact .item ts rest hw
      | string text =>
        rw [listed_string] at h
        split at h
        · cases h
        · rename_i htext
          cases h
          exact .character htext
      | table entries =>
        cases entries with
        | nil => cases h
        | cons entry rest =>
          cases h
          exact .key entry rest
      | _ =>
        cases h
        exact .noElements rfl
  · rintro ⟨v, rfl, h⟩
    cases h with
    | noElements h => cases v <;> first | rfl | cases h
    | character h => rw [listed_string, if_neg h]
    | key entry rest => rfl
    | item ts rest h => exact mapM_network_eq_error_iff.mpr ⟨ts, _, rest, rfl, h, rfl⟩

/-! ## The output -/

/-- The path under the key, if there is one. -/
def outputAt (output : Option Value) : Except Fault Value := outputPath (output.getD (.table []))

theorem outputPath_of_isVoid (h : v.IsVoid) : outputPath v = .ok (.string "") :=
  if_pos (Value.isEmpty_iff.mpr h)

theorem outputPath_table (t : Table) :
    outputPath (.table t) = .ok (Table.getD t "path" (.string "")) := by
  cases t with
  | nil => rfl
  | cons entry rest => rfl

theorem outputPath_eq_error (hvoid : ¬ v.IsVoid) (hkind : v.kind ≠ .table) :
    outputPath v = .error (.notSupported v.kind .get) := by
  have hfull : ¬ v.isEmpty = true := mt Value.isEmpty_iff.mp hvoid
  cases v with
  | table t => exact absurd rfl hkind
  | _ => exact if_neg hfull

theorem outputAt_eq_ok_iff {output : Option Value} {path : Value} :
    outputAt output = .ok path ↔ Leads output path := by
  constructor
  · intro h
    rcases output with _ | v
    · cases h
      exact .missing
    · by_cases hvoid : v.IsVoid
      · rw [outputAt, Option.getD_some, outputPath_of_isVoid hvoid] at h
        cases h
        exact .void hvoid
      · by_cases hkind : v.kind = .table
        · obtain ⟨t, rfl⟩ := Value.kind_eq_table_iff.mp hkind
          rw [outputAt, Option.getD_some, outputPath_table] at h
          exact .table (gives_iff.mpr (Except.ok.inj h))
        · rw [outputAt, Option.getD_some, outputPath_eq_error hvoid hkind] at h
          cases h
  · intro h
    cases h with
    | missing => rfl
    | void hvoid => exact outputPath_of_isVoid hvoid
    | table hpath => rw [outputAt, Option.getD_some, outputPath_table, gives_iff.mp hpath]

theorem outputAt_eq_error_iff {output : Option Value} : outputAt output = .error fault ↔
    ∃ v, output = some v ∧ ¬ v.IsVoid ∧ v.kind ≠ .table ∧ fault = .notSupported v.kind .get := by
  constructor
  · intro h
    rcases output with _ | v
    · cases h
    · have hvoid : ¬ v.IsVoid := by
        intro hvoid
        rw [outputAt, Option.getD_some, outputPath_of_isVoid hvoid] at h
        cases h
      have hkind : v.kind ≠ .table := by
        intro hkind
        obtain ⟨t, rfl⟩ := Value.kind_eq_table_iff.mp hkind
        rw [outputAt, Option.getD_some, outputPath_table] at h
        cases h
      rw [outputAt, Option.getD_some, outputPath_eq_error hvoid hkind] at h
      exact ⟨v, rfl, hvoid, hkind, (Except.error.inj h).symm⟩
  · rintro ⟨v, rfl, hvoid, hkind, rfl⟩
    exact outputPath_eq_error hvoid hkind

/-! ## Documents -/

theorem ofTable_eq (d : Table) : ofTable d = do
    let networks ← listed (d.lookup "networks")
    let output ← outputAt (d.lookup "output")
    return ⟨networks, output⟩ := by
  rw [listed, bind_assoc]
  rfl

theorem ofTable_eq_ok_iff {m : Manifest} : ofTable d = .ok m ↔ Describes d m := by
  rw [ofTable_eq, bind_eq_ok_iff]
  constructor
  · rintro ⟨networks, hnetworks, h⟩
    obtain ⟨output, houtput, h⟩ := bind_eq_ok_iff.mp h
    cases h
    exact ⟨listed_eq_ok_iff.mp hnetworks, outputAt_eq_ok_iff.mp houtput⟩
  · rintro ⟨hnetworks, houtput⟩
    refine ⟨m.networks, listed_eq_ok_iff.mpr hnetworks, ?_⟩
    rw [outputAt_eq_ok_iff.mpr houtput]
    rfl

/-- Of whatever tables are listed, each tells of a network. -/
theorem exists_listed_eq_ok {networks : Option Value} {ts : List Table} (h : Lists networks ts) :
    ∃ ns, listed networks = .ok ns := by
  have htells : ∀ v ∈ ts.map Value.table, ∃ n, network v = .ok n := by
    intro v hv
    obtain ⟨t, -, rfl⟩ := List.mem_map.mp hv
    exact ⟨_, rfl⟩
  obtain ⟨ns, hns⟩ := exists_mapM_eq_ok_iff.mpr htells
  cases h with
  | array ts => exact ⟨ns, hns⟩
  | _ => exact ⟨[], rfl⟩

theorem ofTable_eq_error_iff : ofTable d = .error fault ↔ Spoils d fault := by
  rw [ofTable_eq, bind_eq_error_iff]
  constructor
  · rintro (h | ⟨networks, hnetworks, h⟩)
    · obtain ⟨v, hv, hfault⟩ := listed_eq_error_iff.mp h
      exact .networks hv hfault
    · rcases bind_eq_error_iff.mp h with h | ⟨output, -, h⟩
      · obtain ⟨ts, hts, -⟩ := listed_eq_ok_iff.mp hnetworks
        obtain ⟨v, hv, hvoid, hkind, rfl⟩ := outputAt_eq_error_iff.mp h
        exact .output hts hv hvoid hkind
      · cases h
  · intro h
    cases h with
    | networks hv hfault => exact .inl (listed_eq_error_iff.mpr ⟨_, hv, hfault⟩)
    | output hts hv hvoid hkind =>
      obtain ⟨ns, hns⟩ := exists_listed_eq_ok hts
      exact .inr ⟨ns, hns, bind_eq_error_iff.mpr
        (.inl (outputAt_eq_error_iff.mpr ⟨_, hv, hvoid, hkind, rfl⟩))⟩

theorem exists_ofTable_eq_ok_iff : (∃ m, ofTable d = .ok m) ↔ HasShape d := by
  constructor
  · rintro ⟨m, hm⟩
    obtain ⟨⟨ts, hts, -⟩, houtput⟩ := ofTable_eq_ok_iff.mp hm
    refine ⟨⟨ts, hts⟩, ?_⟩
    intro v hv
    rw [hv] at houtput
    generalize m.output = path at houtput
    cases houtput with
    | void hvoid => exact .inl hvoid
    | table => exact .inr rfl
  · rintro ⟨⟨ts, hts⟩, houtput⟩
    obtain ⟨ns, hns⟩ := exists_listed_eq_ok hts
    cases hpath : outputAt (d.lookup "output") with
    | ok path => exact ⟨⟨ns, path⟩, by rw [ofTable_eq, hns, hpath]; rfl⟩
    | error fault =>
      obtain ⟨v, hv, hvoid, hkind, -⟩ := outputAt_eq_error_iff.mp hpath
      exact absurd (houtput v hv) (not_or_intro hvoid hkind)

theorem ofTable_of_agree (h : Agree d d') : ofTable d = ofTable d' := by
  have hnetworks : listed (d.lookup "networks") = listed (d'.lookup "networks") := by
    rcases h.networks with heq | ⟨vs, vs', hvs, hvs', hagree⟩
    · rw [heq]
    · rw [hvs, hvs']
      exact mapM_network_of_agreeOn hagree
  have houtput : outputAt (d.lookup "output") = outputAt (d'.lookup "output") := by
    rcases h.output with heq | ⟨v, v', hv, hv', hagree⟩
    · rw [heq]
    · rw [hv, hv']
      cases hagree with
      | same => rfl
      | tables hpath =>
        simp only [outputAt, Option.getD_some, outputPath_table]
        exact congrArg Except.ok (getD_eq_of_lookup_eq _ (hpath "path" List.mem_cons_self))
  rw [ofTable_eq, ofTable_eq, hnetworks, houtput]

/-- **Which documents are manifests.**  A file comes to what its document comes to.  That is a
manifest exactly when the document has the shape of one, and then it is the manifest that the
document describes; or else it is the one fault that keeps the document from being a manifest, which
`networks` decides before `output` does.  Nothing else in a document makes a difference. -/
theorem ofTable_shape (d : Table) :
    (∀ bytes text, Text.Utf8.decode bytes = .ok text → Toml.parse text = .ok d →
      ofBytes bytes = ofTable d) ∧
    ((∃ m, ofTable d = .ok m) ↔ HasShape d) ∧
    (∀ m, ofTable d = .ok m ↔ Describes d m) ∧
    (∀ fault, ofTable d = .error fault ↔ Spoils d fault) ∧
    ∀ d', Agree d d' → ofTable d = ofTable d' := by
  refine ⟨?_, exists_ofTable_eq_ok_iff, fun _ => ofTable_eq_ok_iff, fun _ => ofTable_eq_error_iff,
    fun _ => ofTable_of_agree⟩
  intro bytes text htext hd
  have hdocument : document text = .ok d := by
    rw [document, hd]
    rfl
  rw [ofBytes, htext, ← ok_bind d ofTable, ← hdocument]
  rfl

/-- A document that is a manifest, though not as one is meant to be written. -/
def unusualShape : Table :=
  [("title", .string "b"), ("output", .float (.finite true 0 (-1074))),
    ("networks", .array [.table [("chain", .integer 7), ("name", .string "a")],
      .table [("url", .boolean true)]])]

/-- What a manifest takes from `unusualShape`, in another order. -/
def unusualShapeReordered : Table :=
  [("networks", .array [.table [("name", .string "a")],
      .table [("tags", .array []), ("url", .boolean true)]]),
    ("output", .float (.finite true 0 (-1074)))]

/-- The manifest that both describe. -/
def unusualShapeManifest : Manifest :=
  ⟨[⟨.string "a", .string "", .absent⟩, ⟨.string "", .boolean true, .absent⟩], .string ""⟩

/-- A document with three things wrong with it, of which the first in `networks` counts. -/
def brokenShape : Table :=
  [("output", .float .nan), ("networks", .array [.table [], .date ⟨1979, 5, 27⟩, .string "a"])]

theorem unusualShape_describes : HasShape unusualShape ∧ Agree unusualShape unusualShapeReordered ∧
    ofTable unusualShapeReordered = .ok unusualShapeManifest ∧
    ∃ fault, ofTable brokenShape = .error fault ∧
      fault.message = "'datetime.date' object has no attribute 'get'" := by
  obtain ⟨-, hshape, hok, -, hagree⟩ := ofTable_shape unusualShape
  obtain ⟨-, -, -, herror, -⟩ := ofTable_shape brokenShape
  have hdescribes : Describes unusualShape unusualShapeManifest := by
    refine ⟨⟨_, .array [_, _], .cons ?_ (.cons ?_ .nil)⟩, .void (.float true (-1074))⟩
    · exact ⟨.inl rfl, .inr ⟨rfl, rfl⟩, .inr ⟨rfl, rfl⟩⟩
    · exact ⟨.inr ⟨rfl, rfl⟩, .inl rfl, .inr ⟨rfl, rfl⟩⟩
  have hreordered : Agree unusualShape unusualShapeReordered := by
    refine ⟨.inr ⟨_, _, rfl, rfl, .cons (.tables ?_) (.cons (.tables ?_) .nil)⟩, .inl rfl⟩ <;>
      simp [networkKeys, List.lookup_cons]
  refine ⟨hshape.mp ⟨_, (hok _).mpr hdescribes⟩, hreordered, ?_, _,
    (herror _).mpr (.networks rfl (.item [[]] [.string "a"] (by decide))), by decide⟩
  rw [← hagree _ hreordered]
  exact (hok _).mpr hdescribes

end Manifest

end ProviderBindings
