import ProviderBindings.Proofs.RaisedFaults

/-! # Nothing is derived from a name that is no string

Identifiers are derived from names in four places: in the check of a name, in the check for
repeated names, where a network is shown, and by the generator.  The first three look at the name
before, each in its own way; written so that they derive from the value itself, they do the same
(`Network.DerivesFromStrings`).  The generator does not look.  What keeps it from a name that is no
string are the codes of the checks, which are exact (`Program.unrenderable_gate`): a run never ends
with the fault of such a derivation, and a run that emits a module has only strings for names and
addresses in it, forced or not.  The one limit on what can be shown is that on the digits of an
integer; there is none on the depth of a `Value`.
-/
namespace ProviderBindings

open Attempt

/-! ## The places of derivation -/

namespace Identifier

/-- The identifier of a provider, derived from a name as a manifest holds it. -/
def deriveStorage (name : Value) : Except Fault String := return storage (← nameText name)

/-- The identifier of an accessor, derived from a name as a manifest holds it. -/
def deriveAccessor (name : Value) : Except Fault String := return accessor (← nameText name)

@[simp] theorem deriveStorage_string (name : String) :
    deriveStorage (.string name) = .ok (storage name) := rfl

/-- A value that is no string derives nothing, and this has a fault of its own. -/
theorem nameText_fails_iff {name : Value} :
    (∃ kind, nameText name = .error (.notSupported kind .upper)) ↔ name.string? = none := by
  cases name <;> simp [nameText, Value.string?]

end Identifier

/-- The check of a name, by an identifier that is derived from the value itself. -/
def Network.deriveFindingsOnName (n : Network) (index : Nat) : Except Fault Findings := do
  let error := n.violation index .error
  if n.name.string?.isNone then
    return [error Code.invalidName .name ("Name must be a string, got " ++ (← n.name.inspect))]
  else if n.name.isEmpty then
    return [error Code.missingName .name ("No network name (url=" ++ (← n.url.inspect) ++ ")")]
  else
    let key ← Identifier.deriveStorage n.name
    if Identifier.isLine key then return []
    else
      return [error Code.invalidIdentifier .name
        (s!"Name {← n.name.inspect} derives {Text.quoted key}, " ++
          "which is not a valid identifier")]

/-- The check for a repeated name, by an identifier that is derived from the value itself. -/
def Check.deriveRepeatedName (seen : List (String × Nat × String)) (n : Network) (index : Nat) :
    Except Fault (Findings × List (String × Nat × String)) := do
  if n.nameOrEmpty = "" then return ([], seen)
  else
    let key ← Identifier.deriveStorage n.name
    match seen.lookup key with
    | some (first, firstName) =>
      return ([n.violation index .error Code.duplicateName .name
        s!"Name collides with {Text.quoted firstName} at networks[{first}] (both derive {key})"],
        seen)
    | none => return ([], (key, index, n.nameOrEmpty) :: seen)

open Session in
/-- Shows a network with identifiers that are derived from the value itself. -/
def Program.deriveShowNetwork (n : Network) : Session Unit := do
  print ("  " ++ (← attempt n.text))
  if n.isBounded then
    print ("    compute units: " ++ (← attempt n.computeUnits.text) ++ "/s")
  else print "    compute units: client default"
  if n.name.string?.isNone then print "    provider:      (name is not a string)"
  else
    print ("    provider:      " ++ (← attempt (Identifier.deriveStorage n.name)))
    print ("    accessor:      " ++ (← attempt (Identifier.deriveAccessor n.name)) ++ "()")

theorem Network.findingsOnName_eq_derive (n : Network) (index : Nat) :
    n.findingsOnName index = n.deriveFindingsOnName index := by
  unfold findingsOnName deriveFindingsOnName
  cases hname : n.name with
  | string name =>
    by_cases hempty : name = ""
    · simp [hempty, Value.isEmpty]
    · have hfull : (Value.string name).isEmpty = false := beq_eq_false_iff_ne.mpr hempty
      simp only [if_neg hempty, Value.string?_string, Option.isNone_some, hfull,
        Bool.false_eq_true, if_false, Identifier.deriveStorage_string, ok_bind]
      rfl
  | _ => simp [Value.string?]

/-- A name that is not taken for an empty one is a string. -/
theorem Network.name_eq_of_nameOrEmpty_ne {n : Network} (h : n.nameOrEmpty ≠ "") :
    n.name = .string n.nameOrEmpty := by
  unfold nameOrEmpty at h ⊢
  cases hname : n.name with
  | string name => rfl
  | _ => exact absurd (by simp [hname, Value.string?]) h

theorem Check.deriveRepeatedName_eq (seen : List (String × Nat × String)) (n : Network)
    (index : Nat) : deriveRepeatedName seen n index = .ok (repeatedName seen n index) := by
  unfold deriveRepeatedName repeatedName
  by_cases hempty : n.nameOrEmpty = ""
  · rw [if_pos hempty, if_pos hempty]
    rfl
  · rw [if_neg hempty, if_neg hempty, Network.name_eq_of_nameOrEmpty_ne hempty,
      Identifier.deriveStorage_string, ok_bind]
    cases seen.lookup (Identifier.storage n.nameOrEmpty) <;> rfl

theorem Program.showNetwork_eq_derive (n : Network) : showNetwork n = deriveShowNetwork n := by
  unfold showNetwork deriveShowNetwork
  cases n.name <;> rfl

/-- All that is derived from the name of a network, outside of the generator, is derived from a
string: to derive it from the value itself would be the same. -/
structure Network.DerivesFromStrings (n : Network) : Prop where
  checked : ∀ index, n.findingsOnName index = n.deriveFindingsOnName index
  compared : ∀ seen index,
    Check.deriveRepeatedName seen n index = .ok (Check.repeatedName seen n index)
  shown : Program.showNetwork n = Program.deriveShowNetwork n

theorem Network.derivesFromStrings (n : Network) : n.DerivesFromStrings :=
  ⟨n.findingsOnName_eq_derive, fun seen index => Check.deriveRepeatedName_eq seen n index,
    Program.showNetwork_eq_derive n⟩

/-! ## What is emitted -/

namespace Program

open Session

variable {m : Manifest} {files : FileTree}

/-- What is left of a module after a run: the text is all that is on the standard output, or the
files are what saving it has made of them, and at most the line that says so is on the output. -/
def Leaves (files : FileTree) (count : Nat) (place : Option Value) (text : String)
    (o : Outcome) : Prop :=
  (o.out = text ∧ o.files = files) ∨ ∃ path, place = some (.string path) ∧
    o.files = (files.save (.ofString path) (Text.Utf8.encode text.toList)).1 ∧
      (o.out = "" ∨ o.out = receipt path count text)

/-- After messages nothing is written but the module. -/
theorem leaves_of_emit {notices : Session Unit} (h : Mute notices) (place : Option Value)
    (text : String) :
    let o := outcome (do notices; emit m place text; return 0) files
    (o.out = "" ∧ o.files = files) ∨ Leaves files m.networks.length place text o := by
  have hout := h.out_eq ⟨files, "", ""⟩
  have hfiles := h.quiet.files_eq ⟨files, "", ""⟩
  unfold outcome
  rw [runOn_bind]
  cases hrun : runOn notices ⟨files, "", ""⟩ with
  | mk result w =>
    obtain ⟨current, out, err⟩ := w
    rw [hrun] at hout hfiles
    obtain rfl : out = "" := hout
    obtain rfl : current = files := hfiles
    cases result with
    | error ending => exact .inl ⟨rfl, rfl⟩
    | ok _ =>
      cases place with
      | none => exact .inr (.inl ⟨String.empty_append, rfl⟩)
      | some v =>
        cases v with
        | string path =>
          refine .inr (.inr ⟨path, rfl, ?_⟩)
          simp only [emit, pathOf, runOn_bind, runOn_attempt_ok, runOn_save]
          cases current.save (.ofString path) (Text.Utf8.encode text.toList) with
          | mk saved result =>
            cases result with
            | error fault => exact ⟨rfl, .inl rfl⟩
            | ok _ => exact ⟨rfl, .inr String.empty_append⟩
        | _ => exact .inl ⟨rfl, rfl⟩

end Program

namespace ProviderModule

/-- Whether a network is declared under its name and with its address, both of which are
strings. -/
def Declares (n : Network) : Prop := ∃ name url units, n.name = .string name ∧
  n.url = .string url ∧ declaration n = .ok (declarationOf (Identifier.storage name) url units)

theorem declares_of_generate {networks : List Network} {text : String}
    (h : generate networks = .ok text) (hurls : ∀ n ∈ networks, ∃ url, n.url = .string url) :
    ∀ n ∈ networks, Declares n := by
  obtain ⟨declarations, accessors, hrendered, -⟩ := generate_eq_ok_iff.mp h
  intro n hn
  obtain ⟨d, hd⟩ := exists_of_mapM_eq_ok hrendered.declared n hn
  obtain ⟨name, shown, units, hname, hshown, -, rfl⟩ := declaration_eq_ok_iff.mp hd
  obtain ⟨url, hurl⟩ := hurls n hn
  rw [hurl, Value.text_string] at hshown
  obtain rfl : url = shown := Except.ok.inj hshown
  exact ⟨name, url, units, hname, hurl, hd⟩

end ProviderModule

/-! ## The gate -/

namespace Program

open Session

variable {m : Manifest} {networks : List Network}

/-- The command that writes the module leaves nothing of one, or the networks are declared in it
with strings for names and addresses. -/
theorem declares_or_empty (settings : GenerateSettings) (m : Manifest) (files : FileTree) :
    let o := outcome (generate settings m) files
    (o.out = "" ∧ o.files = files) ∨ ∃ text, ProviderModule.generate m.networks = .ok text ∧
      (∀ n ∈ m.networks, ProviderModule.Declares n) ∧
        Leaves files m.networks.length (destination? settings m) text o := by
  rcases mute_or_emits settings m with
    hmute | ⟨findings, text, hchecked, hpermission, htext, notices, hnotices, heq⟩
  · exact .inl ⟨hmute.outcome_out files, hmute.quiet.outcome_files files⟩
  · rw [heq]
    rcases leaves_of_emit hnotices (destination? settings m) text with hnothing | hleaves
    · exact .inl hnothing
    · exact .inr ⟨text, htext, ProviderModule.declares_of_generate htext fun n hn =>
        (strings_of_permission hchecked hpermission n hn).2, hleaves⟩

/-- **The gate before the generator is exact.**  Take networks with any values in which all
integers can be shown.  They are checked to the end; the generator fails on them exactly if some
name is no string, and exactly then the name has its code among what is found; and so it is with
addresses and theirs.

A value that is no string has a fault of its own where an identifier is derived from it.  What is
derived in the checks and where networks are shown has none, and neither has any run, under all
arguments and with all files.  And whatever a run leaves of the module of these networks, forced or
not, each of them is declared in it with a string for its name and its address. -/
theorem unrenderable_gate (hshort : ∀ n ∈ networks, n.HasShortIntegers) :
    (∃ findings, Check.all networks = .ok findings ∧
      ((∃ fault, ProviderModule.generate networks = .error fault) ↔
        ∃ n ∈ networks, n.name.string? = none) ∧
      ((∃ n ∈ networks, n.name.string? = none) ↔ Code.invalidName ∈ findings.codes) ∧
      ((∃ n ∈ networks, n.url.string? = none) ↔ Code.invalidUrl ∈ findings.codes)) ∧
    ((∀ name : Value, (∃ kind, Identifier.nameText name = .error (.notSupported kind .upper)) ↔
        name.string? = none) ∧
      (∀ n ∈ networks, n.DerivesFromStrings) ∧
      ∀ args files kind, (run args files).ending ≠ .fault (.notSupported kind .upper)) ∧
    ∀ config files m settings, Loads config files m → m.networks = networks →
      let o := outcome (answer (.run config (.generate settings))) files
      (o.out = "" ∧ o.files = files) ∨ ∃ text, ProviderModule.generate networks = .ok text ∧
        (∀ n ∈ networks, ProviderModule.Declares n) ∧
          Leaves files networks.length (destination? settings m) text o := by
  refine ⟨?_, ⟨fun _ => Identifier.nameText_fails_iff, fun n _ => n.derivesFromStrings, ?_⟩, ?_⟩
  · obtain ⟨findings, hchecked⟩ := Check.all_eq_ok fun n hn => (hshort n hn).isCheckable
    exact ⟨findings, hchecked, ProviderModule.generate_fails_iff hshort,
      (Check.invalidName_mem_codes_iff hchecked).symm,
      (Check.invalidUrl_mem_codes_iff hchecked).symm⟩
  · intro args files kind h
    exact Bool.false_ne_true (endsRuns_of_run h)
  · rintro config files m settings hload rfl o
    have ho : o = outcome (generate settings m) files := outcome_answer_run hload _
    rw [ho]
    exact declares_or_empty settings m files

/-- Networks with a name and an address that are no strings. -/
def mistyped : List Network :=
  [⟨.boolean true, .string "£", .absent⟩, ⟨.string "eth", .array [.string "£"], .absent⟩]

/-- The gate is closed for one list of networks.  It is open for another, though this has an error,
to a command that is forced. -/
theorem mistyped_gate : (∀ n ∈ mistyped, n.HasShortIntegers) ∧
    (∃ findings, Check.all mistyped = .ok findings ∧
      (∃ fault, ProviderModule.generate mistyped = .error fault) ∧
      Code.invalidName ∈ findings.codes ∧ Code.invalidUrl ∈ findings.codes) ∧
    (∀ n ∈ badName.networks, n.HasShortIntegers) ∧ Loads none badNameFiles badName ∧
    let o := outcome (answer (.run none (.generate ⟨none, true, true⟩))) badNameFiles
    o.out ≠ "" ∧ ∃ text, ProviderModule.generate badName.networks = .ok text ∧
      (∀ n ∈ badName.networks, ProviderModule.Declares n) ∧
        Leaves badNameFiles 1 (destination? ⟨none, true, true⟩ badName) text o := by
  have hmistyped : ∀ n ∈ mistyped, n.HasShortIntegers := by
    simp [mistyped, Network.HasShortIntegers, Network.values, Value.HasShortIntegers,
      Value.HaveShortIntegers]
  have hbadName : ∀ n ∈ badName.networks, n.HasShortIntegers := by
    simp [badName, Network.HasShortIntegers, Network.values, Value.HasShortIntegers]
  obtain ⟨⟨findings, hchecked, hfails, hname, hurl⟩, -⟩ := unrenderable_gate hmistyped
  have hnone : ∃ n ∈ mistyped, n.name.string? = none := ⟨_, List.mem_cons_self, rfl⟩
  have hurls : ∃ n ∈ mistyped, n.url.string? = none :=
    ⟨_, List.mem_cons_of_mem _ (List.mem_singleton_self _), rfl⟩
  have hemitted :
      (outcome (answer (.run none (.generate ⟨none, true, true⟩))) badNameFiles).out ≠ "" := by
    obtain ⟨report, hreport⟩ := Check.report_eq_ok all_badName (by decide)
    obtain ⟨text, htext⟩ : ∃ text, ProviderModule.generate badName.networks = .ok text :=
      ⟨(ProviderModule.generate badName.networks).toOption.getD "", rfl⟩
    have hprinted : ∀ path, chosenFile? ⟨none, true, true⟩ "gen/providers.rs" = some path →
        CanSave badNameFiles path text := by
      rintro path ⟨⟩
    obtain ⟨-, hdelivers⟩ := @delivers_of_permission ⟨none, true, true⟩ badName _ badNameFiles _
      report text [] rfl all_badName hreport rfl rfl htext hprinted
    rw [outcome_answer_run loads_badName]
    exact fun hempty => generate_ne_empty htext (hdelivers.1.symm.trans hempty)
  refine ⟨hmistyped, ⟨findings, hchecked, hfails.mpr hnone, hname.mp hnone, hurl.mp hurls⟩,
    hbadName, loads_badName, hemitted, ?_⟩
  rcases (unrenderable_gate hbadName).2.2 none badNameFiles badName ⟨none, true, true⟩
    loads_badName rfl with hnothing | hemits
  · exact absurd hnothing.1 hemitted
  · exact hemits

end Program

end ProviderBindings
