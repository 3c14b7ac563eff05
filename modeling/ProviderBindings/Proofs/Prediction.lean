import ProviderBindings.Proofs.Agreement
import ProviderBindings.Proofs.InfoReader
import ProviderBindings.Proofs.QuietSessions

/-! # What is shown of a manifest, and the module

The command that shows a manifest tells beforehand what the module will say: its last lines, read
by themselves, agree with the module, read by itself, network by network (`Foretells`).  The two
are written apart, and all that they share is what the checks let through.

What it shows first, the path for the module, is no concern of the checks.  A path that is no
string is shown as any value is, and so it can hold an integer that cannot be shown: then the
module can still be printed, but the command ends before it has shown anything
(`Program.info_foretells_generate`).
-/
namespace ProviderBindings

open Session
open ProviderModule (Contents HandedOut line)

theorem Value.text_eq_ok {v : Value} (h : v.HasShortIntegers) : ∃ text, v.text = .ok text := by
  unfold text
  split
  · exact ⟨_, rfl⟩
  · exact ⟨_, rfl⟩
  · exact ⟨_, rfl⟩
  · exact ⟨_, rfl⟩
  · exact inspect_eq_ok h

theorem Value.text_eq_error {v : Value} (h : ¬ v.HasShortIntegers) :
    v.text = .error .integerTooLong := by
  cases v with
  | integer | array | table => exact inspect_eq_error h
  | _ => exact absurd (by simp [HasShortIntegers]) h

/-- An empty value holds no integer but zero. -/
theorem Value.hasShortIntegers_of_isEmpty {v : Value} (h : v.isEmpty = true) :
    v.HasShortIntegers := by
  cases v with
  | integer n =>
    have hn : n = 0 := by simpa [isEmpty] using h
    subst hn
    show IsShort 0
    decide
  | array items =>
    have hitems : items = [] := by simpa [isEmpty] using h
    simp [hitems, HasShortIntegers, HaveShortIntegers]
  | table entries =>
    have hentries : entries = [] := by simpa [isEmpty] using h
    simp [hentries, HasShortIntegers, EntriesHaveShortIntegers]
  | _ => simp [HasShortIntegers]

/-- What an output shows at its end foretells the text of a module: in the order of the networks,
each is shown by its parts, which the module then declares under the identifier shown, and hands
out under the other one. -/
def Foretells (networks : List Network) (output text : String) : Prop :=
  ∃ (blocks : List Shown) (c : Contents), Shown.readLast networks.length output = some blocks ∧
    ProviderModule.read text = some c ∧ blocks.map (fun b => b.entry.network) = networks ∧
    blocks.map Shown.declared = c.declared ∧
    blocks.map Shown.accessor = c.handedOut.map HandedOut.accessor

namespace Program

variable {m : Manifest} {findings : Findings} {files : FileTree} {settings : GenerateSettings}

/-! ## Showing -/

theorem runOn_showOutput (h : m.output.HasShortIntegers) (w : World) : ∃ path,
    runOn (showOutput m) w = (.ok (), { w with out := w.out ++ line ("Output: " ++ path) }) := by
  obtain ⟨path, hpath⟩ := Value.text_eq_ok h
  unfold showOutput
  cases m.output.isEmpty with
  | true => exact ⟨"(stdout)", by simp [line]⟩
  | false => exact ⟨path, by simp [hpath, line]⟩

theorem runOn_showOutput_of_long (h : ¬ m.output.HasShortIntegers) (w : World) :
    runOn (showOutput m) w = (.error (.fault .integerTooLong), w) := by
  have hfull : m.output.isEmpty = false :=
    Bool.eq_false_iff.mpr fun hempty => h (Value.hasShortIntegers_of_isEmpty hempty)
  unfold showOutput
  simp [hfull, Value.text_eq_error h]

theorem runOn_showNetwork {e : Entry} (h : ∀ k ∈ e.units, IsShort k) (w : World) :
    runOn (showNetwork e.network) w =
      (.ok (), { w with out := w.out ++ Shown.text [Shown.ofEntry e] }) := by
  obtain ⟨name, url, units⟩ := e
  have hprinted : runOn (showNetwork (Entry.network ⟨name, url, units⟩)) w = runOn (do
      print ("  " ++ (name ++ " (" ++ url ++ ")"))
      print (Shown.unitsLine units)
      print ("    provider:      " ++ Identifier.storage name)
      print ("    accessor:      " ++ Identifier.accessor name ++ "()")) w := by
    cases units with
    | none => rfl
    | some k =>
      have hk : (Value.integer k).text = .ok (String.ofList (Text.integer k)) := by
        show (Value.integer k).inspect = _
        rw [Value.inspect, integerText_of_isShort (h k rfl)]
      unfold showNetwork
      simp only [Entry.network, Network.isBounded, Value.isPresent, hk, attempt_ok_bind]
      rfl
  rw [hprinted]
  simp only [runOn_bind, runOn_print, Shown.text, Shown.ofEntry, Shown.lines, List.flatMap_cons,
    List.flatMap_nil, List.append_nil, List.map_cons, List.map_nil, String.join_cons,
    String.join_nil, String.append_empty, line, String.append_assoc]

theorem runOn_forM_showNetwork {es : List Entry} (h : ∀ e ∈ es, ∀ k ∈ e.units, IsShort k)
    (w : World) : runOn ((es.map Entry.network).forM showNetwork) w =
      (.ok (), { w with out := w.out ++ Shown.text (es.map Shown.ofEntry) }) := by
  induction es generalizing w with
  | nil => simp [Shown.text]
  | cons e rest ih =>
    have hrest : ∀ e' ∈ rest, ∀ k ∈ e'.units, IsShort k := fun e' he' =>
      h e' (List.mem_cons_of_mem e he')
    show runOn (showNetwork e.network >>= fun _ => (rest.map Entry.network).forM showNetwork) w = _
    rw [runOn_bind, runOn_showNetwork (h e List.mem_cons_self)]
    simp only [ih hrest]
    simp [Shown.text, String.append_assoc]

/-- Where the path for the module can be shown, the command shows it and each network. -/
theorem outcome_info {es : List Entry} (hnetworks : m.networks = es.map Entry.network)
    (hshort : ∀ e ∈ es, ∀ k ∈ e.units, IsShort k) (houtput : m.output.HasShortIntegers) :
    ∃ before, outcome (info m) files =
      ⟨.exit 0, line before ++ Shown.text (es.map Shown.ofEntry), "", files⟩ := by
  obtain ⟨path, hpath⟩ := runOn_showOutput houtput ⟨files, "", ""⟩
  refine ⟨"Output: " ++ path ++ "\n\nNetworks:", ?_⟩
  unfold outcome info
  rw [hnetworks]
  simp only [runOn_bind, hpath, runOn_print, runOn_forM_showNetwork hshort, runOn_pure, line]
  simp [String.append_assoc]

theorem outcome_info_of_long (h : ¬ m.output.HasShortIntegers) :
    outcome (info m) files = ⟨.fault .integerTooLong, "", "", files⟩ := by
  unfold outcome info
  simp only [runOn_bind, runOn_showOutput_of_long h]

/-! ## Foretelling -/

/-- **What is shown of a valid manifest foretells its module**, as it is printed under any other
options, if its bounds are within the limit on digits and the path for the module can be shown.
If that path holds an integer that cannot be shown, the command ends with this fault and has shown
nothing, though the module is printed.

A warning shows the position of a network, which has to have a text: so, for the module to be
printed, the length of the manifest has to be within the limit, as that of every list in a memory
is. -/
theorem info_foretells_generate {config : Option Options.Given} (hload : Loads config files m)
    (hchecked : Check.all m.networks = .ok findings) (hvalid : findings.isValid = true)
    (hbounds : HasShortBounds m.networks) (hstdout : settings.stdout = true) :
    let shown := outcome (answer (.run config .info)) files
    let printed := outcome (answer (.run config (.generate settings))) files
    ∃ text, ProviderModule.generate m.networks = .ok text ∧
      (IsShort m.networks.length → printed.ending = .exit 0 ∧ printed.out = text) ∧
      (m.output.HasShortIntegers →
        shown.ending = .exit 0 ∧ Foretells m.networks shown.out text) ∧
      (¬ m.output.HasShortIntegers → shown.ending = .fault .integerTooLong ∧ shown.out = "") := by
  intro shown printed
  have hshown : shown = outcome (info m) files := outcome_answer_run hload _
  have hprinted : printed = outcome (generate settings m) files := outcome_answer_run hload _
  obtain ⟨es, hnetworks, hes⟩ :=
    exists_entries ((Check.isValid_iff_acceptable hchecked).mp hvalid).fields
  have hunits : ∀ e ∈ es, ∀ k ∈ e.units, IsShort k := by
    intro e he k hk
    refine hbounds e.network (hnetworks ▸ List.mem_map_of_mem he) k ?_
    rw [Entry.network, hk]
  have htext : ProviderModule.generate m.networks = .ok (ProviderModule.contents es).text := by
    rw [hnetworks]
    exact ProviderModule.generate_entries hunits
  refine ⟨_, htext, ?_, ?_, ?_⟩
  · intro hcount
    obtain ⟨err, hrun⟩ : ∃ err, outcome (generate settings m) files = _ :=
      outcome_print hstdout hchecked hvalid (Check.isShort_index hchecked hcount)
    rw [hprinted, hrun, htext]
    exact ⟨rfl, rfl⟩
  · intro houtput
    obtain ⟨before, hrun⟩ : ∃ before, shown = ⟨.exit 0, line before ++ _, "", files⟩ :=
      hshown ▸ outcome_info hnetworks hunits houtput
    have hlegible : ∀ s ∈ es.map Shown.ofEntry, s.Legible := by
      intro s hs
      obtain ⟨e, he, rfl⟩ := List.mem_map.mp hs
      exact Shown.legible_ofEntry (hes e he)
    have hread := Shown.readLast_append hlegible before
    rw [hrun]
    refine ⟨rfl, es.map Shown.ofEntry, ProviderModule.contents es, ?_,
      (ProviderModule.legible_contents hes).read_text, ?_, ?_, ?_⟩
    · rw [← hread, hnetworks, List.length_map, List.length_map]
    · rw [List.map_map, hnetworks]
      rfl
    · rw [List.map_map]
      rfl
    · rw [List.map_map, ProviderModule.contents, List.map_map]
      rfl
  · intro hlong
    rw [hshown, outcome_info_of_long hlong]
    exact ⟨rfl, rfl⟩

/-- A manifest with one address for two networks, as it is written. -/
def sharedUrlText : String :=
  "[output]\npath = \"a\\nb\"\n\n[[networks]]\nname = \"Ebb\"\nurl = \"http://£ (1)\"\n" ++
    "compute_units_per_second = 330\n\n[[networks]]\nname = \"ﬂow\"\nurl = \"http://£ (1)\"\n"

/-- The networks of `sharedUrlText`. -/
def sharedUrlEntries : List Entry :=
  [⟨"Ebb", "http://£ (1)", some 330⟩, ⟨"ﬂow", "http://£ (1)", none⟩]

/-- The manifest that `sharedUrlText` is.  The path for the module has two lines. -/
def sharedUrl : Manifest := ⟨sharedUrlEntries.map Entry.network, .string "a\nb"⟩

/-- The manifest alone in the working directory. -/
def sharedUrlFiles : FileTree :=
  ⟨[(["netbindgen.toml"], .file (Text.Utf8.encode sharedUrlText.toList))]⟩

/-- What the checks find in the manifest: an address that is used twice, which is no error. -/
def sharedUrlWarning : Violation :=
  ⟨.warning, Code.duplicateUrl, "Url 'http://£ (1)' is also used by networks[0]", 1, "ﬂow", "url"⟩

theorem loads_sharedUrl : Loads none sharedUrlFiles sharedUrl :=
  @loads_of_entries none sharedUrlFiles "a\nb" sharedUrlEntries (by decide +kernel)

theorem sharedUrl_foretells : Loads none sharedUrlFiles sharedUrl ∧
    Check.all sharedUrl.networks = .ok [sharedUrlWarning] ∧
    Findings.isValid [sharedUrlWarning] = true ∧ HasShortBounds sharedUrl.networks ∧
    IsShort sharedUrl.networks.length ∧ sharedUrl.output.HasShortIntegers ∧
    let shown := outcome (answer (.run none .info)) sharedUrlFiles
    let printed := outcome (answer (.run none (.generate printing))) sharedUrlFiles
    shown.ending = .exit 0 ∧ printed.ending = .exit 0 ∧
      Foretells sharedUrl.networks shown.out printed.out := by
  have hchecked : Check.all sharedUrl.networks = .ok [sharedUrlWarning] :=
    Attempt.eq_ok_of_toOption (by decide +kernel)
  have hvalid : Findings.isValid [sharedUrlWarning] = true := rfl
  have hbounds : HasShortBounds sharedUrl.networks := by
    have h : IsShort 330 := by decide
    simp [HasShortBounds, sharedUrl, sharedUrlEntries, Entry.network, h]
  have hcount : IsShort sharedUrl.networks.length := by decide
  have houtput : sharedUrl.output.HasShortIntegers := by simp [sharedUrl, Value.HasShortIntegers]
  obtain ⟨text, -, hprinted, hshown, -⟩ := @info_foretells_generate sharedUrl [sharedUrlWarning]
    sharedUrlFiles printing none loads_sharedUrl hchecked hvalid hbounds rfl
  obtain ⟨hexit, hout⟩ := hprinted hcount
  obtain ⟨hending, hforetells⟩ := hshown houtput
  refine ⟨loads_sharedUrl, hchecked, hvalid, hbounds, hcount, houtput, hending, hexit, ?_⟩
  rw [hout]
  exact hforetells

/-- A manifest whose path for the module is an integer with too many digits. -/
def unshowablePath : Manifest :=
  ⟨[⟨.string "eth", .string "https://e/rpc", .absent⟩], .integer Check.leastLongInteger⟩

/-- Of a valid manifest whose module is printed nothing need be shown. -/
theorem unshowablePath_not_foretold : Check.all unshowablePath.networks = .ok [] ∧
    Findings.isValid [] = true ∧ HasShortBounds unshowablePath.networks ∧
    let shown := outcome (perform unshowablePath .info) ⟨[]⟩
    let printed := outcome (perform unshowablePath (.generate printing)) ⟨[]⟩
    printed.ending = .exit 0 ∧ shown.ending = .fault .integerTooLong ∧
      ¬ Foretells unshowablePath.networks shown.out printed.out := by
  have hlong : ¬ unshowablePath.output.HasShortIntegers := by
    rw [unshowablePath, Value.HasShortIntegers]
    exact Check.not_isShort_leastLongInteger
  have hshown : outcome (perform unshowablePath .info) ⟨[]⟩ = _ := outcome_info_of_long hlong
  refine ⟨Attempt.eq_ok_of_toOption (by decide +kernel), rfl, ?_, ?_, ?_, ?_⟩
  · simp [HasShortBounds, unshowablePath]
  · decide +kernel
  · rw [hshown]
  · rw [hshown]
    rintro ⟨blocks, c, hread, -⟩
    rw [show Shown.readLast unshowablePath.networks.length "" = none from rfl] at hread
    cases hread

end Program

end ProviderBindings
