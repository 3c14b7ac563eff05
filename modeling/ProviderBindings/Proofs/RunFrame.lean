import ProviderBindings.Proofs.Emission
import ProviderBindings.Proofs.QuietSessions

/-! # What a run changes, and running again

A run changes no file unless it comes to write the module to one (`Program.ComesToWrite`), and
then it changes that file and makes directories on the way to it, however it ends.  All that a
run takes from the files is the manifest.  So if the module is not written over the manifest,
a run that has ended well comes to the same when it is repeated: it reads the same manifest,
says the same, and saves what is there already (`Program.run_frame`).
-/
namespace ProviderBindings.Program

open Session

variable {settings : GenerateSettings} {m : Manifest} {config : Option Options.Given}
  {files : FileTree}

/-! ## Reading the manifest -/

/-- A manifest is read from the bytes of one file. -/
theorem loads_iff : Loads config files m ↔ ∃ path bytes, manifestPath config = .ok path ∧
    files.read (.ofString path) = .ok bytes ∧ Manifest.ofBytes bytes = .ok m := by
  rw [loads_iff_manifestAt, manifestAt, Attempt.bind_eq_ok_iff]
  constructor
  · rintro ⟨path, hpath, h⟩
    obtain ⟨bytes, hread, hbytes⟩ := Attempt.bind_eq_ok_iff.mp h
    exact ⟨path, bytes, hpath, hread, hbytes⟩
  · rintro ⟨path, bytes, hpath, hread, hbytes⟩
    exact ⟨path, hpath, Attempt.bind_eq_ok_iff.mpr ⟨bytes, hread, hbytes⟩⟩

/-! ## Writing the module -/

/-- The path that the manifest gives, which is empty if it gives none. -/
def configuredPath (m : Manifest) : String := m.output.string?.getD ""

theorem outputOf_eq (settings : GenerateSettings) (m : Manifest) : outputOf settings m =
    if optionPath settings = "" then m.output else .string (optionPath settings) := by
  unfold outputOf optionPath
  rcases settings.output with _ | path | _
  · rfl
  · by_cases hpath : path = "" <;> simp [valueOf, Value.isEmpty, hpath]
  · rfl

/-- The module goes to the file that is chosen, if it goes to one. -/
theorem destination?_eq_some_iff {path : String} : destination? settings m = some (.string path) ↔
    chosenFile? settings (configuredPath m) = some path := by
  unfold destination? chosenFile? configuredPath
  rw [outputOf_eq]
  cases settings.stdout with
  | true => simp
  | false =>
    by_cases hoption : optionPath settings = ""
    · cases houtput : m.output with
      | string configured =>
        by_cases hconfigured : configured = "" <;> simp [hoption, hconfigured, Value.isEmpty]
      | _ => simp [hoption, Value.string?]
    · simp [hoption, Value.isEmpty]

/-- The run with the given arguments comes to write a text to the file at a path: it is to write
the module, and not to print it; the manifest can be read and checked; what was found permits
the module, of which the text is that; and the file is the one that is chosen. -/
def ComesToWrite (args : List String) (files : FileTree) (path text : String) : Prop :=
  ∃ config settings m findings, Request.ofArgs args = .run config (.generate settings) ∧
    settings.stdout = false ∧ Loads config files m ∧ Check.all m.networks = .ok findings ∧
    Permits settings.force findings ∧ ProviderModule.generate m.networks = .ok text ∧
    chosenFile? settings (configuredPath m) = some path

/-- The file to which the run with the given arguments comes to write, if it does, is not the
manifest. -/
def SparesManifest (args : List String) (files : FileTree) : Prop :=
  ∀ config command manifest path text, Request.ofArgs args = .run config command →
    manifestPath config = .ok manifest → ComesToWrite args files path text →
      (Path.ofString path).place ≠ (Path.ofString manifest).place

section

variable {notices : Session Unit} {path text : String}

/-- What a run that comes to write comes to: it ends with its notices, or it saves the module and
says so, unless that cannot be done. -/
theorem outcome_emits (notices : Session Unit) (m : Manifest) (path text : String)
    (files : FileTree) :
    outcome (do notices; emit m (some (.string path)) text; return 0) files =
      match runOn notices ⟨files, "", ""⟩ with
      | (.error ending, w) => ⟨ending, w.out, w.err, w.files⟩
      | (.ok _, w) =>
        match w.files.save (.ofString path) (Text.Utf8.encode text.toList) with
        | (files, .ok _) => ⟨.exit 0, w.out ++ receipt path m.networks.length text, w.err, files⟩
        | (files, .error fault) => ⟨.fault fault, w.out, w.err, files⟩ := by
  unfold outcome
  rw [runOn_bind]
  rcases runOn notices ⟨files, "", ""⟩ with ⟨_ | _, w⟩
  · rfl
  · simp only [emit, pathOf, runOn_bind, runOn_attempt_ok, runOn_save]
    rcases w.files.save (.ofString path) (Text.Utf8.encode text.toList) with ⟨saved, _ | _⟩ <;> rfl

theorem touches_of_emits (hquiet : Quiet notices) (files : FileTree) :
    FileTree.Touches (.ofString path) (Text.Utf8.encode text.toList) files
      (outcome (do notices; emit m (some (.string path)) text; return 0) files).files := by
  rw [outcome_emits]
  have hfiles := hquiet.files_eq ⟨files, "", ""⟩
  rcases hrun : runOn notices ⟨files, "", ""⟩ with ⟨_ | _, w⟩
  · rw [hrun] at hfiles
    dsimp only at hfiles ⊢
    rw [hfiles]
    exact .refl
  · rw [hrun] at hfiles
    dsimp only at hfiles ⊢
    rw [hfiles]
    have htouches := files.touches_save (.ofString path) (Text.Utf8.encode text.toList)
    rcases hsave : files.save (.ofString path) (Text.Utf8.encode text.toList) with ⟨saved, _ | _⟩
    · rw [hsave] at htouches
      exact htouches
    · rw [hsave] at htouches
      exact htouches

/-- A run that has saved the module finds it saved the next time. -/
theorem outcome_emits_again (hquiet : Quiet notices) {o : Outcome}
    (ho : outcome (do notices; emit m (some (.string path)) text; return 0) files = o)
    (hexit : o.ending = .exit 0) :
    outcome (do notices; emit m (some (.string path)) text; return 0) o.files = o := by
  rw [outcome_emits] at ho ⊢
  have hagain := hquiet ⟨files, "", ""⟩ o.files
  have hfiles := hquiet.files_eq ⟨files, "", ""⟩
  rcases hrun : runOn notices ⟨files, "", ""⟩ with ⟨_ | _, w⟩
  · -- a run that ends before the module is saved says the same on any files
    rw [hrun] at ho hagain
    rw [show runOn notices ⟨o.files, "", ""⟩ = _ from hagain]
    subst ho
    rfl
  · rw [hrun] at ho hagain
    rw [show runOn notices ⟨o.files, "", ""⟩ = _ from hagain]
    rcases hsave : w.files.save (.ofString path) (Text.Utf8.encode text.toList) with ⟨saved, _ | _⟩
    · simp only [hsave] at ho
      subst ho
      cases hexit
    · simp only [hsave] at ho
      subst ho
      simp only [FileTree.save_save hsave]

end

/-! ## The run -/

/-- A run leaves the files as they are, or it comes to write, and then all that it does between
reading the manifest and saving the module leaves the files alone. -/
theorem files_eq_or_emits (args : List String) (files : FileTree) :
    (run args files).files = files ∨ ∃ config settings m path text notices,
      Request.ofArgs args = .run config (.generate settings) ∧ Loads config files m ∧
      ComesToWrite args files path text ∧ Quiet notices ∧
      generate settings m = (do notices; emit m (some (.string path)) text; return 0) := by
  cases hargs : Request.ofArgs args with
  | help usage =>
    rw [run, hargs]
    exact .inl (((Quiet.write _).bind fun _ => .pure 0).outcome_files files)
  | misuse usage problem =>
    rw [run, hargs]
    exact .inl (((Quiet.writeError _).bind fun _ => .pure 2).outcome_files files)
  | run config command =>
    cases hread : manifestAt config files with
    | error fault =>
      rw [run_eq_stopped hread hargs]
      exact .inl files_stopped
    | ok m =>
      have hloads : Loads config files m := loads_iff_manifestAt.mpr hread
      rw [run_eq hargs hloads]
      cases command with
      | validate => exact .inl ((quiet_validate m).outcome_files files)
      | info => exact .inl ((quiet_info m).outcome_files files)
      | generate settings =>
        rcases quiet_or_emits settings m with hquiet | ⟨findings, text, path, hchecked, hrefusal,
          htext, hpath, notices, hnotices, hgenerate⟩
        · exact .inl (hquiet.outcome_files files)
        · have hchosen := destination?_eq_some_iff.mp hpath
          have hstdout : settings.stdout = false := by
            unfold chosenFile? at hchosen
            split at hchosen
            · cases hchosen
            · rename_i hstdout
              exact Bool.eq_false_iff.mpr hstdout
          have hwrite : ComesToWrite args files path text := ⟨config, settings, m, findings, hargs,
            hstdout, hloads, hchecked, (refusal?_eq_none_iff _ _).mp hrefusal, htext, hchosen⟩
          exact .inr ⟨config, settings, m, path, text, notices, rfl, hloads, hwrite, hnotices,
            hgenerate⟩

/-- A run comes to write one text to one file. -/
theorem ComesToWrite.unique {args : List String} {path path' text text' : String}
    (h : ComesToWrite args files path text) (h' : ComesToWrite args files path' text') :
    path = path' ∧ text = text' := by
  obtain ⟨config, settings, m, findings, hargs, -, hloads, -, -, htext, hpath⟩ := h
  obtain ⟨config', settings', m', findings', hargs', -, hloads', -, -, htext', hpath'⟩ := h'
  obtain ⟨rfl, rfl⟩ : config = config' ∧ settings = settings' := by
    simpa using hargs.symm.trans hargs'
  obtain rfl : m = m' := Except.ok.inj (hloads.symm.trans hloads')
  exact ⟨Option.some.inj (hpath.symm.trans hpath'), Except.ok.inj (htext.symm.trans htext')⟩

/-- A run that has ended well, and has not written over the manifest, comes to the same again. -/
theorem run_again {args : List String} (hexit : (run args files).ending = .exit 0)
    (hspares : SparesManifest args files) :
    run args (run args files).files = run args files := by
  rcases files_eq_or_emits args files with
    hfiles | ⟨config, settings, m, path, text, notices, hargs, hloads, hwrite, hquiet, hgenerate⟩
  · rw [hfiles]
  · have hrun : ∀ tree, Loads config tree m → run args tree =
        outcome (do notices; emit m (some (.string path)) text; return 0) tree := by
      intro tree htree
      rw [run, hargs, outcome_answer_run htree, perform, hgenerate]
    have hfirst := hrun files hloads
    have htouches : FileTree.Touches (.ofString path) (Text.Utf8.encode text.toList) files
        (run args files).files := by
      rw [hfirst]
      exact touches_of_emits hquiet files
    -- the manifest is in another place than the module, so it is read as before
    have hreloads : Loads config (run args files).files m := by
      obtain ⟨manifest, bytes, hmanifest, hread, hbytes⟩ := loads_iff.mp hloads
      refine loads_iff.mpr ⟨manifest, bytes, hmanifest, ?_, hbytes⟩
      apply FileTree.read_of_touches htouches ?_ hread
      exact (hspares config _ manifest path text hargs hmanifest hwrite).symm
    rw [hrun _ hreloads]
    exact outcome_emits_again hquiet hfirst.symm hexit

/-- **What a run changes.** A run with any arguments, on any files, changes nothing unless it comes
to write the module; and if it does, then however it ends, it has changed at most the chosen
file, which holds the module, and made directories at beginnings of the path, so that every file
that can be read in another place can still be read, with its content.  A run that ends well and
does not write over the manifest, comes to the same if it is repeated, files included. -/
theorem run_frame (args : List String) (files : FileTree) :
    ((∀ path text, ¬ ComesToWrite args files path text) → (run args files).files = files) ∧
    (∀ path text, ComesToWrite args files path text →
      FileTree.Touches (.ofString path) (Text.Utf8.encode text.toList) files
        (run args files).files ∧
      ∀ (other : Path) (content : List UInt8), other.place ≠ (Path.ofString path).place →
        files.read other = .ok content → (run args files).files.read other = .ok content) ∧
    ((run args files).ending = .exit 0 → SparesManifest args files →
      run args (run args files).files = run args files) := by
  have hemits := files_eq_or_emits args files
  refine ⟨?_, ?_, run_again⟩
  · intro hnever
    rcases hemits with hfiles | ⟨-, -, -, path, text, -, -, -, hwrite, -⟩
    · exact hfiles
    · exact absurd hwrite (hnever path text)
  · intro path text hwrite
    have htouches : FileTree.Touches (.ofString path) (Text.Utf8.encode text.toList) files
        (run args files).files := by
      rcases hemits with hfiles | ⟨config, settings, m, path', text', notices, hargs, hloads,
        hwrite', hquiet, hgenerate⟩
      · rw [hfiles]
        exact .refl
      · obtain ⟨rfl, rfl⟩ := hwrite.unique hwrite'
        rw [run, hargs, outcome_answer_run hloads, perform, hgenerate]
        exact touches_of_emits hquiet files
    exact ⟨htouches, fun other content hplace hread =>
      FileTree.read_of_touches htouches hplace hread⟩

/-- A manifest, as it is written, whose output path leads through a directory that is not there. -/
def detourText : String :=
  "[output]\npath = \"new/../gen/networks.rs\"\n\n[[networks]]\nname = \"base\"\nurl = \"£\"\n"

/-- The manifest that `detourText` is. -/
def detour : Manifest :=
  ⟨[⟨.string "base", .string "£", .absent⟩], .string "new/../gen/networks.rs"⟩

/-- The manifest, a module that was written before, and another file. -/
def detourFiles : FileTree :=
  ⟨[(["netbindgen.toml"], .file (Text.Utf8.encode detourText.toList)), (["gen"], .directory),
    (["gen", "networks.rs"], .file [0x3f]), (["notes"], .file [0x21])]⟩

theorem loads_detour : Loads none detourFiles detour :=
  @loads_of_entries none detourFiles "new/../gen/networks.rs" [⟨"base", "£", none⟩]
    (by decide +kernel)

/-- The module replaces the old one, and a directory is made that is not needed afterwards. -/
theorem detour_frame :
    let o := run ["generate"] detourFiles
    o.ending = .exit 0 ∧ SparesManifest ["generate"] detourFiles ∧
      (∃ text, ComesToWrite ["generate"] detourFiles "new/../gen/networks.rs" text ∧
        FileTree.Touches (.ofString "new/../gen/networks.rs") (Text.Utf8.encode text.toList)
          detourFiles o.files) ∧
      o.files.node? ["new"] = some .directory ∧ o.files.read (.ofString "notes") = .ok [0x21] ∧
      run ["generate"] o.files = o := by
  have hargs : Request.ofArgs ["generate"] = .run none (.generate ⟨none, false, false⟩) := rfl
  have hexit : (run ["generate"] detourFiles).ending = .exit 0 := by decide +kernel
  obtain ⟨text, htext⟩ : ∃ text, ProviderModule.generate detour.networks = .ok text :=
    ⟨(ProviderModule.generate detour.networks).toOption.getD "", rfl⟩
  have hwrite : ComesToWrite ["generate"] detourFiles "new/../gen/networks.rs" text :=
    ⟨_, _, detour, [], hargs, rfl, loads_detour, Attempt.eq_ok_of_toOption (by decide +kernel),
      .inl rfl, htext, by decide⟩
  have hspares : SparesManifest ["generate"] detourFiles := by
    intro config command manifest path other hargs' hmanifest hother
    obtain ⟨rfl, rfl⟩ := hwrite.unique hother
    cases hargs.symm.trans hargs'
    cases hmanifest
    decide
  obtain ⟨-, htouches, hagain⟩ := run_frame ["generate"] detourFiles
  obtain ⟨htouched, hothers⟩ := htouches _ _ hwrite
  exact ⟨hexit, hspares, ⟨text, hwrite, htouched⟩, by decide +kernel,
    hothers (.ofString "notes") [0x21] (by decide) (by decide +kernel), hagain hexit hspares⟩

end ProviderBindings.Program
