import ProviderBindings.CommandLine.Program
import ProviderBindings.Proofs.Attempt

/-! # Reading the manifest

Every command reads the manifest before it does anything else, so a manifest that cannot be read
ends every command in the same way (`Program.run_of_unreadable`): nothing has been written then,
to the outputs or to a file.

Reading a manifest is two operations, of which either may fault: a file is read, and its bytes
are taken for a manifest.  Faults of the first are faults of files and those of the second are
faults of documents, so from the fault alone it is known what is told of it (`Program.runOn_load`).
-/
namespace ProviderBindings

open Attempt

/-- Whether a fault is one of files: a path leads nowhere, or not to a file. -/
def Fault.isOfFiles : Fault → Bool
  | .nullInPath | .notFound _ | .isDirectory _ | .notDirectory _ | .fileExists _
  | .pathTooLong _ => true
  | _ => false

/-- Whether a fault is one of documents: bytes are no text, a text is no document, or a document
does not have the shape of a manifest. -/
def Fault.isOfDocuments : Fault → Bool
  | .undecodable _ | .unreadable _ | .notIterable _ | .notSupported _ .get => true
  | _ => false

theorem FileTree.isOfFiles_of_read {files : FileTree} {p : Path} {fault : Fault}
    (h : files.read p = .error fault) : fault.isOfFiles = true := by
  unfold read at h
  split at h
  · cases h
    rfl
  · split at h
    · rename_i obstacle hobstacle
      cases h
      cases obstacle <;> rfl
    · split at h
      · cases h
      · cases h
        rfl
      · cases h
        rfl

/-- At an empty path there is the working directory, and no file. -/
theorem FileTree.read_empty (files : FileTree) :
    files.read (.ofString "") = .error (.isDirectory ".") := rfl

namespace Manifest

theorem isOfDocuments_of_elements {v : Value} {fault : Fault} (h : elements v = .error fault) :
    fault.isOfDocuments = true := by
  cases v <;> cases h <;> rfl

theorem isOfDocuments_of_network {v : Value} {fault : Fault} (h : network v = .error fault) :
    fault.isOfDocuments = true := by
  cases v <;> cases h <;> rfl

theorem isOfDocuments_of_outputPath {v : Value} {fault : Fault} (h : outputPath v = .error fault) :
    fault.isOfDocuments = true := by
  unfold outputPath at h
  split at h
  · cases h
  · split at h
    · cases h
    · cases h
      rfl

theorem isOfDocuments_of_ofTable {t : Table} {fault : Fault} (h : ofTable t = .error fault) :
    fault.isOfDocuments = true := by
  rcases bind_eq_error_iff.mp h with h | ⟨entries, -, h⟩
  · exact isOfDocuments_of_elements h
  · rcases bind_eq_error_iff.mp h with h | ⟨networks, -, h⟩
    · obtain ⟨v, -, hv⟩ := exists_of_mapM_eq_error h
      exact isOfDocuments_of_network hv
    · rcases bind_eq_error_iff.mp h with h | ⟨output, -, h⟩
      · exact isOfDocuments_of_outputPath h
      · cases h

/-- What is wrong with the bytes of a manifest is a fault of documents. -/
theorem isOfDocuments_of_ofBytes {bytes : List UInt8} {fault : Fault}
    (h : ofBytes bytes = .error fault) : fault.isOfDocuments = true := by
  rcases bind_eq_error_iff.mp h with h | ⟨text, -, h⟩
  · obtain ⟨problem, -, rfl⟩ := mapError_eq_error_iff.mp h
    rfl
  · rcases bind_eq_error_iff.mp h with h | ⟨t, -, h⟩
    · obtain ⟨error, -, rfl⟩ := mapError_eq_error_iff.mp h
      rfl
    · exact isOfDocuments_of_ofTable h

end Manifest

namespace Program

open Session

variable {config : Option Options.Given} {files : FileTree} {fault : Fault}

/-- The manifest that is read from the given files, or what keeps it from being read. -/
def manifestAt (config : Option Options.Given) (files : FileTree) : Except Fault Manifest := do
  let path ← manifestPath config
  Manifest.ofBytes (← files.read (.ofString path))

/-- What is told of a manifest that is not there or is no document.  Of all else that keeps it
from being read, nothing is told. -/
def complaint? (config : Option Options.Given) (fault : Fault) : Option String :=
  match manifestPath config, fault with
  | .ok path, .notFound _ => some ("Error: config file not found: " ++ shownPath path)
  | .ok path, .unreadable (.malformed problem place) =>
    some ("Error: cannot parse " ++ shownPath path ++ ": " ++
      (Toml.Error.malformed problem place).message)
  | _, _ => none

theorem manifestAt_of_path {path : String} (h : manifestPath config = .ok path) :
    manifestAt config files = files.read (.ofString path) >>= Manifest.ofBytes := by
  rw [manifestAt, h]
  rfl

/-- **Reading the manifest** gives the manifest, and changes nothing; or it ends the run, with a
line on the error output or with the fault. -/
theorem runOn_load (config : Option Options.Given) (w : World) :
    runOn (load config) w =
      match manifestAt config w.files with
      | .ok m => (.ok m, w)
      | .error fault =>
        match complaint? config fault with
        | some line => (.error (.exit 1), { w with err := w.err ++ (line ++ "\n") })
        | none => (.error (.fault fault), w) := by
  unfold load complaint?
  cases hpath : manifestPath config with
  | error fault =>
    rw [manifestAt, hpath]
    rfl
  | ok path =>
    rw [manifestAt_of_path hpath]
    simp only [runOn_bind, runOn_attempt_ok, runOn_get]
    cases hread : w.files.read (.ofString path) with
    | error fault =>
      -- a fault of files is one that is told only if nothing is there
      have hfiles := FileTree.isOfFiles_of_read hread
      cases fault <;> first | rfl | cases hfiles
    | ok bytes =>
      dsimp only
      rw [Attempt.ok_bind]
      cases hm : Manifest.ofBytes bytes with
      | ok m => rfl
      | error fault =>
        have hdocuments := Manifest.isOfDocuments_of_ofBytes hm
        rcases fault with _ | _ | ⟨_ | _⟩ <;> first | rfl | cases hdocuments

/-- A path at which no manifest can be read is shown as it was given.  The one path that is shown
in another way is the empty one, at which there is a directory. -/
theorem exists_shown_path (h : manifestAt config files = .error fault)
    (hpath : ∀ kind, fault ≠ .notAPath kind) (hdirectory : fault ≠ .isDirectory ".") :
    ∃ path, manifestPath config = .ok path ∧ shownPath path = path := by
  rcases config with _ | path | _
  · exact ⟨Manifest.defaultPath, rfl, if_neg (by decide)⟩
  · refine ⟨path, rfl, if_neg ?_⟩
    rintro rfl
    rw [manifestAt_of_path rfl, FileTree.read_empty] at h
    cases h
    exact hdirectory rfl
  · cases h
    exact absurd rfl (hpath .array)

theorem complaint?_of_notFound {place : String}
    (h : manifestAt config files = .error (.notFound place)) :
    ∃ path, manifestPath config = .ok path ∧ complaint? config (.notFound place) =
      some ("Error: config file not found: " ++ path) := by
  obtain ⟨path, hpath, hshown⟩ := exists_shown_path h (by simp) (by simp)
  refine ⟨path, hpath, ?_⟩
  simp only [complaint?, hpath, hshown]

theorem complaint?_of_malformed {problem : Toml.Problem} {place : Toml.Place}
    (h : manifestAt config files = .error (.unreadable (.malformed problem place))) :
    ∃ path, manifestPath config = .ok path ∧
      complaint? config (.unreadable (.malformed problem place)) =
        some ("Error: cannot parse " ++ path ++ ": " ++
          (Toml.Error.malformed problem place).message) := by
  obtain ⟨path, hpath, hshown⟩ := exists_shown_path h (by simp) (by simp)
  refine ⟨path, hpath, ?_⟩
  simp only [complaint?, hpath, hshown]

theorem complaint?_of_other (hplace : ∀ place, fault ≠ .notFound place)
    (hproblem : ∀ problem place, fault ≠ .unreadable (.malformed problem place)) :
    complaint? config fault = none := by
  unfold complaint?
  split
  · exact absurd rfl (hplace _)
  · exact absurd rfl (hproblem _ _)
  · rfl

/-! ## Runs without a manifest -/

/-- What every run comes to that cannot read its manifest. -/
def stopped (config : Option Options.Given) (files : FileTree) (fault : Fault) : Outcome :=
  match complaint? config fault with
  | some line => ⟨.exit 1, "", line ++ "\n", files⟩
  | none => ⟨.fault fault, "", "", files⟩

theorem files_stopped : (stopped config files fault).files = files := by
  unfold stopped
  split <;> rfl

theorem run_eq_stopped (h : manifestAt config files = .error fault) {args : List String}
    {command : Command} (hargs : Request.ofArgs args = .run config command) :
    run args files = stopped config files fault := by
  unfold run outcome answer
  rw [hargs]
  simp only [runOn_bind, runOn_load, h, stopped]
  cases complaint? config fault with
  | none => rfl
  | some line => simp

/-- **A manifest that cannot be read ends every command in the same way.**  Whatever the command
and its options, the run ends with the same status or fault and the same text on the error
output; it has written nothing to the standard output and changed no file.  If there is no
manifest at the path, or what is there is no document, then the status is 1 and the text is one
line with the path; in every other case the run ends with the fault and there is no text. -/
theorem run_of_unreadable (h : manifestAt config files = .error fault) :
    ∃ ending err,
      (∀ args command, Request.ofArgs args = .run config command →
        run args files = ⟨ending, "", err, files⟩) ∧
      (∀ place, fault = .notFound place → ending = .exit 1 ∧
        ∃ path, manifestPath config = .ok path ∧
          err = "Error: config file not found: " ++ path ++ "\n") ∧
      (∀ problem place, fault = .unreadable (.malformed problem place) → ending = .exit 1 ∧
        ∃ path, manifestPath config = .ok path ∧
          err = "Error: cannot parse " ++ path ++ ": " ++
            (Toml.Error.malformed problem place).message ++ "\n") ∧
      ((∀ place, fault ≠ .notFound place) →
        (∀ problem place, fault ≠ .unreadable (.malformed problem place)) →
          ending = .fault fault ∧ err = "") := by
  refine ⟨(stopped config files fault).ending, (stopped config files fault).err, ?_, ?_, ?_, ?_⟩
  · intro args command hargs
    rw [run_eq_stopped h hargs, stopped]
    cases complaint? config fault <;> rfl
  · rintro place rfl
    obtain ⟨path, hpath, hline⟩ := complaint?_of_notFound h
    rw [stopped, hline]
    exact ⟨rfl, path, hpath, rfl⟩
  · rintro problem place rfl
    obtain ⟨path, hpath, hline⟩ := complaint?_of_malformed h
    rw [stopped, hline]
    exact ⟨rfl, path, hpath, rfl⟩
  · intro hplace hproblem
    rw [stopped, complaint?_of_other hplace hproblem]
    exact ⟨rfl, rfl⟩

/-- A text that is no document, as a header in it is not closed, in the working directory. -/
def unclosedHeaderFiles : FileTree :=
  ⟨[(["m.toml"], .file (Text.Utf8.encode "[[networks]\nname = \"base\"\n".toList))]⟩

/-- The commands end in the same way on a manifest that is no document, and in another way, which
is again the same, on one that is not there. -/
theorem unclosedHeader_unreadable :
    manifestAt (some (.text "m.toml")) unclosedHeaderFiles =
        .error (.unreadable (.malformed .arrayOfTablesNotClosed (.position 1 11))) ∧
      manifestAt none unclosedHeaderFiles = .error (.notFound "netbindgen.toml") ∧
      (∃ err, err = "Error: cannot parse m.toml: " ++
          "Expected ']]' at the end of an array declaration (at line 1, column 11)\n" ∧
        run ["-c", "m.toml", "generate", "-o", "new/out.rs", "--force"] unclosedHeaderFiles =
          ⟨.exit 1, "", err, unclosedHeaderFiles⟩ ∧
        run ["--conf=m.toml", "validate"] unclosedHeaderFiles =
          ⟨.exit 1, "", err, unclosedHeaderFiles⟩ ∧
        run ["-cm.toml", "info"] unclosedHeaderFiles = ⟨.exit 1, "", err, unclosedHeaderFiles⟩) ∧
      ∃ err, err = "Error: config file not found: netbindgen.toml\n" ∧
        run ["generate", "--stdout"] unclosedHeaderFiles = ⟨.exit 1, "", err, unclosedHeaderFiles⟩ ∧
        run ["info"] unclosedHeaderFiles = ⟨.exit 1, "", err, unclosedHeaderFiles⟩ := by
  have hunclosed : manifestAt (some (.text "m.toml")) unclosedHeaderFiles =
      .error (.unreadable (.malformed .arrayOfTablesNotClosed (.position 1 11))) :=
    eq_error_of_fault? (by decide +kernel)
  have hmissing : manifestAt none unclosedHeaderFiles = .error (.notFound "netbindgen.toml") := rfl
  refine ⟨hunclosed, hmissing, ?_, ?_⟩
  · obtain ⟨ending, err, hruns, -, hmalformed, -⟩ := run_of_unreadable hunclosed
    obtain ⟨rfl, path, hpath, rfl⟩ := hmalformed _ _ rfl
    cases hpath
    exact ⟨_, by decide +kernel, hruns _ _ rfl, hruns _ _ rfl, hruns _ _ rfl⟩
  · obtain ⟨ending, err, hruns, hnotFound, -, -⟩ := run_of_unreadable hmissing
    obtain ⟨rfl, path, hpath, rfl⟩ := hnotFound _ rfl
    cases hpath
    exact ⟨_, by decide +kernel, hruns _ _ rfl, hruns _ _ rfl⟩

end Program

end ProviderBindings
