import ProviderBindings.Proofs.ManifestReading
import ProviderBindings.Proofs.ManifestShape
import ProviderBindings.Proofs.ReaderFailures

/-! # What is told of a file that is no manifest

There are four ways in which the bytes of a file can fail to be a manifest, and one of them is
told: if their text is no document, then the run ends with status 1 and a line that says what is
wrong and where.  The other three end the run with their fault, and there is not a word of it
(`Manifest.Escapes`): the bytes are no text, the text has an integer with more digits than are
read, or the document does not have the shape of a manifest.  There is no fifth way
(`Program.load_of_file`), as there is no limit on the depth of a `Value`.
-/
namespace ProviderBindings

open Attempt

namespace Manifest

variable {bytes : List UInt8} {m : Manifest} {problem : Toml.Problem} {place : Toml.Place}
  {fault : Fault}

/-- Bytes are the text of a document that describes a manifest. -/
def IsWritten (bytes : List UInt8) (m : Manifest) : Prop :=
  ∃ text d, Text.Utf8.decode bytes = .ok text ∧ Toml.parse text = .ok d ∧ Describes d m

/-- Bytes are a text that has a problem at some place and so is no document. -/
def IsMalformed (bytes : List UInt8) (problem : Toml.Problem) (place : Toml.Place) : Prop :=
  ∃ text, Text.Utf8.decode bytes = .ok text ∧ Toml.parse text = .error (.malformed problem place)

/-- What else can be wrong with bytes, each with its fault. -/
inductive Escapes (bytes : List UInt8) : Fault → Prop
  | undecodable {problem : Text.Utf8.Problem} (h : Text.Utf8.decode bytes = .error problem) :
      Escapes bytes (.undecodable problem)
  | tooManyDigits {text : List Char} {count : Nat} (htext : Text.Utf8.decode bytes = .ok text)
      (h : Toml.parse text = .error (.tooManyDigits count)) (hlong : digitLimit < count) :
      Escapes bytes (.unreadable (.tooManyDigits count))
  | misshapen {text : List Char} {d : Table} {fault : Fault}
      (htext : Text.Utf8.decode bytes = .ok text) (hd : Toml.parse text = .ok d)
      (h : Spoils d fault) : Escapes bytes fault

/-! ## Bytes -/

theorem ofBytes_eq_ok_iff : ofBytes bytes = .ok m ↔ IsWritten bytes m := by
  unfold ofBytes document IsWritten
  simp only [bind_eq_ok_iff, mapError_eq_ok_iff, ofTable_eq_ok_iff]
  constructor
  · rintro ⟨text, htext, d, hd, hm⟩
    exact ⟨text, d, htext, hd, hm⟩
  · rintro ⟨text, d, htext, hd, hm⟩
    exact ⟨text, htext, d, hd, hm⟩

theorem ofBytes_eq_error_iff : ofBytes bytes = .error fault ↔
    Escapes bytes fault ∨ ∃ problem place, IsMalformed bytes problem place ∧
      fault = .unreadable (.malformed problem place) := by
  constructor
  · intro h
    rcases bind_eq_error_iff.mp h with h | ⟨text, htext, h⟩
    · obtain ⟨problem, hproblem, rfl⟩ := mapError_eq_error_iff.mp h
      exact .inl (.undecodable hproblem)
    · have htext := mapError_eq_ok_iff.mp htext
      rcases bind_eq_error_iff.mp h with h | ⟨d, hd, h⟩
      · obtain ⟨e, he, rfl⟩ := mapError_eq_error_iff.mp h
        cases e with
        | malformed problem place => exact .inr ⟨problem, place, ⟨text, htext, he⟩, rfl⟩
        | tooManyDigits count =>
          exact .inl (.tooManyDigits htext he (Toml.digitLimit_lt_of_parse he))
      · exact .inl (.misshapen htext (mapError_eq_ok_iff.mp hd) (ofTable_eq_error_iff.mp h))
  · have hparsed : ∀ {text : List Char}, Text.Utf8.decode bytes = .ok text →
        ofBytes bytes = document text >>= ofTable := by
      intro text htext
      rw [ofBytes, htext]
      rfl
    rintro (h | ⟨problem, place, ⟨text, htext, he⟩, rfl⟩)
    · cases h with
      | undecodable h =>
        rw [ofBytes, h]
        rfl
      | tooManyDigits htext he =>
        rw [hparsed htext, document, he]
        rfl
      | misshapen htext hd h =>
        rw [hparsed htext, document, hd]
        exact ofTable_eq_error_iff.mpr h
    · rw [hparsed htext, document, he]
      rfl

/-- Nothing that is wrong with the shape of a document is wrong with its text. -/
theorem Spoils.ne_unreadable {d : Table} (h : Spoils d fault) (e : Toml.Error) :
    fault ≠ .unreadable e := by
  cases h with
  | networks _ h => cases h <;> simp
  | output => simp

theorem Escapes.ne_malformed (h : Escapes bytes fault) (problem : Toml.Problem)
    (place : Toml.Place) : fault ≠ .unreadable (.malformed problem place) := by
  cases h with
  | misshapen _ _ h => exact h.ne_unreadable _
  | _ => simp

theorem ofBytes_cases (bytes : List UInt8) : (∃ m, IsWritten bytes m) ∨
    (∃ problem place, IsMalformed bytes problem place) ∨ ∃ fault, Escapes bytes fault := by
  cases h : ofBytes bytes with
  | ok m => exact .inl ⟨m, ofBytes_eq_ok_iff.mp h⟩
  | error fault =>
    rcases ofBytes_eq_error_iff.mp h with hescapes | ⟨problem, place, hmalformed, -⟩
    · exact .inr (.inr ⟨fault, hescapes⟩)
    · exact .inr (.inl ⟨problem, place, hmalformed⟩)

end Manifest

namespace Program

open Session
open Manifest (IsWritten IsMalformed Escapes)

variable {config : Option Options.Given} {w : World} {path : String} {bytes : List UInt8}

theorem manifestAt_of_bytes {files : FileTree} (hpath : manifestPath config = .ok path)
    (hread : files.read (.ofString path) = .ok bytes) :
    manifestAt config files = Manifest.ofBytes bytes := by
  rw [manifestAt_of_path hpath, hread, ok_bind]

/-- What is told of a text that is no document. -/
def parseComplaint (path : String) (problem : Toml.Problem) (place : Toml.Place) : String :=
  "Error: cannot parse " ++ path ++ ": " ++ (Toml.Error.malformed problem place).message ++ "\n"

theorem exists_complaint {problem : Toml.Problem} {place : Toml.Place} {files : FileTree}
    (hpath : manifestPath config = .ok path)
    (h : manifestAt config files = .error (.unreadable (.malformed problem place))) :
    ∃ line, complaint? config (.unreadable (.malformed problem place)) = some line ∧
      line ++ "\n" = parseComplaint path problem place := by
  obtain ⟨path', hpath', hline⟩ := complaint?_of_malformed h
  obtain rfl : path' = path := Except.ok.inj (hpath'.symm.trans hpath)
  exact ⟨_, hline, rfl⟩

/-- **Reading a file as the manifest.**  There are bytes at the path.  If they are those of a
document which describes a manifest, then that manifest is what is read.  If they are a text which
is no document, then the run ends with status 1 and says so.  Otherwise every run that comes to
read them ends with a fault, and says nothing.  So either a manifest is read or the run ends with
status 1, unless the bytes are no text, the text has an integer with more digits than are read, or
the document does not have the shape of a manifest. -/
theorem load_of_file (hpath : manifestPath config = .ok path)
    (hread : w.files.read (.ofString path) = .ok bytes) :
    (∀ m, IsWritten bytes m → runOn (load config) w = (.ok m, w)) ∧
    (∀ problem place, IsMalformed bytes problem place → runOn (load config) w =
      (.error (.exit 1), { w with err := w.err ++ parseComplaint path problem place })) ∧
    (∀ fault, Escapes bytes fault → runOn (load config) w = (.error (.fault fault), w) ∧
      ∀ args command, Request.ofArgs args = .run config command →
        run args w.files = ⟨.fault fault, "", "", w.files⟩) ∧
    ((∃ m, (runOn (load config) w).1 = .ok m) ∨ (runOn (load config) w).1 = .error (.exit 1) ↔
      ∀ fault, ¬ Escapes bytes fault) := by
  have hmanifest := manifestAt_of_bytes hpath hread
  have hload := runOn_load config w
  rw [hmanifest] at hload
  have hwritten : ∀ m, IsWritten bytes m → runOn (load config) w = (.ok m, w) := by
    intro m hm
    rw [hload, Manifest.ofBytes_eq_ok_iff.mpr hm]
  have hmalformed : ∀ problem place, IsMalformed bytes problem place → runOn (load config) w =
      (.error (.exit 1), { w with err := w.err ++ parseComplaint path problem place }) := by
    intro problem place h
    have hbytes : Manifest.ofBytes bytes = .error (.unreadable (.malformed problem place)) :=
      Manifest.ofBytes_eq_error_iff.mpr (.inr ⟨problem, place, h, rfl⟩)
    obtain ⟨line, hline, hend⟩ := exists_complaint hpath (hmanifest.trans hbytes)
    rw [hload, hbytes]
    simp only [hline, hend]
  have hescapes : ∀ fault, Escapes bytes fault →
      Manifest.ofBytes bytes = .error fault ∧ complaint? config fault = none := by
    intro fault h
    refine ⟨Manifest.ofBytes_eq_error_iff.mpr (.inl h), complaint?_of_other ?_ h.ne_malformed⟩
    rintro place rfl
    exact absurd (Manifest.isOfDocuments_of_ofBytes (Manifest.ofBytes_eq_error_iff.mpr (.inl h)))
      (by simp [Fault.isOfDocuments])
  have hends : ∀ fault, Escapes bytes fault →
      runOn (load config) w = (.error (.fault fault), w) := by
    intro fault h
    obtain ⟨hbytes, hnothing⟩ := hescapes fault h
    rw [hload, hbytes]
    simp only [hnothing]
  refine ⟨hwritten, hmalformed, fun fault h => ⟨hends fault h, ?_⟩, ?_⟩
  · intro args command hargs
    obtain ⟨hbytes, hnothing⟩ := hescapes fault h
    rw [run_eq_stopped (hmanifest.trans hbytes) hargs, stopped, hnothing]
  · constructor
    · intro htold fault h
      rw [hends fault h] at htold
      simp at htold
    · intro hnone
      rcases Manifest.ofBytes_cases bytes with ⟨m, hm⟩ | ⟨problem, place, h⟩ | ⟨fault, h⟩
      · exact .inl ⟨m, by rw [hwritten m hm]⟩
      · exact .inr (by rw [hmalformed problem place h])
      · exact absurd h (hnone fault)

/-- A file that is no text, and one that is a document of another shape. -/
def escapingFiles : FileTree :=
  ⟨[(["latin.toml"], .file [0x23, 0xE9, 0x0A]),
    (["count.toml"], .file (Text.Utf8.encode "networks = 5\n".toList))]⟩

theorem escapingFiles_untold :
    let latin : Option Options.Given := some (.text "latin.toml")
    let count : Option Options.Given := some (.text "count.toml")
    manifestPath latin = .ok "latin.toml" ∧ manifestPath count = .ok "count.toml" ∧
      escapingFiles.read (.ofString "latin.toml") = .ok [0x23, 0xE9, 0x0A] ∧
      escapingFiles.read (.ofString "count.toml") =
        .ok (Text.Utf8.encode "networks = 5\n".toList) ∧
      run ["-clatin.toml", "validate"] escapingFiles =
        ⟨.fault (.undecodable ⟨0xE9, 1, 1, .invalidContinuation⟩), "", "", escapingFiles⟩ ∧
      run ["-c", "count.toml", "generate", "--force"] escapingFiles =
        ⟨.fault (.notIterable .integer), "", "", escapingFiles⟩ := by
  intro latin count
  have hlatin : escapingFiles.read (.ofString "latin.toml") = .ok [0x23, 0xE9, 0x0A] := by
    decide +kernel
  have hcount : escapingFiles.read (.ofString "count.toml") =
      .ok (Text.Utf8.encode "networks = 5\n".toList) := by
    decide +kernel
  have hshape : Manifest.ofBytes (Text.Utf8.encode "networks = 5\n".toList) =
      .error (.notIterable .integer) := eq_error_of_fault? (by decide +kernel)
  have hescapes : Escapes (Text.Utf8.encode "networks = 5\n".toList) (.notIterable .integer) := by
    rcases Manifest.ofBytes_eq_error_iff.mp hshape with h | ⟨problem, place, -, h⟩
    · exact h
    · cases h
  obtain ⟨-, -, hundecodable, -⟩ :=
    @load_of_file latin ⟨escapingFiles, "", ""⟩ _ _ rfl hlatin
  obtain ⟨-, -, hmisshapen, -⟩ := @load_of_file count ⟨escapingFiles, "", ""⟩ _ _ rfl hcount
  exact ⟨rfl, rfl, hlatin, hcount, (hundecodable _ (.undecodable rfl)).2 _ _ rfl,
    (hmisshapen _ hescapes).2 _ _ rfl⟩

end Program

end ProviderBindings
