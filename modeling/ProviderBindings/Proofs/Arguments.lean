import ProviderBindings.CommandLine.Request
import ProviderBindings.Proofs.Attempt

/-! # Arguments that name the manifest

A command line that begins with `-c` and a path asks for what its command word says, on the
manifest at that path, if the path is a word (`ofArgs_config_of_word`).  If it is none, as
when it has the form of an option, then the command line is misused, whatever comes after
it (`ofArgs_config_of_not_word`).  So whether two commands are misused does not depend on
which they are.
-/
namespace ProviderBindings

namespace Options

variable {κ : Type} {specs : List (OptionSpec κ)}

/-- What arguments are does not change which they are. -/
theorem map_fst_of_classifyAll {args : List String} {tokens : List (String × Token κ)}
    (h : classifyAll specs args = .ok tokens) : tokens.map Prod.fst = args := by
  induction args generalizing tokens with
  | nil =>
    cases h
    rfl
  | cons arg rest ih =>
    rw [classifyAll] at h
    obtain ⟨token, -, h⟩ := Attempt.bind_eq_ok_iff.mp h
    split at h
    · -- the separator, after which no argument is looked at
      cases h
      simp [Function.comp_def]
    · obtain ⟨others, hothers, h⟩ := Attempt.bind_eq_ok_iff.mp h
      cases h
      rw [List.map_cons, ih hothers]

theorem classifyAll_word {arg : String} {rest : List String} {tokens : List (String × Token κ)}
    (harg : classify specs arg = .ok .word) (hrest : classifyAll specs rest = .ok tokens) :
    classifyAll specs (arg :: rest) = .ok ((arg, .word) :: tokens) := by
  rw [classifyAll, harg, hrest]
  rfl

/-- The separator is no word. -/
theorem ne_separator_of_classify {arg : String} (h : classify specs arg = .ok .word) :
    arg ≠ "--" := by
  rintro rfl
  cases h

end Options

namespace Request

open Options

/-- The option that names the manifest. -/
def configOption : OptionSpec Switch := ⟨.config, ["-c", "--config"], true⟩

theorem classify_config : classify Usage.ofProgram.options "-c" =
    .ok (.known ⟨configOption, "-c", none⟩) := rfl

variable {path : String}

theorem ofArgs_config_of_word {word : String} {args : List String}
    {tokens : List (String × Token Switch)}
    (hpath : classify Usage.ofProgram.options path = .ok .word)
    (hword : classify Usage.ofProgram.options word = .ok .word)
    (hargs : classifyAll Usage.ofProgram.options args = .ok tokens) :
    ofArgs ("-c" :: path :: word :: args) = ofCommand (some (.text path)) [] word args := by
  have hall : classifyAll Usage.ofProgram.options ("-c" :: path :: word :: args) =
      .ok (("-c", .known ⟨configOption, "-c", none⟩) :: (path, .word) :: (word, .word) ::
        tokens) := by
    rw [classifyAll, classify_config, classifyAll_word hpath (classifyAll_word hword hargs)]
    rfl
  have hsteps : Options.read Usage.ofProgram.options ("-c" :: path :: word :: args) =
      .value .config (.text path) :: .word word args :: stepsOf Usage.ofProgram.options tokens := by
    rw [Options.read, hall, ← Given.ofText_of_ne (ne_separator_of_classify hpath)]
    simp only [stepsOf, Named.group, map_fst_of_classifyAll hargs]
    rfl
  rw [ofArgs, hsteps]
  simp [ofSteps, ne_separator_of_classify hword]

theorem ofArgs_config_of_not_word (hpath : classify Usage.ofProgram.options path ≠ .ok .word)
    (args : List String) :
    ∃ usage problem, ofArgs ("-c" :: path :: args) = .misuse usage problem := by
  have hsteps : ∃ problem, Options.read Usage.ofProgram.options ("-c" :: path :: args) =
      [.misuse problem] := by
    unfold Options.read
    cases hall : classifyAll Usage.ofProgram.options ("-c" :: path :: args) with
    | error problem => exact ⟨problem, rfl⟩
    | ok tokens =>
      -- the argument after the option is there, but is not its value
      rw [classifyAll, classify_config] at hall
      obtain ⟨_, ⟨⟩, hall⟩ := Attempt.bind_eq_ok_iff.mp hall
      obtain ⟨others, hothers, hall⟩ := Attempt.bind_eq_ok_iff.mp hall
      cases hall
      rw [classifyAll] at hothers
      obtain ⟨token, htoken, hothers⟩ := Attempt.bind_eq_ok_iff.mp hothers
      refine ⟨.missingValue configOption.names, ?_⟩
      cases token with
      | word => exact absurd htoken hpath
      | separator =>
        cases hothers
        rfl
      | _ =>
        obtain ⟨rest, -, hothers⟩ := Attempt.bind_eq_ok_iff.mp hothers
        cases hothers
        rfl
  obtain ⟨problem, hsteps⟩ := hsteps
  exact ⟨.ofProgram, problem, by rw [ofArgs, hsteps]; rfl⟩

end Request

end ProviderBindings
