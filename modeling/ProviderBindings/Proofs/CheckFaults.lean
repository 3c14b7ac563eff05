import ProviderBindings.Proofs.Reports

/-! # When the checks come to an end

The checks take values of every kind, nested in each other as they may be.  There is one
thing that stops them: a message that would show an integer with more digits than the
limit.  Messages show the value of a name or an address that is no string, and of a bound
that is not allowed; so a network can be checked exactly when these can be shown
(`Network.IsCheckable`), and a list of networks exactly when each of them can
(`Check.all_completes`).  A bound that is allowed is shown in no message, whatever its size.

That nothing else stops them is followed from the text of a value up through the three
checks (`Attempt.FailsOnlyWith`).  How deep values are nested does not count, as there is no limit
on the depth of a `Value`.
-/
namespace ProviderBindings

open Attempt

theorem Value.inspect_failsOnlyWith (v : Value) : FailsOnlyWith .integerTooLong v.inspect := by
  by_cases hshort : v.HasShortIntegers
  · obtain ⟨text, htext⟩ := inspect_eq_ok hshort
    rw [htext]
    exact .ok text
  · rw [inspect_eq_error hshort]
    exact .error

theorem Value.text_failsOnlyWith (v : Value) : FailsOnlyWith .integerTooLong v.text := by
  unfold text
  split
  · exact .ok _
  · exact .ok _
  · exact .ok _
  · exact .ok _
  · exact v.inspect_failsOnlyWith

namespace Network

variable (n : Network) (index : Nat)

theorem findingsOnName_failsOnlyWith :
    FailsOnlyWith .integerTooLong (n.findingsOnName index) := by
  unfold findingsOnName
  split
  · split
    · exact n.url.inspect_failsOnlyWith.bind fun _ => .ok _
    · split <;> exact .ok _
  · exact (Value.inspect_failsOnlyWith _).bind fun _ => .ok _

theorem findingsOnUrl_failsOnlyWith : FailsOnlyWith .integerTooLong (n.findingsOnUrl index) := by
  unfold findingsOnUrl
  split
  · split
    · exact .ok _
    · split <;> exact .ok _
  · exact (Value.inspect_failsOnlyWith _).bind fun _ => .ok _

theorem findingsOnComputeUnits_failsOnlyWith :
    FailsOnlyWith .integerTooLong (n.findingsOnComputeUnits index) := by
  unfold findingsOnComputeUnits
  split
  · exact .ok _
  · exact n.computeUnits.inspect_failsOnlyWith.bind fun _ => .ok _

theorem findingsOnFields_failsOnlyWith :
    FailsOnlyWith .integerTooLong (n.findingsOnFields index) :=
  (n.findingsOnName_failsOnlyWith index).bind fun _ =>
    (n.findingsOnUrl_failsOnlyWith index).bind fun _ =>
      (n.findingsOnComputeUnits_failsOnlyWith index).bind fun _ => .ok _

variable {n index} {f : Findings}

theorem hasShortIntegers_name (h : n.findingsOnName index = .ok f) : n.name.HasShortIntegers := by
  unfold findingsOnName at h
  cases hname : n.name with
  | string name => simp [Value.HasShortIntegers]
  | _ =>
    simp only [hname] at h
    obtain ⟨text, htext, -⟩ := bind_eq_ok_iff.mp h
    exact Value.inspect_eq_ok_iff.mp ⟨text, htext⟩

theorem hasShortIntegers_url (h : n.findingsOnUrl index = .ok f) : n.url.HasShortIntegers := by
  unfold findingsOnUrl at h
  cases hurl : n.url with
  | string url => simp [Value.HasShortIntegers]
  | _ =>
    simp only [hurl] at h
    obtain ⟨text, htext, -⟩ := bind_eq_ok_iff.mp h
    exact Value.inspect_eq_ok_iff.mp ⟨text, htext⟩

theorem hasShortIntegers_computeUnits (h : n.findingsOnComputeUnits index = .ok f) :
    unitsAllowed n.computeUnits = true ∨ n.computeUnits.HasShortIntegers := by
  unfold findingsOnComputeUnits at h
  split at h
  · left
    assumption
  · right
    obtain ⟨text, htext, -⟩ := bind_eq_ok_iff.mp h
    exact Value.inspect_eq_ok_iff.mp ⟨text, htext⟩

/-- A network whose fields have been checked is one that can be. -/
theorem isCheckable_of_findingsOnFields (h : n.findingsOnFields index = .ok f) :
    n.IsCheckable := by
  obtain ⟨onName, hname, h⟩ := bind_eq_ok_iff.mp h
  obtain ⟨onUrl, hurl, h⟩ := bind_eq_ok_iff.mp h
  obtain ⟨onUnits, hunits, -⟩ := bind_eq_ok_iff.mp h
  exact ⟨hasShortIntegers_name hname, hasShortIntegers_url hurl,
    hasShortIntegers_computeUnits hunits⟩

end Network

namespace Check

variable {networks : List Network} {findings : Findings}

theorem fieldsFrom_failsOnlyWith (index : Nat) (networks : List Network) :
    FailsOnlyWith .integerTooLong (fieldsFrom index networks) := by
  induction networks generalizing index with
  | nil => exact .ok []
  | cons n rest ih =>
    exact (n.findingsOnFields_failsOnlyWith index).bind fun _ => (ih (index + 1)).bind fun _ => .ok _

theorem all_failsOnlyWith (networks : List Network) :
    FailsOnlyWith .integerTooLong (Check.all networks) :=
  (fieldsFrom_failsOnlyWith 0 networks).bind fun _ => .ok _

/-- The networks of a manifest that has been checked can all be. -/
theorem isCheckable_of_all (h : Check.all networks = .ok findings) :
    ∀ n ∈ networks, n.IsCheckable := by
  intro n hn
  obtain ⟨byFields, hfields, -⟩ := all_eq_ok_iff.mp h
  obtain ⟨i, hi⟩ := List.mem_iff_getElem?.mp hn
  obtain ⟨found, hfound, -⟩ := exists_findingsOnFields hfields hi
  exact Network.isCheckable_of_findingsOnFields hfound

/-- The codes of what is found: those of the fields, network by network, and then those of
repetitions. -/
theorem codes_all (h : Check.all networks = .ok findings) :
    findings.codes = networks.flatMap Network.fieldCodes ++ (repetitions networks).codes := by
  obtain ⟨byFields, hfields, rfl⟩ := all_eq_ok_iff.mp h
  rw [Findings.codes_append, (areErrors_of_fieldsFrom hfields).codes_eq]

/-- **The checks of any list of networks**, whatever the values in it.  If every network can
be checked, the checks come to an end; what they find has its codes, and a report and a text
of each violation too.  If one cannot, the checks stop at an integer with too many digits,
and nothing else ever stops them.

Reports and texts show positions in the list, so its length has to be within the limit on
decimal digits, as that of every list in a memory is. -/
theorem all_completes (networks : List Network) :
    ((∀ n ∈ networks, n.IsCheckable) →
      ∃ findings, Check.all networks = .ok findings ∧
        findings.codes = networks.flatMap Network.fieldCodes ++ (repetitions networks).codes ∧
        (IsShort networks.length →
          (∃ report, findings.report = .ok report) ∧
            ∀ v ∈ findings, ∃ text, v.text = .ok text)) ∧
      ((∃ n ∈ networks, ¬ n.IsCheckable) → Check.all networks = .error .integerTooLong) := by
  constructor
  · intro hcheckable
    obtain ⟨findings, hfindings⟩ := all_eq_ok hcheckable
    refine ⟨findings, hfindings, codes_all hfindings, fun hcount => ?_⟩
    exact ⟨report_eq_ok hfindings hcount,
      fun v hv => Violation.text_eq_ok (isShort_index hfindings hcount v hv)⟩
  · rintro ⟨n, hn, hlong⟩
    cases hall : Check.all networks with
    | ok findings => exact absurd (isCheckable_of_all hall n hn) hlong
    | error fault => rw [all_failsOnlyWith networks fault hall]

/-- The smallest positive integer with more digits than the limit. -/
def leastLongInteger : Int := .ofNat (Power.ten digitLimit)

theorem not_isShort_leastLongInteger : ¬ IsShort leastLongInteger := by
  rw [isShort_iff, leastLongInteger, Int.natAbs]
  exact Nat.lt_irrefl _

/-- Networks with fields of many kinds, one of them a bound of any size that is allowed. -/
def manyKinds : List Network :=
  [⟨.array [.boolean true, .table [("a", .array [.integer (-1)])]], .date ⟨2024, 2, 29⟩,
      .integer leastLongInteger⟩,
    ⟨.string "", .table [], .string "660"⟩]

/-- A network whose name holds an integer that cannot be shown. -/
def unshowableName : List Network :=
  [⟨.array [.integer leastLongInteger], .string "https://one.example", .absent⟩]

theorem manyKinds_completes : (∀ n ∈ manyKinds, n.IsCheckable) ∧
    (∃ n ∈ unshowableName, ¬ n.IsCheckable) ∧
    (∃ findings, Check.all manyKinds = .ok findings ∧
      findings.codes = [Code.invalidName, Code.invalidUrl, Code.missingName, Code.invalidUrl,
        Code.invalidComputeUnits] ∧
      (∃ report, findings.report = .ok report) ∧ ∀ v ∈ findings, ∃ text, v.text = .ok text) ∧
    Check.all unshowableName = .error .integerTooLong := by
  have hcheckable : ∀ n ∈ manyKinds, n.IsCheckable := by
    have hitem : IsShort (-1) := by decide
    have hpositive : Network.unitsAllowed (.integer leastLongInteger) = true := by decide +kernel
    intro n hn
    rcases List.mem_cons.mp hn with rfl | hn
    · exact ⟨by simp [Value.HasShortIntegers, Value.HaveShortIntegers,
        Value.EntriesHaveShortIntegers, hitem], by simp [Value.HasShortIntegers], .inl hpositive⟩
    · cases List.mem_singleton.mp hn
      exact ⟨by simp [Value.HasShortIntegers],
        by simp [Value.HasShortIntegers, Value.EntriesHaveShortIntegers],
        .inr (by simp [Value.HasShortIntegers])⟩
  have hlong : ∃ n ∈ unshowableName, ¬ n.IsCheckable := by
    refine ⟨_, List.mem_singleton_self _, fun h => not_isShort_leastLongInteger ?_⟩
    simpa [Value.HasShortIntegers, Value.HaveShortIntegers] using h.name
  obtain ⟨findings, hfindings, hcodes, hshown⟩ := (all_completes manyKinds).1 hcheckable
  refine ⟨hcheckable, hlong, ⟨findings, hfindings, ?_, hshown (by decide)⟩,
    (all_completes unshowableName).2 hlong⟩
  rw [hcodes]
  decide +kernel

end Check

end ProviderBindings
