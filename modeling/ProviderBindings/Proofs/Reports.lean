import Mathlib.Tactic.ByContra
import Mathlib.Tactic.Choose
import ProviderBindings.Proofs.Acceptance

/-! # When there is a report

A violation is shown with the position of its network, so that it has a text exactly when
that position has one, and findings have a report exactly when each of them has a text
(`Findings.report_eq_ok_iff`).  The findings of a manifest are at positions below its
length: they can be reported whenever the length is within the limit on decimal digits
(`Check.report_eq_ok`).  No list that fits in a memory is longer.
-/
namespace ProviderBindings

theorem IsShort.of_lt {i n : Nat} (hn : IsShort n) (h : i < n) : IsShort i := by
  rw [isShort_iff] at hn ⊢
  simp only [Int.natAbs_natCast] at hn ⊢
  omega

namespace Violation

theorem text_eq_ok {v : Violation} (h : IsShort v.index) : ∃ text, v.text = .ok text := by
  unfold text location
  rw [integerText_of_isShort h]
  exact ⟨_, rfl⟩

theorem isShort_of_text {v : Violation} {text : String} (h : v.text = .ok text) :
    IsShort v.index := by
  by_contra hlong
  unfold Violation.text location at h
  rw [integerText_of_not_isShort hlong] at h
  cases h

end Violation

namespace Findings

variable {f : Findings}

/-- Bringing findings together by index neither loses nor adds any. -/
theorem mem_grouped_iff {v : Violation} : v ∈ f.grouped ↔ v ∈ f := by
  constructor
  · intro h
    obtain ⟨index, -, hv⟩ := List.mem_flatMap.mp h
    exact (List.mem_filter.mp hv).1
  · intro h
    have hindex : v.index ∈ f.indices :=
      List.mem_mergeSort.mpr (List.mem_eraseDups.mpr (List.mem_map_of_mem h))
    exact List.mem_flatMap.mpr ⟨v.index, hindex, List.mem_filter.mpr ⟨h, beq_self_eq_true _⟩⟩

theorem mem_of_mem_warnings {v : Violation} (h : v ∈ f.warnings) : v ∈ f :=
  (List.mem_filter.mp h).1

theorem isValid_iff_errors_eq_nil : f.isValid = true ↔ f.errors = [] := by
  rw [isValid, errors, List.filter_eq_nil_iff, Bool.not_eq_true', List.any_eq_false]

/-- The texts of violations at positions that can be shown. -/
theorem exists_text {vs : List Violation} (h : ∀ v ∈ vs, IsShort v.index) :
    ∃ text : Violation → String, ∀ v ∈ vs, v.text = .ok (text v) := by
  choose! text htext using fun v hv => Violation.text_eq_ok (h v hv)
  exact ⟨text, htext⟩

theorem mapM_reportLine_of_text {vs : List Violation} {text : Violation → String}
    (htext : ∀ v ∈ vs, v.text = .ok (text v)) :
    vs.mapM reportLine = .ok (vs.map fun v => "  " ++ text v) := by
  apply Attempt.mapM_eq_ok
  intro v hv
  rw [reportLine, htext v hv]
  rfl

theorem mapM_reportLine_eq_ok {vs : List Violation} (h : ∀ v ∈ vs, IsShort v.index) :
    ∃ lines, vs.mapM reportLine = .ok lines := by
  obtain ⟨text, htext⟩ := exists_text h
  exact ⟨_, mapM_reportLine_of_text htext⟩

theorem isShort_of_mapM_reportLine {vs : List Violation} {lines : List String}
    (h : vs.mapM reportLine = .ok lines) : ∀ v ∈ vs, IsShort v.index := by
  intro v hv
  obtain ⟨line, hline⟩ := Attempt.exists_of_mapM_eq_ok h v hv
  obtain ⟨text, htext, -⟩ := Attempt.bind_eq_ok_iff.mp hline
  exact Violation.isShort_of_text htext

theorem report_eq_ok (h : ∀ v ∈ f, IsShort v.index) : ∃ text, f.report = .ok text := by
  unfold report
  split
  · exact ⟨_, rfl⟩
  · obtain ⟨lines, hlines⟩ :=
      mapM_reportLine_eq_ok fun v hv => h v (mem_grouped_iff.mp hv)
    rw [hlines]
    exact ⟨_, rfl⟩

/-- **Findings have a report exactly when every position in it has a text.** -/
theorem report_eq_ok_iff : (∃ text, f.report = .ok text) ↔ ∀ v ∈ f, IsShort v.index := by
  refine ⟨?_, report_eq_ok⟩
  rintro ⟨text, htext⟩ v hv
  have hne : f.isEmpty = false := List.isEmpty_eq_false_iff.mpr (List.ne_nil_of_mem hv)
  rw [report, hne, if_neg Bool.false_ne_true] at htext
  obtain ⟨lines, hlines, -⟩ := Attempt.bind_eq_ok_iff.mp htext
  exact isShort_of_mapM_reportLine hlines v (mem_grouped_iff.mpr hv)

end Findings

namespace Check

variable {networks : List Network} {findings : Findings}

/-- The position of a violation is that of a network. -/
theorem isShort_index (h : Check.all networks = .ok findings) (hcount : IsShort networks.length) :
    ∀ v ∈ findings, IsShort v.index := by
  intro v hv
  obtain ⟨i, n, severity, code, field, message, hn, rfl⟩ := of_mem_all h hv
  obtain ⟨hi, -⟩ := List.getElem?_eq_some_iff.mp hn
  exact hcount.of_lt hi

/-- **Findings can be reported.** -/
theorem report_eq_ok (h : Check.all networks = .ok findings)
    (hcount : IsShort networks.length) : ∃ text, findings.report = .ok text :=
  Findings.report_eq_ok (isShort_index h hcount)

end Check

end ProviderBindings
