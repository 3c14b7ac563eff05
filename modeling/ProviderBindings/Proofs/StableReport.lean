import Mathlib.Data.Finset.Card
import Mathlib.Data.Finset.Dedup
import ProviderBindings.Proofs.Reports

/-! # The order of a report

A report has a line for every finding, in the order of the indices; what was found at one index
stays in the order in which it was found (`Findings.IsStableOrder`).  There is one such order
(`Findings.IsStableOrder.eq_grouped`), and it depends on nothing but what was found at each index
(`Findings.grouped_congr`).  So it makes no difference to a report in which order the checks came
to different networks.

The report is put together index by index.  That this neither loses nor repeats a finding is seen
at one index at a time: every index comes once, and what is at it has come with it
(`Findings.ofNetwork_grouped`).
-/
namespace ProviderBindings

/-- Without its repetitions a list has none. -/
theorem nodup_eraseDups {α : Type} [BEq α] [LawfulBEq α] (xs : List α) : xs.eraseDups.Nodup := by
  cases xs with
  | nil => simp
  | cons x rest =>
    rw [List.eraseDups_cons, List.nodup_cons]
    exact ⟨by simp, nodup_eraseDups (rest.filter fun y => !y == x)⟩
termination_by xs.length
decreasing_by exact Nat.lt_succ_of_le (List.length_filter_le ..)

namespace Findings

variable {f g : Findings}

/-! ## What is found at each index -/

/-- Findings that agree at every index are the same but for their order. -/
theorem perm_of_ofNetwork (h : ∀ i, f.ofNetwork i = g.ofNetwork i) : f.Perm g := by
  rw [List.perm_iff_count]
  intro v
  have hself : (v.index == v.index) = true := beq_self_eq_true _
  have hcount : ∀ k : Findings, List.count v (k.ofNetwork v.index) = List.count v k :=
    fun _ => List.count_filter hself
  rw [← hcount f, ← hcount g, h]

theorem ofNetwork_cons_self (v : Violation) (f : Findings) :
    ofNetwork (v :: f) v.index = v :: f.ofNetwork v.index :=
  List.filter_cons_of_pos (beq_self_eq_true _)

theorem ofNetwork_cons_of_ne {v : Violation} {i : Int} (h : v.index ≠ i) (f : Findings) :
    ofNetwork (v :: f) i = f.ofNetwork i :=
  List.filter_cons_of_neg (mt beq_iff_eq.mp h)

/-- Findings in the order of their indices are known from what is found at each. -/
theorem eq_of_ascending (hf : f.Pairwise fun v w => v.index ≤ w.index)
    (hg : g.Pairwise fun v w => v.index ≤ w.index)
    (h : ∀ i, f.ofNetwork i = g.ofNetwork i) : f = g := by
  induction f generalizing g with
  | nil => exact (perm_of_ofNetwork h).symm.eq_nil.symm
  | cons v rest ih =>
    cases g with
    | nil => exact (perm_of_ofNetwork h).eq_nil
    | cons w others =>
      rw [List.pairwise_cons] at hf hg
      have hperm := perm_of_ofNetwork h
      -- each of the two lists begins at the lowest index, which is the same
      have hindex : v.index = w.index := by
        apply Int.le_antisymm
        · rcases List.mem_cons.mp (hperm.mem_iff.mpr List.mem_cons_self) with hw | hw
          · rw [hw]
          · exact hf.1 w hw
        · rcases List.mem_cons.mp (hperm.mem_iff.mp List.mem_cons_self) with hv | hv
          · rw [hv]
          · exact hg.1 v hv
      have hfirst := h v.index
      rw [ofNetwork_cons_self, hindex, ofNetwork_cons_self] at hfirst
      obtain ⟨rfl, hrest⟩ := List.cons.inj hfirst
      congr 1
      apply ih hf.2 hg.2
      intro i
      by_cases hi : v.index = i
      · exact hi ▸ hrest
      · rw [← ofNetwork_cons_of_ne hi rest, h i, ofNetwork_cons_of_ne hi]

/-! ## The stable order -/

/-- Whether `g` is `f` in the order of the indices, with what was found at one index in the order
in which it was found. -/
structure IsStableOrder (f g : Findings) : Prop where
  perm : g.Perm f
  ascending : g.Pairwise fun v w => v.index ≤ w.index
  stable : ∀ i, g.ofNetwork i = f.ofNetwork i

theorem mem_indices_iff {i : Int} : i ∈ f.indices ↔ ∃ v ∈ f, v.index = i := by
  rw [indices, List.mem_mergeSort, List.mem_eraseDups, List.mem_map]

theorem nodup_indices (f : Findings) : f.indices.Nodup :=
  (List.mergeSort_perm ..).nodup_iff.mpr (nodup_eraseDups _)

theorem ascending_indices (f : Findings) : f.indices.Pairwise (· ≤ ·) := by
  have htrans (i j k : Int) : decide (i ≤ j) = true → decide (j ≤ k) = true →
      decide (i ≤ k) = true := by
    simp only [decide_eq_true_eq]
    exact Int.le_trans
  have htotal (i j : Int) : (decide (i ≤ j) || decide (j ≤ i)) = true := by
    simp only [Bool.or_eq_true, decide_eq_true_eq]
    exact Int.le_total i j
  exact (List.pairwise_mergeSort htrans htotal _).imp of_decide_eq_true

/-- The number of indices in a report is that of different ones. -/
theorem length_indices (f : Findings) : f.indices.length = (f.map (·.index)).toFinset.card := by
  have hsame : (f.map (·.index)).toFinset = f.indices.toFinset := by
    ext i
    rw [List.mem_toFinset, List.mem_toFinset, mem_indices_iff, List.mem_map]
  rw [hsame, List.toFinset_card_of_nodup (nodup_indices f)]

theorem index_of_mem_ofNetwork {i : Int} {v : Violation} (h : v ∈ f.ofNetwork i) : v.index = i :=
  beq_iff_eq.mp (List.mem_filter.mp h).2

/-- What is at an index when findings are put together index by index. -/
theorem ofNetwork_flatMap_ofNetwork {is : List Int} (h : is.Nodup) (i : Int) :
    ofNetwork (is.flatMap f.ofNetwork) i = if i ∈ is then f.ofNetwork i else [] := by
  induction is with
  | nil => rfl
  | cons j rest ih =>
    obtain ⟨hj, hrest⟩ := List.nodup_cons.mp h
    rw [List.flatMap_cons, ofNetwork_append, ih hrest]
    by_cases hij : i = j
    · subst hij
      rw [ofNetwork_eq_self fun v => index_of_mem_ofNetwork, if_neg hj, if_pos List.mem_cons_self,
        List.append_nil]
    · have hother : ofNetwork (f.ofNetwork j) i = [] :=
        ofNetwork_eq_nil fun v hv hi => hij (hi.symm.trans (index_of_mem_ofNetwork hv))
      simp [hother, hij]

/-- At every index, a report has what was found there. -/
theorem ofNetwork_grouped (f : Findings) (i : Int) : ofNetwork f.grouped i = f.ofNetwork i := by
  rw [grouped, ofNetwork_flatMap_ofNetwork (nodup_indices f)]
  split
  · rfl
  · rename_i hi
    refine (ofNetwork_eq_nil fun v hv hindex => hi ?_).symm
    exact mem_indices_iff.mpr ⟨v, hv, hindex⟩

theorem ascending_grouped (f : Findings) :
    f.grouped.Pairwise fun v w => v.index ≤ w.index := by
  rw [grouped, List.pairwise_flatMap]
  constructor
  · intro i _
    apply List.pairwise_of_forall_mem_list
    intro v hv w hw
    rw [index_of_mem_ofNetwork hv, index_of_mem_ofNetwork hw]
  · refine (ascending_indices f).imp fun {i j} hij v hv w hw => ?_
    rw [index_of_mem_ofNetwork hv, index_of_mem_ofNetwork hw]
    exact hij

/-- **A report is in the stable order** of the indices. -/
theorem isStableOrder_grouped (f : Findings) : IsStableOrder f f.grouped where
  perm := perm_of_ofNetwork (ofNetwork_grouped f)
  ascending := ascending_grouped f
  stable := ofNetwork_grouped f

/-- There is one stable order. -/
theorem IsStableOrder.eq_grouped (h : IsStableOrder f g) : g = f.grouped := by
  apply eq_of_ascending h.ascending (ascending_grouped f)
  intro i
  rw [h.stable, ofNetwork_grouped]

/-- The order of a report depends on nothing but what was found at each index. -/
theorem grouped_congr (h : ∀ i, g.ofNetwork i = f.ofNetwork i) : g.grouped = f.grouped := by
  apply eq_of_ascending (ascending_grouped g) (ascending_grouped f)
  intro i
  rw [ofNetwork_grouped, ofNetwork_grouped, h]

/-! ## The first line -/

theorem length_errors_add_length_warnings (f : Findings) :
    f.errors.length + f.warnings.length = f.length := by
  have hexclusive : f.warnings = f.filter fun v => !v.isError := by
    apply List.filter_congr
    intro v _
    unfold Violation.isWarning Violation.isError
    cases v.severity <;> rfl
  rw [hexclusive]
  exact (List.length_eq_length_filter_add Violation.isError).symm

theorem summary_congr (h : f.Perm g) : f.summary = g.summary := by
  have herrors : f.errors.length = g.errors.length := (h.filter _).length_eq
  have hwarnings : f.warnings.length = g.warnings.length := (h.filter _).length_eq
  have hindices : f.indices.length = g.indices.length := by
    rw [length_indices, length_indices, List.toFinset_eq_of_perm _ _ (h.map _)]
  rw [summary, summary, herrors, hwarnings, hindices]

/-! ## Reports -/

/-- A report depends on nothing but what was found at each index. -/
theorem report_congr (h : ∀ i, g.ofNetwork i = f.ofNetwork i) : g.report = f.report := by
  have hperm := perm_of_ofNetwork h
  unfold report
  rw [hperm.isEmpty_eq, summary_congr hperm, grouped_congr h]

theorem foldl_add (f g : Findings) : g.foldl add f = f ++ g := by
  induction g generalizing f with
  | nil => exact (List.append_nil f).symm
  | cons v rest ih =>
    rw [List.foldl_cons, ih, add, List.append_assoc, List.singleton_append]

/-- A report of findings whose positions can be shown, line by line. -/
theorem report_eq_lines (hne : f ≠ []) (hshort : ∀ v ∈ f, IsShort v.index) :
    ∃ text : Violation → String, (∀ v ∈ f, v.text = .ok (text v)) ∧
      f.report = .ok ("\n".intercalate (f.summary :: f.grouped.map fun v => "  " ++ text v)) := by
  obtain ⟨text, htext⟩ := exists_text hshort
  have hlines : f.grouped.mapM reportLine = .ok (f.grouped.map fun v => "  " ++ text v) :=
    mapM_reportLine_of_text fun v hv => htext v (mem_grouped_iff.mp hv)
  refine ⟨text, htext, ?_⟩
  rw [report, List.isEmpty_eq_false_iff.mpr hne, if_neg Bool.false_ne_true, hlines]
  rfl

/-- **A report is a stable grouping.**  Of findings whose positions can be shown, if there are any,
it has a first line and then a line for each, which is its text after two spaces: all findings,
each as often as it was found, in the stable order of the indices, of which there is only one.
The first line gives the number of errors and that of warnings, which together are all, and the
number of different indices; there are no errors exactly when the findings are valid.

So findings that agree at every index have the same report, in whatever order they were added; and
findings that are added again in the order of their report have the report that they had. -/
theorem report_is_stable (f : Findings) :
    (f ≠ [] → (∀ v ∈ f, IsShort v.index) →
      ∃ (text : Violation → String) (k m d : Nat), (∀ v ∈ f, v.text = .ok (text v)) ∧
        f.report = .ok ("\n".intercalate
          (s!"{k} error(s), {m} warning(s) in {d} network(s):" ::
            f.grouped.map fun v => "  " ++ text v)) ∧
        k = f.errors.length ∧ m = f.warnings.length ∧ k + m = f.length ∧
        (k = 0 ↔ f.isValid = true) ∧ d = (f.map (·.index)).toFinset.card) ∧
      IsStableOrder f f.grouped ∧ (∀ g, IsStableOrder f g → g = f.grouped) ∧
      (∀ g : Findings, (∀ i, g.ofNetwork i = f.ofNetwork i) → g.report = f.report) ∧
      (f.grouped.foldl add []).report = f.report := by
  refine ⟨?_, isStableOrder_grouped f, fun g => IsStableOrder.eq_grouped, fun g => report_congr, ?_⟩
  · intro hne hshort
    obtain ⟨text, htext, hreport⟩ := report_eq_lines hne hshort
    refine ⟨text, _, _, _, htext, hreport, rfl, rfl, length_errors_add_length_warnings f, ?_,
      length_indices f⟩
    rw [List.length_eq_zero_iff, isValid_iff_errors_eq_nil]
  · rw [foldl_add, List.nil_append]
    exact report_congr (ofNetwork_grouped f)

/-- Findings at two indices, of which the lower one, below zero, comes in between. -/
def interleaved : Findings :=
  [⟨.warning, "slow", "second thoughts", 3, "", ""⟩, ⟨.error, "lost", "off the map", -2, "", "url"⟩,
    ⟨.error, "slow", "third thoughts", 3, "base", ""⟩,
    ⟨.warning, "slow", "second thoughts", 3, "", ""⟩]

/-- The same findings in the order of their indices. -/
def interleavedInOrder : Findings :=
  [⟨.error, "lost", "off the map", -2, "", "url"⟩, ⟨.warning, "slow", "second thoughts", 3, "", ""⟩,
    ⟨.error, "slow", "third thoughts", 3, "base", ""⟩,
    ⟨.warning, "slow", "second thoughts", 3, "", ""⟩]

theorem isStableOrder_interleavedInOrder : IsStableOrder interleaved interleavedInOrder where
  perm := by decide
  ascending := by decide
  stable i := by
    by_cases hlow : (-2 : Int) = i
    · subst hlow
      rfl
    · by_cases hhigh : (3 : Int) = i
      · subst hhigh
        rfl
      · simp [ofNetwork, interleaved, interleavedInOrder, hlow, hhigh]

theorem interleaved_report : interleaved ≠ [] ∧ (∀ v ∈ interleaved, IsShort v.index) ∧
    (∃ text : Violation → String, (∀ v ∈ interleaved, v.text = .ok (text v)) ∧
      interleaved.report = .ok ("\n".intercalate ("2 error(s), 2 warning(s) in 2 network(s):" ::
        interleavedInOrder.map fun v => "  " ++ text v))) ∧
    interleavedInOrder.report = interleaved.report := by
  have hne : interleaved ≠ [] := by decide
  have hshort : ∀ v ∈ interleaved, IsShort v.index := by
    have hpositions : IsShort 3 ∧ IsShort (-2) := by decide
    simp [interleaved, hpositions]
  obtain ⟨hreport, -, horder, hagree, -⟩ := report_is_stable interleaved
  obtain ⟨text, k, m, d, htext, hlines, rfl, rfl, -, -, rfl⟩ := hreport hne hshort
  rw [← horder interleavedInOrder isStableOrder_interleavedInOrder] at hlines
  exact ⟨hne, hshort, ⟨text, htext, hlines⟩,
    hagree interleavedInOrder isStableOrder_interleavedInOrder.stable⟩

end Findings

end ProviderBindings
