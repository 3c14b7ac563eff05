import ProviderBindings.Check.Violation

/-! # Findings

All violations found in one manifest, in the order in which they were found, and
the report of them. The checks of single networks and the checks across networks
run one after the other; the report brings together what they say of one network,
by its index. -/
namespace ProviderBindings

/-- The violations found, in order. -/
abbrev Findings := List Violation

namespace Findings

/-- The errors among the findings. -/
def errors (f : Findings) : List Violation := f.filter Violation.isError

/-- The warnings among the findings. -/
def warnings (f : Findings) : List Violation := f.filter Violation.isWarning

/-- The findings with one more. -/
def add (f : Findings) (v : Violation) : Findings := f ++ [v]

/-- Whether a manifest with these findings is valid: there is no error among them. -/
def isValid (f : Findings) : Bool := !f.any Violation.isError

/-- The codes of the findings, in order. -/
def codes (f : Findings) : List String := f.map (·.code)

/-- What was found at one index. -/
def ofNetwork (f : Findings) (index : Int) : List Violation := f.filter (·.index == index)

/-- The indices at which something was found, each once, in ascending order. -/
def indices (f : Findings) : List Int :=
  (f.map (·.index)).eraseDups.mergeSort fun i j => decide (i ≤ j)

/-- The findings brought together by index. -/
def grouped (f : Findings) : List Violation := f.indices.flatMap f.ofNetwork

section

variable (f g : Findings)

@[simp] theorem errors_append : errors (f ++ g) = errors f ++ errors g := List.filter_append ..

@[simp] theorem warnings_append : warnings (f ++ g) = warnings f ++ warnings g :=
  List.filter_append ..

@[simp] theorem codes_append : codes (f ++ g) = codes f ++ codes g := List.map_append

@[simp] theorem ofNetwork_append (index : Int) :
    ofNetwork (f ++ g) index = ofNetwork f index ++ ofNetwork g index :=
  List.filter_append ..

theorem ofNetwork_eq_self {f : Findings} {index : Int} (h : ∀ v ∈ f, v.index = index) :
    f.ofNetwork index = f :=
  List.filter_eq_self.mpr fun v hv => beq_iff_eq.mpr (h v hv)

theorem ofNetwork_eq_nil {f : Findings} {index : Int} (h : ∀ v ∈ f, v.index ≠ index) :
    f.ofNetwork index = [] :=
  List.filter_eq_nil_iff.mpr fun v hv => mt beq_iff_eq.mp (h v hv)

@[simp] theorem isValid_append : isValid (f ++ g) = (isValid f && isValid g) := by
  simp [isValid]

theorem isValid_iff : f.isValid = true ↔ ∀ v ∈ f, v.severity ≠ .error := by
  simp [isValid, Violation.isError]

end

/-- The first line of a report, which counts the findings. -/
def summary (f : Findings) : String :=
  s!"{f.errors.length} error(s), {f.warnings.length} warning(s) in {f.indices.length} network(s):"

/-- A violation as a line of a report. -/
def reportLine (v : Violation) : Except Fault String := return "  " ++ (← v.text)

/-- The report: a count of the findings and a line for each of them, by index. -/
def report (f : Findings) : Except Fault String :=
  if f.isEmpty then return "No violations found."
  else return "\n".intercalate (f.summary :: (← f.grouped.mapM reportLine))

end Findings

end ProviderBindings
