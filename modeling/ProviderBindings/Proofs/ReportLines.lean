import Mathlib.Algebra.BigOperators.Group.List.Basic
import Mathlib.Algebra.GroupWithZero.Nat
import ProviderBindings.Proofs.CaseMoves
import ProviderBindings.Proofs.CaseVariants
import ProviderBindings.Proofs.PrintableText
import ProviderBindings.Proofs.StableReport

/-! # The lines of a report

A report has a first line and then one for each violation, as far as it goes by what the checks
write themselves.  What they show of a manifest is quoted, and a quoted text is on one line.  Only
names stand in a report as they are: the name of the network at fault in its place, and, where a
name is repeated, the identifier that is derived from it, too.  So a report has as many lines more
as there are ends of lines in these (`Check.report_lines`).

A name with an end of line in it derives no identifier, so that it is always reported.  Hence a
report has one line for each violation exactly when no name in the manifest has an end of line.
-/
namespace ProviderBindings

namespace Text

/-- The number of ends of lines in a text. -/
def lineEnds (text : String) : Nat := text.toList.count '\n'

/-- The lines of a text. -/
def lines (text : String) : List (List Char) := text.toList.splitOn '\n'

theorem lineEnds_append (s t : String) : lineEnds (s ++ t) = lineEnds s + lineEnds t := by
  rw [lineEnds, String.toList_append, List.count_append]
  rfl

theorem lineEnds_eq_zero_iff {text : String} : lineEnds text = 0 ↔ '\n' ∉ text.toList :=
  List.count_eq_zero

theorem AllPrintable.lineEnds_eq {text : String} (h : AllPrintable text.toList) :
    lineEnds text = 0 :=
  lineEnds_eq_zero_iff.mpr h.newline_not_mem

theorem length_lines (text : String) : (lines text).length = lineEnds text + 1 := by
  unfold lines lineEnds
  induction text.toList with
  | nil => rfl
  | cons c rest ih =>
    rw [List.splitOn_cons_eq_if_modifyHead, List.count_cons]
    split
    · rw [List.length_cons, ih]
    · rw [List.length_modifyHead, ih, Nat.add_zero]

theorem lines_of_not_mem {text : String} (h : '\n' ∉ text.toList) : lines text = [text.toList] :=
  List.splitOn_eq_singleton h

/-- Texts that are put together line by line have the lines of each. -/
theorem lines_intercalate {texts : List String} (h : texts ≠ []) :
    lines ("\n".intercalate texts) = texts.flatMap lines := by
  unfold lines
  rw [String.toList_intercalate]
  induction texts with
  | nil => exact absurd rfl h
  | cons t rest ih =>
    cases rest with
    | nil => simp
    | cons u others =>
      have hrest := ih (List.cons_ne_nil u others)
      rw [List.map_cons] at hrest
      rw [List.map_cons, List.map_cons, List.intercalate_cons_cons, List.append_assoc,
        show "\n".toList = ['\n'] from rfl, List.singleton_append, List.splitOn_append_cons_self,
        List.flatMap_cons, ← hrest]
      rfl

/-- Upper case neither makes an end of line nor changes one. -/
theorem count_upper_newline (text : List Char) : (upper text).count '\n' = text.count '\n' := by
  have hmade : (10 : Nat) ∉ upperMade := by decide +kernel
  have hchanged : InUpper '\n' := by
    unfold InUpper
    decide +kernel
  induction text with
  | nil => rfl
  | cons c rest ih =>
    have hchar : (upperChar c).count '\n' = [c].count '\n' := by
      by_cases hc : c = '\n'
      · rw [hc, upperChar_of_inUpper hchanged]
      · rw [List.count_eq_zero.mpr, List.count_eq_zero.mpr]
        · simpa using Ne.symm hc
        · intro hmem
          rcases mem_upperMade_of_mem_upperChar hmem with ⟨rfl, -⟩ | h
          · exact hc rfl
          · exact hmade h
    rw [upper, List.flatMap_cons, List.count_append, hchar, ← upper, ih, ← List.count_append,
      List.singleton_append]

end Text

open Text

theorem Identifier.lineEnds_storage (name : String) :
    lineEnds (storage name) = lineEnds name := by
  have hending : storageEnding.toList.count '\n' = 0 := by decide
  rw [lineEnds, storage_toList, List.count_append, count_upper_newline, hending]
  rfl

/-! ## Violations as the checks word them -/

namespace Violation

/-- Whether a violation is worded in such a way that names alone can bring ends of lines into it:
the message has none, or, where a name is repeated, those of the name. -/
structure IsWorded (v : Violation) : Prop where
  field : AllPrintable v.field.toList
  message : lineEnds v.message = if v.code = Code.duplicateName then lineEnds v.network else 0

/-- The ends of lines that a violation has from the name of its network, which it shows once, and
twice where the name is repeated. -/
def nameLineEnds (v : Violation) : Nat :=
  (if v.code = Code.duplicateName then 2 else 1) * lineEnds v.network

theorem allPrintable_label (field : Network.Field) : AllPrintable field.label.toList := by
  cases field <;> exact .of_visible rfl

theorem IsWorded.of_printable {n : Network} {index : Nat} {severity : Severity} {code : String}
    {field : Network.Field} {message : String} (hcode : code ≠ Code.duplicateName)
    (hmessage : AllPrintable message.toList) :
    (n.violation index severity code field message).IsWorded :=
  ⟨allPrintable_label field, hmessage.lineEnds_eq.trans (if_neg hcode).symm⟩

theorem lineEnds_location {v : Violation} {location : String} (h : v.location = .ok location)
    (hfield : AllPrintable v.field.toList) : lineEnds location = lineEnds v.network := by
  obtain ⟨index, hindex, h⟩ := Attempt.bind_eq_ok_iff.mp h
  cases h
  have hplace : lineEnds index = 0 := (allPrintable_integerText hindex).lineEnds_eq
  have hfield : lineEnds (if v.field = "" then "" else "." ++ v.field) = 0 := by
    split
    · rfl
    · rw [lineEnds_append, hfield.lineEnds_eq]
      rfl
  have hnetwork : lineEnds (if v.network = "" then "" else " (" ++ v.network ++ ")") =
      lineEnds v.network := by
    split
    · rename_i hempty
      rw [hempty]
    · rw [lineEnds_append, lineEnds_append, show lineEnds " (" = 0 from rfl,
        show lineEnds ")" = 0 from rfl, Nat.zero_add, Nat.add_zero]
  rw [lineEnds_append, lineEnds_append, lineEnds_append, lineEnds_append, hplace, hfield, hnetwork,
    show lineEnds "networks[" = 0 from rfl, show lineEnds "]" = 0 from rfl, Nat.zero_add]

/-- What a violation shows with an end of line in it is the name of its network. -/
theorem IsWorded.lineEnds_text {v : Violation} (hv : v.IsWorded) {text : String}
    (h : v.text = .ok text) : lineEnds text = v.nameLineEnds := by
  obtain ⟨location, hlocation, h⟩ := Attempt.bind_eq_ok_iff.mp h
  cases h
  have hlabel : lineEnds v.severity.label = 0 := by
    cases v.severity <;> rfl
  rw [lineEnds_append, lineEnds_append, lineEnds_append, lineEnds_append, hlabel,
    lineEnds_location hlocation hv.field, hv.message, show lineEnds " " = 0 from rfl,
    show lineEnds ": " = 0 from rfl, nameLineEnds]
  split <;> omega

/-- A violation begins with its severity and the word before a position. -/
theorem prefix_of_text {v : Violation} {text : String} (h : v.text = .ok text) :
    (v.severity.label ++ " networks[").toList <+: text.toList := by
  obtain ⟨location, hlocation, h⟩ := Attempt.bind_eq_ok_iff.mp h
  cases h
  obtain ⟨index, -, hlocation⟩ := Attempt.bind_eq_ok_iff.mp hlocation
  cases hlocation
  simp only [show " networks[" = " " ++ "networks[" from rfl, String.toList_append,
    List.append_assoc, List.prefix_append_right_inj]
  exact List.prefix_append _ _

end Violation

/-! ## What the checks find -/

namespace Network

variable {n : Network} {index : Nat} {f : Findings}

theorem isWorded_findingsOnName (h : n.findingsOnName index = .ok f) : ∀ v ∈ f, v.IsWorded := by
  unfold findingsOnName at h
  cases hname : n.name with
  | string name =>
    simp only [hname] at h
    by_cases hempty : name = ""
    · rw [if_pos hempty] at h
      obtain ⟨url, hurl, hf⟩ := Attempt.bind_eq_ok_iff.mp h
      cases hf
      refine List.forall_mem_singleton.mpr (.of_printable (by decide) ?_)
      exact .append_toList (.append_toList (.of_visible rfl) (Value.allPrintable_inspect _ hurl))
        (.of_visible rfl)
    · rw [if_neg hempty] at h
      split at h
      · cases h
        simp
      · cases h
        refine List.forall_mem_singleton.mpr (.of_printable (by decide) ?_)
        exact .append_toList (.append_toList (.append_toList (.append_toList (.append_toList
          (.of_visible rfl) (allPrintable_quoted _)) (.of_visible rfl)) (allPrintable_quoted _))
            (.of_visible rfl)) (.of_visible rfl)
  | _ =>
    simp only [hname] at h
    obtain ⟨text, htext, hf⟩ := Attempt.bind_eq_ok_iff.mp h
    cases hf
    refine List.forall_mem_singleton.mpr (.of_printable (by decide) ?_)
    exact .append_toList (.of_visible rfl) (Value.allPrintable_inspect _ htext)

theorem isWorded_findingsOnUrl (h : n.findingsOnUrl index = .ok f) : ∀ v ∈ f, v.IsWorded := by
  unfold findingsOnUrl at h
  cases hurl : n.url with
  | string url =>
    simp only [hurl] at h
    split at h
    · cases h
      exact List.forall_mem_singleton.mpr (.of_printable (by decide) (.of_visible rfl))
    · split at h
      · cases h
        refine List.forall_mem_singleton.mpr (.of_printable (by decide) ?_)
        exact .append_toList (.append_toList (.of_visible rfl) (allPrintable_quoted _))
          (.of_visible rfl)
      · cases h
        simp
  | _ =>
    simp only [hurl] at h
    obtain ⟨text, htext, hf⟩ := Attempt.bind_eq_ok_iff.mp h
    cases hf
    refine List.forall_mem_singleton.mpr (.of_printable (by decide) ?_)
    exact .append_toList (.of_visible rfl) (Value.allPrintable_inspect _ htext)

theorem isWorded_findingsOnComputeUnits (h : n.findingsOnComputeUnits index = .ok f) :
    ∀ v ∈ f, v.IsWorded := by
  unfold findingsOnComputeUnits at h
  split at h
  · cases h
    simp
  · obtain ⟨text, htext, hf⟩ := Attempt.bind_eq_ok_iff.mp h
    cases hf
    refine List.forall_mem_singleton.mpr (.of_printable (by decide) ?_)
    exact .append_toList (.of_visible rfl) (Value.allPrintable_inspect _ htext)

theorem isWorded_findingsOnFields (h : n.findingsOnFields index = .ok f) :
    ∀ v ∈ f, v.IsWorded := by
  obtain ⟨byName, hname, h⟩ := Attempt.bind_eq_ok_iff.mp h
  obtain ⟨byUrl, hurl, h⟩ := Attempt.bind_eq_ok_iff.mp h
  obtain ⟨byUnits, hunits, h⟩ := Attempt.bind_eq_ok_iff.mp h
  cases h
  intro v hv
  rcases List.mem_append.mp hv with hv | hv
  · rcases List.mem_append.mp hv with hv | hv
    · exact isWorded_findingsOnName hname v hv
    · exact isWorded_findingsOnUrl hurl v hv
  · exact isWorded_findingsOnComputeUnits hunits v hv

end Network

namespace Check

variable {networks : List Network} {findings : Findings}

theorem isWorded_fieldsFrom {index : Nat} {f : Findings} (h : fieldsFrom index networks = .ok f) :
    ∀ v ∈ f, v.IsWorded := by
  induction networks generalizing index f with
  | nil =>
    cases h
    simp
  | cons n rest ih =>
    obtain ⟨here, there, hhere, hthere, rfl⟩ := fieldsFrom_cons_eq_ok_iff.mp h
    intro v hv
    rcases List.mem_append.mp hv with hv | hv
    · exact Network.isWorded_findingsOnFields hhere v hv
    · exact ih hthere v hv

/-- What is said of a repeated name shows its identifier as it is. -/
theorem lineEnds_collision (firstName key : String) (first : Nat) :
    lineEnds s!"Name collides with {quoted firstName} at networks[{first}] (both derive {key})" =
      lineEnds key := by
  have hstart : lineEnds ("Name collides with " ++ quoted firstName ++ " at networks[" ++
      toString first ++ "] (both derive ") = 0 := by
    refine AllPrintable.lineEnds_eq (.append_toList (.append_toList ?_ (allPrintable_toString first))
      (.of_visible rfl))
    exact .append_toList (.append_toList (.of_visible rfl) (allPrintable_quoted firstName))
      (.of_visible rfl)
  calc lineEnds s!"Name collides with {quoted firstName} at networks[{first}] (both derive {key})"
      = lineEnds ("Name collides with " ++ quoted firstName ++ " at networks[" ++
          toString first ++ "] (both derive " ++ key ++ ")") := rfl
    _ = lineEnds key := by
      rw [lineEnds_append, lineEnds_append, hstart, Nat.zero_add]
      rfl

theorem isWorded_repeatedName (seen : List (String × Nat × String)) (n : Network) (index : Nat) :
    ∀ v ∈ (repeatedName seen n index).1, v.IsWorded := by
  unfold repeatedName
  dsimp only
  split
  · simp
  · split
    · refine List.forall_mem_singleton.mpr ⟨Violation.allPrintable_label .name, ?_⟩
      exact (lineEnds_collision _ _ _).trans (Identifier.lineEnds_storage _)
    · simp

theorem isWorded_repeatedUrl (seen : List (String × Nat)) (n : Network) (index : Nat) :
    ∀ v ∈ (repeatedUrl seen n index).1, v.IsWorded := by
  unfold repeatedUrl
  dsimp only
  split
  · simp
  · split
    · refine List.forall_mem_singleton.mpr (.of_printable (by decide) ?_)
      exact .append_toList (.append_toList (.append_toList (.append_toList (.of_visible rfl)
        (allPrintable_quoted _)) (.of_visible rfl)) (allPrintable_toString _)) (.of_visible rfl)
    · simp

theorem isWorded_repetitionsFrom (seen : Seen) (index : Nat) (networks : List Network) :
    ∀ v ∈ repetitionsFrom seen index networks, v.IsWorded := by
  induction networks generalizing seen index with
  | nil => simp [repetitionsFrom]
  | cons n rest ih =>
    intro v hv
    rw [repetitionsFrom, List.mem_append, List.mem_append] at hv
    rcases hv with (hv | hv) | hv
    · exact isWorded_repeatedName _ _ _ v hv
    · exact isWorded_repeatedUrl _ _ _ v hv
    · exact ih _ _ v hv

/-- **Everything that is found is worded** so that names alone bring ends of lines into it. -/
theorem isWorded_of_mem_all (h : Check.all networks = .ok findings) : ∀ v ∈ findings, v.IsWorded := by
  obtain ⟨byFields, hfields, rfl⟩ := all_eq_ok_iff.mp h
  intro v hv
  rcases List.mem_append.mp hv with hv | hv
  · exact isWorded_fieldsFrom hfields v hv
  · exact isWorded_repetitionsFrom _ _ _ v hv

/-- Names with an end of line are reported, and no other names have one. -/
theorem exists_newline_iff (h : Check.all networks = .ok findings) :
    (∃ v ∈ findings, '\n' ∈ v.network.toList) ↔
      ∃ n ∈ networks, ∃ name, n.name = .string name ∧ '\n' ∈ name.toList := by
  constructor
  · rintro ⟨v, hv, hnewline⟩
    obtain ⟨i, n, severity, code, field, message, hn, rfl⟩ := of_mem_all h hv
    refine ⟨n, List.mem_of_getElem? hn, ?_⟩
    cases hname : n.name with
    | string name =>
      refine ⟨name, rfl, ?_⟩
      simpa [Network.violation, Network.nameOrEmpty, hname] using hnewline
    | _ => simp [Network.violation, Network.nameOrEmpty, hname, Value.string?] at hnewline
  · rintro ⟨n, hn, name, hname, hnewline⟩
    obtain ⟨byFields, hfields, rfl⟩ := all_eq_ok_iff.mp h
    -- no character of a name that derives an identifier ends a line
    have hcode : Network.nameCode? n.name ≠ none := by
      intro hnone
      have hisName := Network.isName_of_nameCode? hname hnone
      exact absurd (hisName.chars '\n' hnewline) (by decide)
    obtain ⟨code, hcode⟩ := Option.ne_none_iff_exists'.mp hcode
    obtain ⟨i, hi⟩ := List.mem_iff_getElem?.mp hn
    obtain ⟨found, hfound, hmem⟩ := exists_findingsOnFields hfields hi
    obtain ⟨message, hv⟩ := Network.exists_mem_of_nameCode? hfound hcode
    refine ⟨_, List.mem_append_left _ (hmem _ hv), ?_⟩
    simpa [Network.violation, Network.nameOrEmpty, hname] using hnewline

end Check

/-! ## Reports -/

namespace Findings

variable {f : Findings}

theorem allPrintable_summary (f : Findings) : AllPrintable f.summary.toList :=
  .append_toList (.append_toList (.append_toList (.append_toList (.append_toList
    (allPrintable_toString _) (.of_visible rfl)) (allPrintable_toString _)) (.of_visible rfl))
      (allPrintable_toString _)) (.of_visible rfl)

/-- A report of findings that are worded as those of the checks: how many lines it has, and which,
if no name brings an end of line into it. -/
theorem lines_report (hne : f ≠ []) (hshort : ∀ v ∈ f, IsShort v.index)
    (hworded : ∀ v ∈ f, v.IsWorded) : ∃ report, f.report = .ok report ∧
      (lines report).length = 1 + f.length + (f.map Violation.nameLineEnds).sum ∧
      ((∀ v ∈ f, v.nameLineEnds = 0) → ∀ l ∈ (lines report).tail, ∃ v ∈ f, ∃ text,
        v.text = .ok text ∧ l = ("  " ++ text).toList) := by
  obtain ⟨text, htext, hreport⟩ := report_eq_lines hne hshort
  refine ⟨_, hreport, ?_⟩
  have hends : ∀ v ∈ f, lineEnds ("  " ++ text v) = v.nameLineEnds := by
    intro v hv
    rw [lineEnds_append, (hworded v hv).lineEnds_text (htext v hv)]
    exact Nat.zero_add _
  have hlines := lines_intercalate (List.cons_ne_nil f.summary (f.grouped.map fun v => "  " ++ text v))
  rw [List.flatMap_cons, lines_of_not_mem (allPrintable_summary f).newline_not_mem,
    List.singleton_append, List.flatMap_map] at hlines
  rw [hlines]
  constructor
  · have hperm := (isStableOrder_grouped f).perm
    have hlength : f.grouped.map (fun v => (lines ("  " ++ text v)).length) =
        f.grouped.map fun v => v.nameLineEnds + 1 := by
      apply List.map_congr_left
      intro v hv
      rw [length_lines, hends v (hperm.mem_iff.mp hv)]
    rw [List.length_cons, List.length_flatMap, hlength, (hperm.map _).sum_eq, List.sum_map_add,
      List.map_const', List.sum_replicate_nat]
    omega
  · intro hnone l hl
    rw [List.tail_cons] at hl
    obtain ⟨v, hv, hl⟩ := List.mem_flatMap.mp hl
    have hv := mem_grouped_iff.mp hv
    have hnewline := lineEnds_eq_zero_iff.mp ((hends v hv).trans (hnone v hv))
    rw [lines_of_not_mem hnewline, List.mem_singleton] at hl
    exact ⟨v, hv, text v, htext v hv, hl⟩

end Findings

namespace Check

variable {networks : List Network} {findings : Findings}

/-- **The lines of a report** on networks in which something is found.  It has one line more than
there are violations, and as many more as the names shown in violations have ends of lines: each
name counts once for every violation of its network, and twice where it is a repetition.  So there
is one line for each violation exactly when no name has an end of line, whatever else stands in the
manifest, and then each of these lines begins with a severity and a position.

A report shows the positions of networks, so these must have a text: the length of the manifest has
to be within the limit on decimal digits, as that of every list in a memory is. -/
theorem report_lines (h : Check.all networks = .ok findings) (hne : findings ≠ [])
    (hcount : IsShort networks.length) :
    ∃ report, findings.report = .ok report ∧
      (lines report).length =
        1 + findings.length + (findings.map Violation.nameLineEnds).sum ∧
      ((lines report).length = 1 + findings.length ↔
        ∀ n ∈ networks, ∀ name, n.name = .string name → '\n' ∉ name.toList) ∧
      ((∀ n ∈ networks, ∀ name, n.name = .string name → '\n' ∉ name.toList) →
        ∀ l ∈ (lines report).tail,
          "  ERROR networks[".toList <+: l ∨ "  WARNING networks[".toList <+: l) := by
  obtain ⟨report, hreport, hlength, hlines⟩ :=
    Findings.lines_report hne (isShort_index h hcount) (isWorded_of_mem_all h)
  -- the names shown are those of the manifest that have an end of line, if there are any
  have hnames : (∀ v ∈ findings, v.nameLineEnds = 0) ↔
      ∀ n ∈ networks, ∀ name, n.name = .string name → '\n' ∉ name.toList := by
    have hshown := not_congr (exists_newline_iff h)
    simp only [not_exists, not_and] at hshown
    rw [← hshown]
    refine forall₂_congr fun v _ => ?_
    rw [← lineEnds_eq_zero_iff, Violation.nameLineEnds]
    split <;> omega
  refine ⟨report, hreport, hlength, ?_, fun hnone l hl => ?_⟩
  · rw [hlength, ← hnames, Nat.add_eq_left, List.sum_eq_zero_iff_forall_eq_nat, List.forall_mem_map]
  · obtain ⟨v, -, text, htext, rfl⟩ := hlines (hnames.mpr hnone) l hl
    have hprefix := Violation.prefix_of_text htext
    rw [String.toList_append]
    cases hseverity : v.severity with
    | error =>
      rw [hseverity] at hprefix
      exact .inl ((List.prefix_append_right_inj "  ".toList).mpr hprefix)
    | warning =>
      rw [hseverity] at hprefix
      exact .inr ((List.prefix_append_right_inj "  ".toList).mpr hprefix)

/-- Two networks that derive the same identifier, with an end of line in it. -/
def newlineNames : List Network :=
  [⟨.string "a\n", .string "£", .absent⟩, ⟨.string "A\n", .string "£", .absent⟩]

/-- What is found in them. -/
def newlineNameFindings : Findings :=
  [⟨.error, Code.invalidIdentifier,
      "Name 'a\\n' derives 'A\\n_PROVIDER', which is not a valid identifier", 0, "a\n", "name"⟩,
    ⟨.error, Code.invalidIdentifier,
      "Name 'A\\n' derives 'A\\n_PROVIDER', which is not a valid identifier", 1, "A\n", "name"⟩,
    ⟨.error, Code.duplicateName,
      "Name collides with 'a\\n' at networks[0] (both derive A\n_PROVIDER)", 1, "A\n", "name"⟩,
    ⟨.warning, Code.duplicateUrl, "Url '£' is also used by networks[0]", 1, "A\n", "url"⟩]

/-- A network with ends of lines in all fields but its name. -/
def newlineElsewhere : List Network :=
  [⟨.string "'", .string "\n", .array [.table [("\r\n", .string "\n")]]⟩]

/-- What is found in it. -/
def newlineElsewhereFindings : Findings :=
  [⟨.error, Code.invalidIdentifier,
      "Name \"'\" derives \"'_PROVIDER\", which is not a valid identifier", 0, "'", "name"⟩,
    ⟨.error, Code.unsafeUrl, "Url '\\n' cannot be embedded in a string literal", 0, "'", "url"⟩,
    ⟨.error, Code.invalidComputeUnits,
      "Must be a positive integer, got [\x7b'\\r\\n': '\\n'\x7d]", 0, "'",
      "compute_units_per_second"⟩]

/-- A name can spread its violations over more lines, and nothing else can. -/
theorem newlineNames_lines : Check.all newlineNames = .ok newlineNameFindings ∧
    Check.all newlineElsewhere = .ok newlineElsewhereFindings ∧
    (∃ report, newlineNameFindings.report = .ok report ∧ (lines report).length = 10) ∧
    ∃ report, newlineElsewhereFindings.report = .ok report ∧ (lines report).length = 4 ∧
      ∀ l ∈ (lines report).tail,
        "  ERROR networks[".toList <+: l ∨ "  WARNING networks[".toList <+: l := by
  have hbroken : Check.all newlineNames = .ok newlineNameFindings :=
    Attempt.eq_ok_of_toOption (by decide +kernel)
  have hwhole : Check.all newlineElsewhere = .ok newlineElsewhereFindings :=
    Attempt.eq_ok_of_toOption (by decide +kernel)
  have hnames : ∀ n ∈ newlineElsewhere, ∀ name, n.name = .string name → '\n' ∉ name.toList := by
    rintro n hn name hname
    cases List.mem_singleton.mp hn
    cases hname
    decide
  obtain ⟨report, hreport, hlength, -, -⟩ := report_lines hbroken (by decide) (by decide)
  obtain ⟨other, hother, -, hone, hstart⟩ := report_lines hwhole (by decide) (by decide)
  exact ⟨hbroken, hwhole, ⟨report, hreport, hlength⟩, other, hother, hone.mpr hnames, hstart hnames⟩

end Check

end ProviderBindings
