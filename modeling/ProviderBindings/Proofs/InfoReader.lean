import ProviderBindings.Proofs.RoundTrip

/-! # Reading what is shown of the networks

A manifest is shown with four lines for each network, at the end of the output:

      name (url)
        compute units: 660/s
        provider:      NAME_PROVIDER
        accessor:      get_name_provider()

They are read back from the end, by someone who knows how many networks there are and nothing
else of them.  What stands before them may be of any number of lines, so that no place is sure
but the end.  The name is cut off at the first blank, and the address ends at the last
parenthesis, since it may hold others; from a bound the digits are taken as they stand.
-/
namespace ProviderBindings

open ProviderModule (skip cut skip_append cut_append line)

/-- What four lines show of a network: what the manifest says of it, and its two identifiers. -/
structure Shown where
  entry : Entry
  storage : String
  accessor : String
  deriving DecidableEq, Repr

namespace Shown

/-- What is to be shown of an entry. -/
def ofEntry (e : Entry) : Shown := ⟨e, Identifier.storage e.name, Identifier.accessor e.name⟩

/-- The declaration that what is shown lets expect. -/
def declared (s : Shown) : ProviderModule.Declared := ⟨s.storage, s.entry.url, s.entry.units⟩

/-! ## The reader -/

/-- What stands on the line of the bound before it. -/
def beforeUnits : String := "    compute units: "

/-- What is shown in place of a bound where there is none. -/
def noUnits : String := "client default"

/-- The bound that a line shows: none, or what the digits before the unit say. -/
def readUnits (text : List Char) : Option (Option Int) := do
  let shown ← skip beforeUnits text
  if shown = noUnits.toList then some none
  else
    let (digits, rest) := cut '/' shown
    let k : Int := Text.decimalValue digits
    if digits = Text.integer k ∧ rest = "/s".toList then some (some k) else none

/-- What the four lines of a network show. -/
def readBlock (head units provider accessor : List Char) : Option Shown := do
  let head ← skip "  " head
  let (name, rest) := cut ' ' head
  let url ← skip " (" rest
  let units ← readUnits units
  let storage ← skip "    provider:      " provider
  let rest ← skip "    accessor:      " accessor
  let (accessor, rest) := cut '(' rest
  if url.getLast? = some ')' ∧ rest = "()".toList then
    some ⟨⟨String.ofList name, String.ofList url.dropLast, units⟩, String.ofList storage,
      String.ofList accessor⟩
  else none

/-- What lines in blocks of four show. -/
def readBlocks : List (List Char) → Option (List Shown)
  | [] => some []
  | head :: units :: provider :: accessor :: rest =>
    return (← readBlock head units provider accessor) :: (← readBlocks rest)
  | _ => none

/-- What the last lines of an output show, four for each network.  All lines are ended. -/
def readLast (count : Nat) (output : String) : Option (List Shown) :=
  let lines := output.toList.splitOn '\n'
  if lines.getLast? = some [] ∧ 4 * count ≤ lines.dropLast.length then
    readBlocks (lines.dropLast.drop (lines.dropLast.length - 4 * count))
  else none

/-! ## The written form -/

/-- The line of the bound. -/
def unitsLine : Option Int → String
  | none => beforeUnits ++ noUnits
  | some k => beforeUnits ++ (String.ofList (Text.integer k) ++ "/s")

/-- The four lines. -/
def lines (s : Shown) : List String :=
  ["  " ++ (s.entry.name ++ " (" ++ s.entry.url ++ ")"), unitsLine s.entry.units,
    "    provider:      " ++ s.storage, "    accessor:      " ++ s.accessor ++ "()"]

/-- The text of the blocks, with every line ended. -/
def text (ss : List Shown) : String := String.join ((ss.flatMap lines).map line)

/-- What can be read back: nothing in it ends its line or the part in which it stands, and the
bound is positive. -/
structure Legible (s : Shown) : Prop where
  blank : ' ' ∉ s.entry.name.toList
  nameLine : '\n' ∉ s.entry.name.toList
  urlLine : '\n' ∉ s.entry.url.toList
  units : ∀ k ∈ s.entry.units, 0 < k
  storageLine : '\n' ∉ s.storage.toList
  parenthesis : '(' ∉ s.accessor.toList
  accessorLine : '\n' ∉ s.accessor.toList

theorem readUnits_unitsLine {units : Option Int} (h : ∀ k ∈ units, 0 < k) :
    readUnits (unitsLine units).toList = some units := by
  cases units with
  | none => rfl
  | some k =>
    have hk : 0 < k := h k rfl
    have hinteger : Text.integer k = Text.decimal k.natAbs := if_neg (by omega)
    have hdigit : ∀ c ∈ Text.integer k, c.isDigit = true := by
      rw [hinteger]
      exact fun c hc => Text.isDigit_of_mem_decimal hc
    have hvalue : ((Text.decimalValue (Text.integer k) : Nat) : Int) = k := by
      rw [hinteger, Text.decimalValue_decimal]
      omega
    have hslash : '/' ∉ Text.integer k := Text.not_mem_integer rfl (by decide) k
    -- what is shown where there is no bound begins with no digit
    have hne : Text.integer k ++ "/s".toList ≠ noUnits.toList := by
      intro heq
      rcases hdigits : Text.integer k with _ | ⟨d, rest⟩
      · rw [hdigits] at heq
        exact absurd heq (by decide)
      · have hd : d.isDigit = true := hdigit d (hdigits ▸ List.mem_cons_self)
        rw [hdigits] at heq
        have hc : d = 'c' := (List.cons.inj heq).1
        rw [hc] at hd
        exact absurd hd (by decide)
    have hcut := cut_append hslash "/s" (by decide) []
    rw [List.append_nil] at hcut
    have htext : (unitsLine (some k)).toList =
        beforeUnits.toList ++ (Text.integer k ++ "/s".toList) := by
      simp only [unitsLine, String.toList_append, String.toList_ofList]
    rw [htext, readUnits, skip_append]
    simp only [Option.bind_eq_bind, Option.bind_some, if_neg hne, hcut, hvalue, and_self, if_true]

theorem readBlock_lines {s : Shown} (h : s.Legible) :
    ∃ head units provider accessor, s.lines.map String.toList = [head, units, provider, accessor] ∧
      readBlock head units provider accessor = some s := by
  refine ⟨_, _, _, _, rfl, ?_⟩
  have hhead : ("  " ++ (s.entry.name ++ " (" ++ s.entry.url ++ ")")).toList =
      "  ".toList ++ (s.entry.name.toList ++ (" (".toList ++ (s.entry.url.toList ++ [')']))) := by
    simp
  have haccessor : ("    accessor:      " ++ s.accessor ++ "()").toList =
      "    accessor:      ".toList ++ (s.accessor.toList ++ "()".toList) := by
    simp only [String.toList_append, List.append_assoc]
  have hcutAccessor := cut_append h.parenthesis "()" (by decide) []
  rw [List.append_nil] at hcutAccessor
  rw [hhead, haccessor, String.toList_append, readBlock]
  simp only [skip_append, cut_append h.blank " (" (by decide), readUnits_unitsLine h.units,
    hcutAccessor, Option.bind_eq_bind, Option.bind_some, List.getLast?_append,
    List.getLast?_singleton, Option.some_or, List.dropLast_concat, and_self, if_true,
    String.ofList_toList]

theorem readBlocks_lines {ss : List Shown} (h : ∀ s ∈ ss, s.Legible) :
    readBlocks ((ss.flatMap lines).map String.toList) = some ss := by
  induction ss with
  | nil => rfl
  | cons s rest ih =>
    obtain ⟨head, units, provider, accessor, hlines, hread⟩ :=
      readBlock_lines (h s List.mem_cons_self)
    rw [List.flatMap_cons, List.map_append, hlines]
    change readBlocks (head :: units :: provider :: accessor ::
      (rest.flatMap lines).map String.toList) = _
    rw [readBlocks, hread, ih fun s' hs' => h s' (List.mem_cons_of_mem s hs')]
    rfl

theorem newline_not_mem_unitsLine (units : Option Int) : '\n' ∉ (unitsLine units).toList := by
  cases units with
  | none => decide
  | some k =>
    have hfixed : '\n' ∉ beforeUnits.toList ∧ '\n' ∉ "/s".toList := by decide
    simp only [unitsLine, String.toList_append, String.toList_ofList, List.mem_append, not_or]
    exact ⟨hfixed.1, Text.not_mem_integer rfl (by decide) k, hfixed.2⟩

theorem newline_not_mem_lines {s : Shown} (h : s.Legible) : ∀ l ∈ s.lines, '\n' ∉ l.toList := by
  intro l hl
  rw [lines] at hl
  simp only [List.mem_cons, List.not_mem_nil, or_false] at hl
  rcases hl with rfl | rfl | rfl | rfl
  · simp [h.nameLine, h.urlLine]
  · exact newline_not_mem_unitsLine _
  · simp [h.storageLine]
  · simp [h.accessorLine]

theorem length_flatMap_lines (ss : List Shown) : (ss.flatMap lines).length = 4 * ss.length := by
  induction ss with
  | nil => rfl
  | cons s rest ih =>
    rw [List.flatMap_cons, List.length_append, ih, List.length_cons]
    simp only [lines, List.length_cons, List.length_nil]
    omega

/-- **What is shown at the end is read back**, after any lines at all. -/
theorem readLast_append {ss : List Shown} (h : ∀ s ∈ ss, s.Legible) (before : String) :
    readLast ss.length (line before ++ text ss) = some ss := by
  have hnewline : ∀ l ∈ ss.flatMap lines, '\n' ∉ l.toList := by
    intro l hl
    obtain ⟨s, hs, hl⟩ := List.mem_flatMap.mp hl
    exact newline_not_mem_lines (h s hs) l hl
  have hsplit : (line before ++ text ss).toList.splitOn '\n' =
      before.toList.splitOn '\n' ++ (ss.flatMap lines).map String.toList ++ [[]] := by
    have htext : (line before ++ text ss).toList = before.toList ++ '\n' :: (text ss).toList := by
      simp [line]
    rw [htext, List.splitOn_append_cons_self, text,
      ProviderModule.Contents.splitOn_join_lines hnewline, List.append_assoc]
  have hlength : ((ss.flatMap lines).map String.toList).length = 4 * ss.length := by
    rw [List.length_map, length_flatMap_lines]
  unfold readLast
  rw [hsplit]
  simp only [List.getLast?_append, List.getLast?_singleton, Option.some_or, List.dropLast_concat,
    List.length_append, hlength, true_and]
  rw [if_pos (by omega), Nat.add_sub_cancel, List.drop_left]
  exact readBlocks_lines h

/-- What the checks let through can be read back. -/
theorem legible_ofEntry {e : Entry} (h : e.Acceptable) : (ofEntry e).Legible := by
  have hcapital := Identifier.isCapital_storage h.name
  have hsmall := Identifier.isSmall_accessor h.name
  exact {
    blank := fun hmem => absurd (h.name.chars _ hmem) (by decide)
    nameLine := fun hmem => absurd (h.name.chars _ hmem) (by decide)
    urlLine := fun hmem => (h.url.chars _ hmem).2.2.1 rfl
    units := h.units
    storageLine := fun hmem => absurd (hcapital _ hmem) (by decide)
    parenthesis := fun hmem => absurd (hsmall _ hmem) (by decide)
    accessorLine := fun hmem => absurd (hsmall _ hmem) (by decide) }

end Shown

end ProviderBindings
