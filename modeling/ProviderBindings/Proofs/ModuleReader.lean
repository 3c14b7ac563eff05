import Mathlib.Data.List.Basic
import ProviderBindings.Proofs.Attempt
import ProviderBindings.ProviderModule

/-! # Reading a generated module back

A module is read line by line, without knowledge of what it was generated from: the
opening, declarations up to the line that closes the container, then blocks of four lines
for the accessors.  A declaration is cut at the colon after the identifier, at the
quotation marks of the address, and at `None` or `Some(...)`.

What is written is read back (`Contents.Legible.read_text`) under conditions on the parts
alone: no identifier holds the character it is cut at, no address holds a quotation mark,
no line holds an end of line, and bounds are positive.
-/
namespace ProviderBindings.ProviderModule

/-- What a declaration says of a provider: its identifier, the address it connects to, and
the bound on its work per second. -/
structure Declared where
  storage : String
  url : String
  units : Option Int
  deriving DecidableEq, Repr

/-- What an accessor function says: its own identifier, and that of the provider of which
it returns a clone. -/
structure HandedOut where
  accessor : String
  storage : String
  deriving DecidableEq, Repr

/-- What a module says, in the order of its lines. -/
structure Contents where
  declared : List Declared
  handedOut : List HandedOut
  deriving DecidableEq, Repr

/-! ## The reader -/

/-- What follows `expected` in a text that begins with it. -/
def skip (expected : String) (text : List Char) : Option (List Char) :=
  expected.toList.isPrefixOf? text

/-- A text cut before the first `mark`. -/
def cut (mark : Char) (text : List Char) : List Char × List Char :=
  (text.takeWhile (· != mark), text.dropWhile (· != mark))

/-- The bound that a text begins with, and what follows it. -/
def readUnits (text : List Char) : Option (Option Int × List Char) :=
  match skip "None" text with
  | some rest => some (none, rest)
  | none => do
    let rest ← skip "Some(" text
    let (digits, rest) := cut ')' rest
    let rest ← skip ")" rest
    return (some (Text.decimalValue digits : Int), rest)

/-- What stands in a declaration between the identifier and the address. -/
def beforeUrl : String := ": " ++ providerType ++ " = create_retry_client(\""

/-- What stands in a declaration after the bound. -/
def afterUnits : String := ").expect(\"Error creating provider\");"

/-- What a line declares. -/
def readDeclaration (text : List Char) : Option Declared := do
  let rest ← skip "    static ref " text
  let (storage, rest) := cut ':' rest
  let rest ← skip beforeUrl rest
  let (url, rest) := cut '"' rest
  let rest ← skip "\", " rest
  let (units, rest) ← readUnits rest
  if rest = afterUnits.toList then some ⟨String.ofList storage, String.ofList url, units⟩
  else none

/-- What stands in the first line of an accessor after the identifier. -/
def afterAccessor : String := "() -> " ++ providerType ++ " \x7b"

/-- What the four lines of an accessor hand out. -/
def readBlock (blank head body close : List Char) : Option HandedOut := do
  let rest ← skip "pub fn " head
  let (accessor, head) := cut '(' rest
  let rest ← skip "    " body
  let (storage, body) := cut '.' rest
  if blank = [] ∧ head = afterAccessor.toList ∧ body = ".clone()".toList ∧
      close = closing.toList then
    some ⟨String.ofList accessor, String.ofList storage⟩
  else none

/-- What lines in blocks of four hand out. -/
def readBlocks : List (List Char) → Option (List HandedOut)
  | [] => some []
  | blank :: head :: body :: close :: rest =>
    return (← readBlock blank head body close) :: (← readBlocks rest)
  | _ => none

/-- What the lines of a module say. -/
def readLines (lines : List (List Char)) : Option Contents := do
  let rest ← (opening.map String.toList).isPrefixOf? lines
  let declarations := rest.takeWhile (· != closing.toList)
  match rest.dropWhile (· != closing.toList) with
  | [] => none
  | _ :: blocks => return ⟨← declarations.mapM readDeclaration, ← readBlocks blocks⟩

/-- What a module says.  Its last line must be ended as all others are. -/
def read (text : String) : Option Contents :=
  let lines := text.toList.splitOn '\n'
  if lines.getLast? = some [] then readLines lines.dropLast else none

/-! ## Parts of lines -/

theorem skip_append (expected : String) (rest : List Char) :
    skip expected (expected.toList ++ rest) = some rest :=
  List.isPrefixOf?_eq_some_iff_append_eq.mpr rfl

/-- A text that does not hold `mark` is cut off from one that begins with it. -/
theorem cut_append {mark : Char} {text : List Char} (h : mark ∉ text) (next : String)
    (hnext : next.toList.head? = some mark) (rest : List Char) :
    cut mark (text ++ (next.toList ++ rest)) = (text, next.toList ++ rest) := by
  have hpass : ∀ c ∈ text, (c != mark) = true := by
    intro c hc
    rw [bne_iff_ne]
    rintro rfl
    exact h hc
  -- the cut stops at the mark because `next` puts it there, whatever comes after
  obtain ⟨more, hmore⟩ := List.head?_eq_some_iff.mp hnext
  rw [cut, List.takeWhile_append_of_pos hpass, List.dropWhile_append_of_pos hpass, hmore]
  simp

/-- A bound on the work per second, as a declaration shows it. -/
def unitsText : Option Int → String
  | none => "None"
  | some k => "Some(" ++ String.ofList (Text.integer k) ++ ")"

theorem readUnits_unitsText {units : Option Int} (h : ∀ k ∈ units, 0 < k) (rest : List Char) :
    readUnits ((unitsText units).toList ++ rest) = some (units, rest) := by
  cases units with
  | none =>
    rw [readUnits, unitsText, skip_append]
  | some k =>
    have hk : 0 < k := h k rfl
    -- a positive number is its digits, among which there is no parenthesis
    have hinteger : Text.integer k = Text.decimal k.natAbs := if_neg (by omega)
    have hdigits : ')' ∉ Text.decimal k.natAbs := by
      intro hmem
      exact absurd (Text.isDigit_of_mem_decimal hmem) (by decide)
    have htext : (unitsText (some k)).toList ++ rest =
        "Some(".toList ++ (Text.decimal k.natAbs ++ (")".toList ++ rest)) := by
      simp only [unitsText, hinteger, String.toList_append, String.toList_ofList,
        List.append_assoc]
    have hvalue : ((Text.decimalValue (Text.decimal k.natAbs) : Nat) : Int) = k := by
      rw [Text.decimalValue_decimal]
      omega
    rw [htext, readUnits, show skip "None" ("Some(".toList ++ _) = none from rfl]
    simp only [skip_append, cut_append hdigits ")" (by decide), Option.bind_eq_bind,
      Option.bind_some, hvalue]
    rfl

/-! ## Lines -/

theorem declarationOf_toList (storage url units : String) :
    (declarationOf storage url units).toList =
      "    static ref ".toList ++ (storage.toList ++ (beforeUrl.toList ++ (url.toList ++
        ("\", ".toList ++ (units.toList ++ afterUnits.toList))))) := by
  unfold declarationOf beforeUrl afterUnits
  simp only [String.toList_append, List.append_assoc]

theorem readDeclaration_declarationOf {storage url : String} {units : Option Int}
    (hstorage : ':' ∉ storage.toList) (hurl : '"' ∉ url.toList) (hunits : ∀ k ∈ units, 0 < k) :
    readDeclaration (declarationOf storage url (unitsText units)).toList =
      some ⟨storage, url, units⟩ := by
  rw [declarationOf_toList, readDeclaration]
  simp only [skip_append, cut_append hstorage beforeUrl (by decide),
    cut_append hurl "\", " (by decide), readUnits_unitsText hunits, Option.bind_eq_bind,
    Option.bind_some, String.ofList_toList, if_true]

/-- The lines of an accessor, between the blank one and the closing one. -/
def accessorHead (accessor : String) : String := "pub fn " ++ accessor ++ afterAccessor

/-- The line of an accessor that names the provider. -/
def accessorBody (storage : String) : String := "    " ++ storage ++ ".clone()"

theorem readBlock_eq {accessor storage : String} (haccessor : '(' ∉ accessor.toList)
    (hstorage : '.' ∉ storage.toList) :
    readBlock [] (accessorHead accessor).toList (accessorBody storage).toList closing.toList =
      some ⟨accessor, storage⟩ := by
  have hhead : (accessorHead accessor).toList =
      "pub fn ".toList ++ (accessor.toList ++ afterAccessor.toList) := by
    simp only [accessorHead, String.toList_append, List.append_assoc]
  have hbody : (accessorBody storage).toList =
      "    ".toList ++ (storage.toList ++ ".clone()".toList) := by
    simp only [accessorBody, String.toList_append, List.append_assoc]
  have hcutHead := cut_append haccessor afterAccessor (by decide) []
  have hcutBody := cut_append hstorage ".clone()" (by decide) []
  rw [List.append_nil] at hcutHead hcutBody
  rw [hhead, hbody, readBlock]
  simp only [skip_append, hcutHead, hcutBody, Option.bind_eq_bind, Option.bind_some,
    String.ofList_toList, and_self, if_true]

/-! ## The written form -/

/-- The line of a declaration. -/
def Declared.line (d : Declared) : String := declarationOf d.storage d.url (unitsText d.units)

/-- The four lines of an accessor. -/
def HandedOut.lines (h : HandedOut) : List String :=
  ["", accessorHead h.accessor, accessorBody h.storage, closing]

/-- A declaration that can be read back: nothing in it ends its line or the part in which it
stands, and its bound is positive. -/
structure Declared.Legible (d : Declared) : Prop where
  colon : ':' ∉ d.storage.toList
  storageLine : '\n' ∉ d.storage.toList
  quote : '"' ∉ d.url.toList
  urlLine : '\n' ∉ d.url.toList
  units : ∀ k ∈ d.units, 0 < k

/-- An accessor that can be read back. -/
structure HandedOut.Legible (h : HandedOut) : Prop where
  parenthesis : '(' ∉ h.accessor.toList
  accessorLine : '\n' ∉ h.accessor.toList
  dot : '.' ∉ h.storage.toList
  storageLine : '\n' ∉ h.storage.toList

/-- Contents that can be read back. -/
structure Contents.Legible (c : Contents) : Prop where
  declared : ∀ d ∈ c.declared, d.Legible
  handedOut : ∀ h ∈ c.handedOut, h.Legible

namespace Contents

/-- The lines of a module. -/
def lines (c : Contents) : List String :=
  opening ++ c.declared.map Declared.line ++ [closing] ++ c.handedOut.flatMap HandedOut.lines

/-- The text of a module. -/
def text (c : Contents) : String :=
  assemble (c.declared.map Declared.line) (c.handedOut.map fun h => accessorOf h.accessor h.storage)

theorem join_lines_handedOut (h : HandedOut) :
    String.join (h.lines.map line) = line "" ++ line (accessorOf h.accessor h.storage) := by
  unfold HandedOut.lines accessorHead accessorBody accessorOf afterAccessor line closing
  simp [String.append_assoc]

/-- The text of a module is its lines. -/
theorem text_eq_join_lines (c : Contents) : c.text = String.join (c.lines.map line) := by
  have hblocks : ∀ hs : List HandedOut, String.join ((hs.flatMap HandedOut.lines).map line) =
      String.join ((hs.map fun h => accessorOf h.accessor h.storage).map
        fun accessor => line "" ++ line accessor) := by
    intro hs
    induction hs with
    | nil => rfl
    | cons h rest ih =>
      rw [List.flatMap_cons, List.map_append, String.join_append, join_lines_handedOut, ih,
        List.map_cons, List.map_cons, String.join_cons]
  unfold text lines assemble
  rw [List.map_append, List.map_append, List.map_append, String.join_append, String.join_append,
    String.join_append, hblocks]
  simp

theorem length_lines (c : Contents) :
    c.lines.length = 12 + c.declared.length + 4 * c.handedOut.length := by
  have hblocks : ∀ hs : List HandedOut, (hs.flatMap HandedOut.lines).length = 4 * hs.length := by
    intro hs
    induction hs with
    | nil => rfl
    | cons h rest ih =>
      rw [List.flatMap_cons, List.length_append, ih, List.length_cons]
      simp only [HandedOut.lines, List.length_cons, List.length_nil]
      omega
  have hopening : opening.length = 11 := rfl
  simp only [lines, List.length_append, List.length_map, List.length_cons, List.length_nil,
    hblocks, hopening]
  omega

theorem newline_not_mem_unitsText (units : Option Int) : '\n' ∉ (unitsText units).toList := by
  cases units with
  | none => decide
  | some k =>
    have hopen : '\n' ∉ "Some(".toList := by decide
    have hclose : '\n' ∉ ")".toList := by decide
    simp only [unitsText, String.toList_append, List.mem_append, String.toList_ofList]
    rintro ((h | h) | h)
    · exact hopen h
    · exact Text.not_mem_integer rfl (by decide) k h
    · exact hclose h

theorem newline_not_mem_line {d : Declared} (h : d.Legible) : '\n' ∉ d.line.toList := by
  have hfixed : '\n' ∉ "    static ref ".toList ∧ '\n' ∉ beforeUrl.toList ∧
      '\n' ∉ "\", ".toList ∧ '\n' ∉ afterUnits.toList := by decide +kernel
  obtain ⟨hstart, hbefore, hbetween, hafter⟩ := hfixed
  rw [Declared.line, declarationOf_toList]
  simp only [List.mem_append, not_or]
  exact ⟨hstart, h.storageLine, hbefore, h.urlLine, hbetween, newline_not_mem_unitsText d.units,
    hafter⟩

theorem newline_not_mem_lines {h : HandedOut} (hh : h.Legible) :
    ∀ l ∈ h.lines, '\n' ∉ l.toList := by
  have hfixed : '\n' ∉ "pub fn ".toList ∧ '\n' ∉ afterAccessor.toList ∧
      '\n' ∉ "    ".toList ∧ '\n' ∉ ".clone()".toList := by decide +kernel
  obtain ⟨hpub, hafter, hindent, hclone⟩ := hfixed
  intro l hl
  rw [HandedOut.lines] at hl
  simp only [List.mem_cons, List.not_mem_nil, or_false] at hl
  rcases hl with rfl | rfl | rfl | rfl
  · decide
  · simp only [accessorHead, String.toList_append, List.mem_append, not_or]
    exact ⟨⟨hpub, hh.accessorLine⟩, hafter⟩
  · simp only [accessorBody, String.toList_append, List.mem_append, not_or]
    exact ⟨⟨hindent, hh.storageLine⟩, hclone⟩
  · decide

theorem Legible.newline_not_mem {c : Contents} (hc : c.Legible) :
    ∀ l ∈ c.lines, '\n' ∉ l.toList := by
  intro l hl
  rw [lines, List.mem_append, List.mem_append, List.mem_append] at hl
  rcases hl with ((hl | hl) | hl) | hl
  · exact (by decide +kernel : ∀ l ∈ opening, '\n' ∉ l.toList) l hl
  · obtain ⟨d, hd, rfl⟩ := List.mem_map.mp hl
    exact newline_not_mem_line (hc.declared d hd)
  · rw [List.mem_singleton.mp hl]
    decide
  · obtain ⟨h, hh, hl⟩ := List.mem_flatMap.mp hl
    exact newline_not_mem_lines (hc.handedOut h hh) l hl

/-- Lines that are ended one by one are split again, and what is after the last one is
empty. -/
theorem splitOn_join_lines {ls : List String} (h : ∀ l ∈ ls, '\n' ∉ l.toList) :
    (String.join (ls.map line)).toList.splitOn '\n' = ls.map String.toList ++ [[]] := by
  induction ls with
  | nil => rfl
  | cons l rest ih =>
    have hrest : ∀ m ∈ rest, '\n' ∉ m.toList := fun m hm => h m (List.mem_cons_of_mem l hm)
    have htext : (String.join ((l :: rest).map line)).toList =
        l.toList ++ '\n' :: (String.join (rest.map line)).toList := by
      simp [line]
    rw [htext, List.splitOn_append_cons_self_of_not_mem (h l List.mem_cons_self), ih hrest]
    rfl

/-! ## The round trip -/

theorem readBlocks_lines {hs : List HandedOut} (h : ∀ b ∈ hs, b.Legible) :
    readBlocks ((hs.flatMap HandedOut.lines).map String.toList) = some hs := by
  induction hs with
  | nil => rfl
  | cons b rest ih =>
    have hb := h b List.mem_cons_self
    rw [List.flatMap_cons, List.map_append, HandedOut.lines]
    change readBlocks ([] :: (accessorHead b.accessor).toList :: (accessorBody b.storage).toList ::
      closing.toList :: ((rest.flatMap HandedOut.lines).map String.toList)) = _
    rw [readBlocks, readBlock_eq hb.parenthesis hb.dot,
      ih fun b' hb' => h b' (List.mem_cons_of_mem b hb')]
    rfl

theorem mapM_readDeclaration {ds : List Declared}
    (h : ∀ d ∈ ds, readDeclaration d.line.toList = some d) :
    (ds.map fun d => d.line.toList).mapM readDeclaration = some ds := by
  induction ds with
  | nil => rfl
  | cons d rest ih =>
    rw [List.map_cons, List.mapM_cons, h d List.mem_cons_self,
      ih fun d' hd' => h d' (List.mem_cons_of_mem d hd')]
    rfl

/-- **What is written is read back.** -/
theorem Legible.read_text {c : Contents} (hc : c.Legible) : read c.text = some c := by
  have hdeclared : ∀ d ∈ c.declared, readDeclaration d.line.toList = some d := by
    intro d hd
    have hlegible := hc.declared d hd
    exact readDeclaration_declarationOf hlegible.colon hlegible.quote hlegible.units
  -- a line that declares something is not the one that closes the container
  have hopen : ∀ text ∈ c.declared.map fun d => d.line.toList, (text != closing.toList) = true := by
    intro text htext
    obtain ⟨d, hd, rfl⟩ := List.mem_map.mp htext
    rw [bne_iff_ne]
    intro hclosing
    have hread := hdeclared d hd
    rw [hclosing, show readDeclaration closing.toList = none from rfl] at hread
    cases hread
  have hlines : c.lines.map String.toList = opening.map String.toList ++
      (c.declared.map (fun d => d.line.toList) ++
        closing.toList :: (c.handedOut.flatMap HandedOut.lines).map String.toList) := by
    simp only [lines, List.map_append, List.map_map, List.append_assoc, List.map_cons,
      List.cons_append, List.nil_append]
    rfl
  have hblocks := readBlocks_lines hc.handedOut
  -- the text is split into its lines, and these at the one that closes the container
  rw [read, text_eq_join_lines, splitOn_join_lines hc.newline_not_mem]
  simp only [List.getLast?_append, List.getLast?_singleton, Option.some_or, if_true,
    List.dropLast_concat]
  rw [readLines, hlines, List.isPrefixOf?_eq_some_iff_append_eq.mpr rfl]
  simp only [Option.bind_eq_bind, Option.bind_some, List.takeWhile_append_of_pos hopen,
    List.dropWhile_append_of_pos hopen]
  rw [List.takeWhile_cons_of_neg (by simp), List.dropWhile_cons_of_neg (by simp),
    List.append_nil, mapM_readDeclaration hdeclared]
  simp only [hblocks, Option.bind_some]
  rfl

end Contents

end ProviderBindings.ProviderModule
