import ProviderBindings.Proofs.RunFrame
import ProviderBindings.Proofs.Utf8RoundTrip
import ProviderBindings.Proofs.WrittenLines
import ProviderBindings.Proofs.WrittenValues

/-! # A written manifest is read back

A manifest is written as a table for the output and a table of an array for each network, in
order, with one key on each line.  Whatever the path, the names and the addresses are, and for
all integers within the limit on digits, reading gives the same manifest, bounds included where
they were written and absent where they were not (`Manifest.ofBytes_written`).

What is read of it at any line, is the output and the networks up to there: `Draft.Holds`.
-/
namespace ProviderBindings

open Toml

namespace Manifest

/-- The lines for the output. -/
def outputLines (path : String) : List String :=
  [tableLine "output", pairLine "path" (basicString path)]

/-- The line for the bound of a network, if it has one. -/
def unitsLines : Option Int → List String
  | none => []
  | some k => [pairLine "compute_units_per_second" (String.ofList (Text.integer k))]

/-- The lines for a network. -/
def networkLines (e : Entry) : List String :=
  [nextTableLine "networks", pairLine "name" (basicString e.name),
    pairLine "url" (basicString e.url)] ++ unitsLines e.units

/-- The text of a manifest. -/
def written (path : String) (es : List Entry) : String :=
  ended (outputLines path ++ es.flatMap networkLines)

/-- The table that the lines for a network make. -/
def networkTable (e : Entry) : Table :=
  let t : Table := [("name", .string e.name), ("url", .string e.url)]
  match e.units with
  | none => t
  | some k => t.set "compute_units_per_second" (.integer k)

theorem network_networkTable (e : Entry) : network (.table (networkTable e)) = .ok e.network := by
  obtain ⟨name, url, _ | k⟩ := e <;> rfl

end Manifest

/-! ## What has been read -/

namespace Toml.Draft

/-- A draft holds the output and the tables of some networks, to the last of which keys are
added next. -/
structure Holds (d : Draft) (path : String) (tables : List Table) : Prop where
  output : d.tables.lookup "output" = some (.table [("path", .string path)])
  networks : d.tables.lookup "networks" =
    if tables = [] then none else some (.array (tables.map .table))
  header : tables ≠ [] → d.header = ["networks"]
  frozen : d.frozen = []

variable {d : Draft} {path : String} {tables : List Table}

theorem openNext_eq {part : String} {t : Table} (hfrozen : d.frozen = [])
    (h : addTable part d.tables = .ok t) :
    ∃ declared, d.openNext [part] = .ok { d with tables := t, declared, header := [part] } := by
  unfold openNext
  rw [if_neg (by simp [hfrozen, isFrozen])]
  refine ⟨[part] :: d.declared.filter fun k => !List.isPrefixOf [part] k, ?_⟩
  show (addTable part d.tables >>= _) = _
  rw [h, hfrozen]
  rfl

theorem add_eq {part : String} {v : Value} {t : Table} (hfrozen : d.frozen = [])
    (hv : isContainer v = false)
    (h : updateAt true (addEntry .valueOverwritten part v) d.header d.tables = .ok t) :
    d.add [part] v = .ok { d with tables := t } := by
  have hparent : d.header ++ ([part] : Key).dropLast = d.header := List.append_nil _
  unfold add
  rw [hparent]
  show (if isFrozen d.frozen d.header then _ else _) = _
  rw [if_neg (by simp [hfrozen, isFrozen])]
  show (updateAt true (addEntry .valueOverwritten part v) d.header d.tables >>= _) = _
  rw [h]
  simp only [hv]
  rfl

/-- The header of a network adds an empty table. -/
theorem Holds.openNext (h : d.Holds path tables) :
    ∃ d', d.endSection.openNext ["networks"] = .ok d' ∧ d'.Holds path (tables ++ [[]]) := by
  have hadd : addTable "networks" d.tables =
      .ok (Table.set d.tables "networks" (.array ((tables ++ [[]]).map .table))) := by
    unfold addTable
    rw [h.networks]
    by_cases hempty : tables = []
    · rw [if_pos hempty, hempty]
      rfl
    · rw [if_neg hempty, List.map_append]
      rfl
  obtain ⟨declared, hopen⟩ := @openNext_eq d.endSection "networks" _ h.frozen hadd
  refine ⟨_, hopen, ?_, ?_, fun _ => rfl, h.frozen⟩
  · rw [Table.lookup_set_of_ne d.tables (by decide)]
    exact h.output
  · rw [Table.lookup_set_self, if_neg (by simp)]

/-- A key that is new to the table of a network is added to it. -/
theorem Holds.add {t : Table} {part : String} {v : Value} (h : d.Holds path (tables ++ [t]))
    (hv : isContainer v = false) (hnew : t.lookup part = none) :
    ∃ d', d.add [part] v = .ok d' ∧ d'.Holds path (tables ++ [t.set part v]) := by
  have hheader : d.header = ["networks"] := h.header (by simp)
  have hnetworks : d.tables.lookup "networks" =
      some (.array (tables.map .table ++ [.table t])) := by
    rw [h.networks, if_neg (by simp), List.map_append]
    rfl
  have hentry : addEntry .valueOverwritten part v t = .ok (t.set part v) := by
    unfold addEntry
    rw [hnew]
  have hupdate : updateAt true (addEntry .valueOverwritten part v) d.header d.tables =
      .ok (Table.set d.tables "networks" (.array ((tables ++ [t.set part v]).map .table))) := by
    rw [hheader, updateAt, hnetworks]
    simp only [List.getLast?_append, List.getLast?_singleton, Option.some_or, updateAt, hentry,
      List.dropLast_concat, List.map_append]
    rfl
  refine ⟨_, add_eq h.frozen hv hupdate, ?_, ?_, fun _ => hheader, h.frozen⟩
  · rw [Table.lookup_set_of_ne d.tables (by decide)]
    exact h.output
  · rw [Table.lookup_set_self, if_neg (by simp)]

end Toml.Draft

/-! ## The lines -/

namespace Manifest

variable {d : Draft} {path : String} {tables : List Table}

theorem readsLine_string {d' : Draft} {part text : String} (hpart : isBare part = true)
    (h : d.add [part] (.string text) = .ok d') :
    ReadsLine d (pairLine part (basicString text)) d' := by
  refine readsLine_pair hpart ?_ (fun depth => readItem_basicString depth text) h
  exact ⟨'"', text.toList.flatMap escaped ++ ['"'], by simp [basicString], rfl⟩

theorem readsLine_integer {d' : Draft} {part : String} {k : Int} (hpart : isBare part = true)
    (hk : IsShort k) (h : d.add [part] (.integer k) = .ok d') :
    ReadsLine d (pairLine part (String.ofList (Text.integer k))) d' := by
  refine readsLine_pair hpart ?_ ?_ h
  · rw [String.toList_ofList]
    rcases integer_cases k with ⟨ds, hdigits⟩ | hdigits | ⟨c, ds, hdigits, hc, -⟩
    · exact ⟨_, _, hdigits, rfl⟩
    · exact ⟨_, _, hdigits, rfl⟩
    · refine ⟨c, ds, hdigits, ?_⟩
      rw [Bool.eq_false_iff]
      intro hblank
      rcases Bool.or_eq_true_iff.mp hblank with hblank | hblank
      · rw [beq_iff_eq.mp hblank] at hc
        exact absurd hc (by decide)
      · rw [beq_iff_eq.mp hblank] at hc
        exact absurd hc (by decide)
  · intro depth rest
    rw [String.toList_ofList]
    exact readItem_integer depth hk rest

/-- The lines for the output make its table. -/
theorem reads_outputLines (path : String) :
    ∃ d, Reads .empty (outputLines path) d ∧ d.Holds path [] := by
  have hheader : ReadsLine .empty (tableLine "output")
      ⟨[("output", .table [])], [["output"]], [], [], ["output"]⟩ :=
    readsLine_table rfl rfl
  have hpath : ReadsLine ⟨[("output", .table [])], [["output"]], [], [], ["output"]⟩
      (pairLine "path" (basicString path))
      ⟨[("output", .table [("path", .string path)])], [["output"]], [], [], ["output"]⟩ :=
    readsLine_string rfl (Draft.add_eq rfl rfl rfl)
  exact ⟨_, .cons hheader (.cons hpath .nil), rfl, rfl, fun h => absurd rfl h, rfl⟩

/-- **The lines for a network** add its table. -/
theorem reads_networkLines {e : Entry} (h : d.Holds path tables)
    (hunits : ∀ k ∈ e.units, IsShort k) :
    ∃ d', Reads d (networkLines e) d' ∧ d'.Holds path (tables ++ [networkTable e]) := by
  obtain ⟨d₁, hopen, h₁⟩ := h.openNext
  obtain ⟨d₂, hname, h₂⟩ := @Draft.Holds.add _ _ _ _ "name" (.string e.name) h₁ rfl rfl
  obtain ⟨d₃, hurl, h₃⟩ := @Draft.Holds.add _ _ _ _ "url" (.string e.url) h₂ rfl rfl
  have hlines : ∀ {d' more}, Reads d₃ more d' → Reads d ([nextTableLine "networks",
      pairLine "name" (basicString e.name), pairLine "url" (basicString e.url)] ++ more) d' :=
    fun hmore => .cons (readsLine_nextTable rfl hopen) (.cons (readsLine_string rfl hname)
      (.cons (readsLine_string rfl hurl) hmore))
  obtain ⟨name, url, _ | k⟩ := e
  · exact ⟨d₃, hlines .nil, h₃⟩
  · obtain ⟨d₄, hbound, h₄⟩ :=
      @Draft.Holds.add _ _ _ _ "compute_units_per_second" (.integer k) h₃ rfl rfl
    exact ⟨d₄, hlines (.cons (readsLine_integer rfl (hunits k rfl) hbound) .nil), h₄⟩

/-- The lines for some networks add their tables, in order. -/
theorem reads_flatMap_networkLines {es : List Entry} (h : d.Holds path tables)
    (hunits : ∀ e ∈ es, ∀ k ∈ e.units, IsShort k) :
    ∃ d', Reads d (es.flatMap networkLines) d' ∧ d'.Holds path (tables ++ es.map networkTable) := by
  induction es generalizing d tables with
  | nil => exact ⟨d, .nil, by simpa using h⟩
  | cons e rest ih =>
    obtain ⟨d₁, hread, h₁⟩ := reads_networkLines h (hunits e List.mem_cons_self)
    obtain ⟨d₂, hreads, h₂⟩ := ih h₁ fun e' he' => hunits e' (List.mem_cons_of_mem e he')
    exact ⟨d₂, hread.append hreads, by simpa using h₂⟩

/-! ## The manifest -/

/-- What a draft holds, is a manifest. -/
theorem ofTable_of_holds {es : List Entry} (h : d.Holds path (es.map networkTable)) :
    ofTable d.tables = .ok ⟨es.map Entry.network, .string path⟩ := by
  have hnetworks : elements (Table.getD d.tables "networks" (.array [])) =
      .ok ((es.map networkTable).map .table) := by
    unfold Table.getD
    rw [h.networks]
    by_cases hempty : es.map networkTable = []
    · rw [if_pos hempty, hempty]
      rfl
    · rw [if_neg hempty]
      rfl
  have htables : ((es.map networkTable).map Value.table).mapM network =
      .ok (es.map Entry.network) := by
    rw [List.map_map, List.mapM_map]
    exact Attempt.mapM_eq_ok fun e _ => network_networkTable e
  have houtput : Table.getD d.tables "output" (.table []) = .table [("path", .string path)] := by
    unfold Table.getD
    rw [h.output]
    rfl
  unfold ofTable
  rw [hnetworks, houtput]
  show (((es.map networkTable).map Value.table).mapM network >>= _) = _
  rw [htables]
  rfl

theorem return_not_mem_outputLines (path : String) :
    ∀ l ∈ outputLines path, '\r' ∉ l.toList := by
  intro l hl
  simp only [outputLines, List.mem_cons, List.not_mem_nil, or_false] at hl
  rcases hl with rfl | rfl
  · decide
  · exact return_not_mem_pairLine (by decide) (return_not_mem_basicString path)

theorem return_not_mem_unitsLines (units : Option Int) :
    ∀ l ∈ unitsLines units, '\r' ∉ l.toList := by
  intro l hl
  cases units with
  | none => cases hl
  | some k =>
    rw [List.mem_singleton.mp hl]
    refine return_not_mem_pairLine (by decide) ?_
    rw [String.toList_ofList]
    exact Text.not_mem_integer rfl (by decide) k

theorem return_not_mem_networkLines (e : Entry) : ∀ l ∈ networkLines e, '\r' ∉ l.toList := by
  intro l hl
  rcases List.mem_append.mp hl with hl | hl
  · simp only [List.mem_cons, List.not_mem_nil, or_false] at hl
    rcases hl with rfl | rfl | rfl
    · decide
    · exact return_not_mem_pairLine (by decide) (return_not_mem_basicString e.name)
    · exact return_not_mem_pairLine (by decide) (return_not_mem_basicString e.url)
  · exact return_not_mem_unitsLines e.units l hl

/-- No line end is of two characters. -/
theorem return_not_mem_written (path : String) (es : List Entry) :
    '\r' ∉ (written path es).toList := by
  refine return_not_mem_ended fun l hl => ?_
  rcases List.mem_append.mp hl with hl | hl
  · exact return_not_mem_outputLines path l hl
  · obtain ⟨e, -, hl⟩ := List.mem_flatMap.mp hl
    exact return_not_mem_networkLines e l hl

theorem ofBytes_written (path : String) {es : List Entry}
    (hunits : ∀ e ∈ es, ∀ k ∈ e.units, IsShort k) :
    ofBytes (Text.Utf8.encode (written path es).toList) =
      .ok ⟨es.map Entry.network, .string path⟩ := by
  obtain ⟨d₀, hread, h₀⟩ := reads_outputLines path
  obtain ⟨d, hreads, h⟩ := reads_flatMap_networkLines h₀ hunits
  have hdocument : document (written path es).toList = .ok d.tables := by
    unfold document parse
    rw [normalizeLineEnds_of_not_mem (return_not_mem_written path es)]
    dsimp only
    rw [written, readDocument_ended (hread.append hreads)]
    rfl
  unfold ofBytes
  rw [Text.Utf8.decode_encode]
  show (document (written path es).toList >>= _) = _
  rw [hdocument]
  exact ofTable_of_holds (by simpa using h)

/-- **A written manifest is read back.**  For every path and all networks with names and addresses
of any characters, and with or without a bound of any size within the limit on digits, the bytes
of the text are read to a manifest with that path and those networks, in order, where a bound is
absent if its line is.  So does every run that finds these bytes where it looks for the manifest. -/
theorem loads_written (path : String) {es : List Entry}
    (hunits : ∀ e ∈ es, ∀ k ∈ e.units, IsShort k) :
    let bytes := Text.Utf8.encode (written path es).toList
    let m : Manifest := ⟨es.map Entry.network, .string path⟩
    ofBytes bytes = .ok m ∧
      ∀ (config : Option Options.Given) (files : FileTree) (file : String),
        Program.manifestPath config = .ok file → files.read (.ofString file) = .ok bytes →
          Program.Loads config files m := by
  intro bytes m
  have hbytes : ofBytes bytes = .ok m := ofBytes_written path hunits
  refine ⟨hbytes, ?_⟩
  intro config files file hfile hread
  exact Program.loads_iff.mpr ⟨file, bytes, hfile, hread, hbytes⟩

/-- Networks with what has to be escaped, and characters of all lengths in bytes. -/
def escapedEntries : List Entry :=
  [⟨"\x00\"\\\n\r\x7f", "é€😀", some (-50)⟩, ⟨"", "]]\n[[networks]] # ", none⟩, ⟨"'", "=", some 0⟩]

/-- The manifest of the networks alone, under a name of its own. -/
def escapedFiles : FileTree :=
  ⟨[(["escaped.toml"], .file (Text.Utf8.encode (written "\t\"" escapedEntries).toList))]⟩

theorem loads_escapedEntries : (∀ e ∈ escapedEntries, ∀ k ∈ e.units, IsShort k) ∧
    Program.manifestPath (some (.text "escaped.toml")) = .ok "escaped.toml" ∧
    Program.Loads (some (.text "escaped.toml")) escapedFiles
      ⟨escapedEntries.map Entry.network, .string "\t\""⟩ := by
  have hunits : ∀ e ∈ escapedEntries, ∀ k ∈ e.units, IsShort k := by decide
  have hpath : Program.manifestPath (some (.text "escaped.toml")) = .ok "escaped.toml" := rfl
  obtain ⟨-, hloads⟩ := loads_written "\t\"" hunits
  exact ⟨hunits, hpath, hloads _ escapedFiles "escaped.toml" hpath rfl⟩

example : written "gen/\"x\"" [⟨"a\tb", "https://£", some (-7)⟩, ⟨"c", "", none⟩] =
    "[output]\npath = \"gen/\\\"x\\\"\"\n" ++
    "[[networks]]\nname = \"a\\u0009b\"\nurl = \"https://£\"\n" ++
    "compute_units_per_second = -7\n[[networks]]\nname = \"c\"\nurl = \"\"\n" := by
  decide +kernel

end Manifest

end ProviderBindings
