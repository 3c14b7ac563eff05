import ProviderBindings.Proofs.Acceptance
import ProviderBindings.Proofs.ModuleReader
import ProviderBindings.Proofs.Rendering

/-! # A generated module says what its manifest says

The checks and the generator meet here.  An acceptable network is an `Entry`: a name, an
address and perhaps a bound.  From entries within the limit on digits a module is always
generated (`generate_entries`), and it is legible, because no character that the checks
let through ends a line, a literal or an identifier (`legible_contents`).  So the module
of a valid manifest is read back to its networks, in order (`read_generate`).
-/
namespace ProviderBindings

/-- What an acceptable network says. -/
structure Entry where
  name : String
  url : String
  units : Option Int
  deriving DecidableEq, Repr

namespace Entry

/-- The network that says it. -/
def network (e : Entry) : Network :=
  ⟨.string e.name, .string e.url, match e.units with | none => .absent | some k => .integer k⟩

/-- What makes the network of an entry acceptable. -/
structure Acceptable (e : Entry) : Prop where
  name : Identifier.IsName e.name
  url : IsUrl e.url
  units : ∀ k ∈ e.units, 0 < k

/-- What the module declares for an entry. -/
def declared (e : Entry) : ProviderModule.Declared := ⟨Identifier.storage e.name, e.url, e.units⟩

/-- What the module hands out for an entry. -/
def handedOut (e : Entry) : ProviderModule.HandedOut :=
  ⟨Identifier.accessor e.name, Identifier.storage e.name⟩

end Entry

/-- Acceptable networks are the networks of acceptable entries. -/
theorem exists_entries {networks : List Network} (h : ∀ n ∈ networks, n.Acceptable) :
    ∃ es : List Entry, networks = es.map Entry.network ∧ ∀ e ∈ es, e.Acceptable := by
  induction networks with
  | nil => exact ⟨[], rfl, by simp⟩
  | cons n rest ih =>
    obtain ⟨es, hes, hall⟩ := ih fun m hm => h m (List.mem_cons_of_mem n hm)
    obtain ⟨⟨name, hname, hisName⟩, ⟨url, hurl, hisUrl⟩, hunits⟩ := h n List.mem_cons_self
    -- the bound is the only field with two forms
    obtain ⟨units, hn, hpos⟩ : ∃ units, n = (⟨name, url, units⟩ : Entry).network ∧
        ∀ k ∈ units, 0 < k := by
      obtain ⟨nameValue, urlValue, unitsValue⟩ := n
      simp only at hname hurl hunits
      subst hname hurl
      rcases hunits with rfl | ⟨k, rfl, hk⟩
      · exact ⟨none, rfl, by simp⟩
      · exact ⟨some k, rfl, by simpa using hk⟩
    refine ⟨⟨name, url, units⟩ :: es, by rw [hn, hes]; rfl, ?_⟩
    intro e he
    rcases List.mem_cons.mp he with rfl | he
    · exact ⟨hisName, hisUrl, hpos⟩
    · exact hall e he

namespace ProviderModule

/-- What the module of some entries says. -/
def contents (es : List Entry) : Contents := ⟨es.map Entry.declared, es.map Entry.handedOut⟩

theorem declaration_network {e : Entry} (h : ∀ k ∈ e.units, IsShort k) :
    declaration e.network = .ok e.declared.line := by
  have hbound : boundLiteral e.network.computeUnits = .ok (unitsText e.units) := by
    cases hunits : e.units with
    | none => simp only [Entry.network, hunits]; rfl
    | some k =>
      have htext : (Value.integer k).text = .ok (String.ofList (Text.integer k)) := by
        rw [Value.text, Value.inspect, integerText_of_isShort (h k hunits)]
        all_goals simp
      simp only [Entry.network, hunits]
      rw [boundLiteral, htext]
      rfl
  exact declaration_eq_ok rfl (Value.text_string e.url) hbound

theorem accessorFunction_network (e : Entry) : accessorFunction e.network =
    .ok (accessorOf e.handedOut.accessor e.handedOut.storage) := rfl

/-- A module is generated from all entries within the limit on digits. -/
theorem generate_entries {es : List Entry} (h : ∀ e ∈ es, ∀ k ∈ e.units, IsShort k) :
    generate (es.map Entry.network) = .ok (contents es).text := by
  have hdeclarations : (es.map Entry.network).mapM declaration =
      .ok (es.map fun e => e.declared.line) := by
    rw [List.mapM_map]
    exact Attempt.mapM_eq_ok fun e he => declaration_network (h e he)
  have haccessors : (es.map Entry.network).mapM accessorFunction =
      .ok (es.map fun e => accessorOf e.handedOut.accessor e.handedOut.storage) := by
    rw [List.mapM_map]
    exact Attempt.mapM_eq_ok fun e _ => accessorFunction_network e
  refine generate_eq_ok_iff.mpr ⟨_, _, ⟨hdeclarations, haccessors⟩, ?_⟩
  rw [Contents.text, contents, List.map_map, List.map_map]
  rfl

/-- A module is generated only from bounds within the limit on digits. -/
theorem isShort_of_generate {networks : List Network} {text : String}
    (h : generate networks = .ok text) :
    ∀ n ∈ networks, ∀ k : Int, n.computeUnits = .integer k → IsShort k := by
  obtain ⟨declarations, accessors, hrendered, -⟩ := generate_eq_ok_iff.mp h
  intro n hn k hk
  obtain ⟨d, hd⟩ := Attempt.exists_of_mapM_eq_ok hrendered.declared n hn
  obtain ⟨name, url, bound, -, -, hbound, -⟩ := declaration_eq_ok_iff.mp hd
  rw [hk] at hbound
  obtain ⟨digits, hdigits, -⟩ := Attempt.bind_eq_ok_iff.mp hbound
  by_contra hlong
  have herror : (Value.integer k).text = .error .integerTooLong := by
    rw [Value.text, Value.inspect, integerText_of_not_isShort hlong]
    all_goals simp
  rw [herror] at hdigits
  cases hdigits

/-- What the checks let through ends no line and no part of one. -/
theorem legible_contents {es : List Entry} (h : ∀ e ∈ es, e.Acceptable) :
    (contents es).Legible := by
  constructor
  · intro d hd
    obtain ⟨e, he, rfl⟩ := List.mem_map.mp hd
    have hcapital := Identifier.isCapital_storage (h e he).name
    have hurl := (h e he).url.chars
    exact {
      colon := fun hmem => absurd (hcapital _ hmem) (by decide)
      storageLine := fun hmem => absurd (hcapital _ hmem) (by decide)
      quote := fun hmem => (hurl _ hmem).1 rfl
      urlLine := fun hmem => (hurl _ hmem).2.2.1 rfl
      units := (h e he).units }
  · intro f hf
    obtain ⟨e, he, rfl⟩ := List.mem_map.mp hf
    have hcapital := Identifier.isCapital_storage (h e he).name
    have hsmall := Identifier.isSmall_accessor (h e he).name
    exact {
      parenthesis := fun hmem => absurd (hsmall _ hmem) (by decide)
      accessorLine := fun hmem => absurd (hsmall _ hmem) (by decide)
      dot := fun hmem => absurd (hcapital _ hmem) (by decide)
      storageLine := fun hmem => absurd (hcapital _ hmem) (by decide) }

/-! ## The contents of a manifest -/

/-- The bound that a value is: none, or an integer. -/
def units? : Value → Option (Option Int)
  | .absent => some none
  | .integer k => some (some k)
  | _ => none

/-- What is declared for a network whose fields are of the kinds they should be. -/
def declared? (n : Network) : Option Declared :=
  match n.name, n.url, units? n.computeUnits with
  | .string name, .string url, some units => some ⟨Identifier.storage name, url, units⟩
  | _, _, _ => none

/-- What is handed out for a network whose name is a string. -/
def handedOut? (n : Network) : Option HandedOut :=
  n.name.string?.map fun name => ⟨Identifier.accessor name, Identifier.storage name⟩

/-- The entry that a network is, if its fields are of the kinds they should be. -/
def entry? (n : Network) : Option Entry :=
  match n.name, n.url, units? n.computeUnits with
  | .string name, .string url, some units => some ⟨name, url, units⟩
  | _, _, _ => none

theorem network_of_entry? {n : Network} {e : Entry} (h : entry? n = some e) : e.network = n := by
  obtain ⟨name, url, units⟩ := n
  unfold entry? at h
  split at h
  · rename_i hname hurl hunits
    cases hname
    cases hurl
    cases h
    cases units <;> cases hunits <;> rfl
  · cases h

theorem map_network_of_mapM_entry? {networks : List Network} {es : List Entry}
    (h : networks.mapM entry? = some es) : es.map Entry.network = networks := by
  induction networks generalizing es with
  | nil =>
    cases h
    rfl
  | cons n rest ih =>
    rw [List.mapM_cons] at h
    obtain ⟨e, he, h⟩ := Option.bind_eq_some_iff.mp h
    obtain ⟨others, hothers, h⟩ := Option.bind_eq_some_iff.mp h
    cases h
    rw [List.map_cons, network_of_entry? he, ih hothers]

theorem declared?_network (e : Entry) : declared? e.network = some e.declared := by
  obtain ⟨name, url, _ | k⟩ := e <;> rfl

/-- The module of a valid manifest is that of its entries. -/
theorem exists_contents {networks : List Network} {findings : Findings}
    (hchecked : Check.all networks = .ok findings) (hvalid : findings.isValid = true)
    (hshort : ∀ n ∈ networks, ∀ k : Int, n.computeUnits = .integer k → IsShort k) :
    ∃ c : Contents, generate networks = .ok c.text ∧ c.Legible ∧
      networks.map declared? = c.declared.map some ∧
        networks.map handedOut? = c.handedOut.map some := by
  obtain ⟨es, rfl, hes⟩ :=
    exists_entries ((Check.isValid_iff_acceptable hchecked).mp hvalid).fields
  have hunits : ∀ e ∈ es, ∀ k ∈ e.units, IsShort k := by
    intro e he k hk
    refine hshort e.network (List.mem_map_of_mem he) k ?_
    rw [Entry.network, hk]
  refine ⟨contents es, generate_entries hunits, legible_contents hes, ?_, ?_⟩
  · rw [contents, List.map_map, List.map_map]
    exact List.map_congr_left fun e _ => declared?_network e
  · rw [contents, List.map_map, List.map_map]
    rfl

/-- **The module of a valid manifest is read back to it.**  A module is generated; it has
twelve lines and five for each network, in the order of `Contents.lines`; and reading it
gives for each network in turn its provider's identifier, its address and its bound, and
an accessor of its own that returns a clone of that provider.  So two valid manifests with
one module agree on all of these, position by position. -/
theorem read_generate {networks : List Network} {findings : Findings}
    (hchecked : Check.all networks = .ok findings) (hvalid : findings.isValid = true)
    (hshort : ∀ n ∈ networks, ∀ k : Int, n.computeUnits = .integer k → IsShort k) :
    ∃ (text : String) (c : Contents), generate networks = .ok text ∧
      (text = String.join (c.lines.map line) ∧ c.lines.length = 12 + 5 * networks.length ∧
        ∀ l ∈ c.lines, '\n' ∉ l.toList) ∧
      (read text = some c ∧ networks.map declared? = c.declared.map some ∧
        networks.map handedOut? = c.handedOut.map some) ∧
      ∀ (others : List Network) (found : Findings), Check.all others = .ok found →
        found.isValid = true → generate others = .ok text →
          others.map declared? = networks.map declared? := by
  obtain ⟨c, hgenerate, hlegible, hdeclared, hhandedOut⟩ :=
    exists_contents hchecked hvalid hshort
  have hlength : c.declared.length = networks.length := by
    simpa using (congrArg List.length hdeclared).symm
  have hlength' : c.handedOut.length = networks.length := by
    simpa using (congrArg List.length hhandedOut).symm
  refine ⟨c.text, c, hgenerate,
    ⟨c.text_eq_join_lines, ?_, hlegible.newline_not_mem⟩,
    ⟨hlegible.read_text, hdeclared, hhandedOut⟩, ?_⟩
  · rw [c.length_lines, hlength, hlength']
    omega
  · -- both manifests have contents, and one text has one reading
    intro others found hothers hfound hsame
    obtain ⟨d, hgenerate', hlegible', hdeclared', -⟩ :=
      exists_contents hothers hfound (isShort_of_generate hsame)
    have htext : d.text = c.text := Except.ok.inj (hgenerate'.symm.trans hsame)
    have hd : d = c := Option.some.inj (by rw [← hlegible'.read_text, htext, hlegible.read_text])
    rw [hdeclared', hd, hdeclared]

/-- Two networks with much that the checks let through: ligatures in a name, and in an
address what looks like the rest of a declaration. -/
def declarationInUrl : List Network :=
  [⟨.string "ﬆraße", .string "https://one.example/), None).expect(: '#", .integer 660⟩,
   ⟨.string "_2", .string "https://two.example/\t£", .absent⟩]

theorem read_declarationInUrl : Check.all declarationInUrl = .ok [] ∧ Findings.isValid [] = true ∧
    (∀ n ∈ declarationInUrl, ∀ k : Int, n.computeUnits = .integer k → IsShort k) ∧
    ∃ (text : String) (c : Contents), generate declarationInUrl = .ok text ∧
      (text = String.join (c.lines.map line) ∧ c.lines.length = 12 + 5 * declarationInUrl.length ∧
        ∀ l ∈ c.lines, '\n' ∉ l.toList) ∧
      (read text = some c ∧ declarationInUrl.map declared? = c.declared.map some ∧
        declarationInUrl.map handedOut? = c.handedOut.map some) ∧
      ∀ (others : List Network) (found : Findings), Check.all others = .ok found →
        found.isValid = true → generate others = .ok text →
          others.map declared? = declarationInUrl.map declared? := by
  have hchecked : Check.all declarationInUrl = .ok [] := rfl
  have hvalid : Findings.isValid [] = true := rfl
  have hshort : ∀ n ∈ declarationInUrl, ∀ k : Int, n.computeUnits = .integer k → IsShort k := by
    have h : IsShort 660 := by decide
    simp [declarationInUrl, h]
  exact ⟨hchecked, hvalid, hshort, read_generate hchecked hvalid hshort⟩

end ProviderModule

end ProviderBindings
