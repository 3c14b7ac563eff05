import ProviderBindings.Proofs.CheckFaults
import ProviderBindings.Proofs.RepetitionPairs

/-! # The order of a manifest

The verdict on a manifest does not depend on the order of its networks: the checks come to an
end or stop on one order as on any other, and they find the same codes, so that a manifest is
valid in every order or in none (`Check.verdict_of_perm`).  What is found in the fields of a
network moves with it and is otherwise the same (`Network.findingsOnFields_movedTo`).  Only
the blame for a repetition moves from one network to another, as it falls on the later one
(`Check.blamesRepeats`), and so it depends on the order (`Check.blame_depends_on_order`).
-/
namespace ProviderBindings

/-! ## Positions -/

/-- The violation at another position. -/
def Violation.movedTo (v : Violation) (index : Int) : Violation := { v with index }

namespace Network

variable (n : Network)

/-- **The checks of a single network** find the same wherever it stands. -/
theorem findingsOnFields_movedTo (i j : Nat) :
    n.findingsOnFields j =
      (n.findingsOnFields i).map fun found => found.map (·.movedTo j) := by
  have hname : n.findingsOnName j =
      (n.findingsOnName i).map fun found => found.map (·.movedTo j) := by
    unfold findingsOnName
    split
    · rename_i name hname
      by_cases hempty : name = ""
      · rw [if_pos hempty, if_pos hempty]
        cases n.url.inspect <;> rfl
      · rw [if_neg hempty, if_neg hempty]
        split <;> rfl
    · cases Value.inspect _ <;> rfl
  have hurl : n.findingsOnUrl j =
      (n.findingsOnUrl i).map fun found => found.map (·.movedTo j) := by
    unfold findingsOnUrl
    split
    · rename_i url hurl
      by_cases hempty : url = ""
      · rw [if_pos hempty, if_pos hempty]
        rfl
      · rw [if_neg hempty, if_neg hempty]
        split <;> rfl
    · cases Value.inspect _ <;> rfl
  have hunits : n.findingsOnComputeUnits j =
      (n.findingsOnComputeUnits i).map fun found => found.map (·.movedTo j) := by
    unfold findingsOnComputeUnits
    split
    · rfl
    · cases n.computeUnits.inspect <;> rfl
  unfold findingsOnFields
  rw [hname, hurl, hunits]
  cases n.findingsOnName i <;> cases n.findingsOnUrl i <;> cases n.findingsOnComputeUnits i <;>
    simp [Except.map, bind, Except.bind, pure, Except.pure]

end Network

namespace Check

variable {networks others : List Network} {findings : Findings}

theorem index_of_mem_findingsOnFields {n : Network} {index : Nat} {f : Findings}
    (h : n.findingsOnFields index = .ok f) {v : Violation} (hv : v ∈ f) : v.index = index := by
  obtain ⟨code, field, message, rfl⟩ := Network.of_mem_findingsOnFields h hv
  rfl

/-- Among what is found in the fields of a manifest, what is found at a position is what the
checks of the network there find. -/
theorem findingsOnFields_of_fieldsFrom {index : Nat} {f : Findings}
    (h : fieldsFrom index networks = .ok f) {i : Nat} {n : Network} (hn : networks[i]? = some n) :
    n.findingsOnFields (index + i) = .ok (f.ofNetwork (index + i : Nat)) := by
  induction networks generalizing index f i with
  | nil => simp at hn
  | cons m rest ih =>
    obtain ⟨here, there, hhere, hthere, rfl⟩ := fieldsFrom_cons_eq_ok_iff.mp h
    have hindex : ∀ v ∈ here, v.index = index := fun v hv => index_of_mem_findingsOnFields hhere hv
    rw [Findings.ofNetwork_append]
    cases i with
    | zero =>
      cases hn
      have hlater : there.ofNetwork (index : Nat) = [] := by
        refine Findings.ofNetwork_eq_nil fun v hv => ?_
        obtain ⟨i, m, code, field, message, -, rfl⟩ := of_mem_fieldsFrom hthere hv
        simp only [Network.violation]
        omega
      rw [Nat.add_zero, Findings.ofNetwork_eq_self hindex, hlater, List.append_nil]
      exact hhere
    | succ i =>
      have hearlier : here.ofNetwork (index + (i + 1) : Nat) = [] := by
        refine Findings.ofNetwork_eq_nil fun v hv => ?_
        rw [hindex v hv]
        omega
      have hrest := ih hthere (show rest[i]? = some n from hn)
      rw [show index + 1 + i = index + (i + 1) by omega] at hrest
      rw [hearlier, List.nil_append]
      exact hrest

/-- **What is found in the fields of a network** is the same wherever it stands and whatever
stands around it, its position apart. -/
theorem ofNetwork_fields {f g : Findings} (hf : fields networks = .ok f)
    (hg : fields others = .ok g) {i j : Nat} {n : Network} (hi : networks[i]? = some n)
    (hj : others[j]? = some n) : g.ofNetwork j = (f.ofNetwork i).map (·.movedTo j) := by
  have hi := findingsOnFields_of_fieldsFrom hf hi
  have hj := findingsOnFields_of_fieldsFrom hg hj
  rw [Nat.zero_add] at hi hj
  rw [n.findingsOnFields_movedTo i j, hi] at hj
  exact (Except.ok.inj hj).symm

/-! ## Codes and severities -/

/-- A repeated address is the one thing that is found and is no error. -/
theorem isError_eq_code_bne (h : Check.all networks = .ok findings) {v : Violation}
    (hv : v ∈ findings) : v.isError = (v.code != Code.duplicateUrl) := by
  by_cases hcode : v.code = Code.duplicateUrl
  · rw [isError_eq_false_of_duplicateUrl h hv hcode, hcode]
    rfl
  · rw [bne_iff_ne.mpr hcode]
    obtain ⟨byFields, hfields, rfl⟩ := all_eq_ok_iff.mp h
    rcases List.mem_append.mp hv with hv | hv
    · exact (areErrors_of_fieldsFrom hfields).isError v hv
    · obtain ⟨i, n, message, -, rfl | rfl⟩ := of_mem_repetitionsFrom hv
      · rfl
      · exact absurd rfl hcode

theorem isWarning_eq_code_beq (h : Check.all networks = .ok findings) {v : Violation}
    (hv : v ∈ findings) : v.isWarning = (v.code == Code.duplicateUrl) := by
  have hexclusive : v.isWarning = !v.isError := by
    unfold Violation.isWarning Violation.isError
    cases v.severity <;> rfl
  rw [hexclusive, isError_eq_code_bne h hv, bne, Bool.not_not]

theorem length_errors_eq (h : Check.all networks = .ok findings) :
    findings.errors.length = findings.codes.countP (· != Code.duplicateUrl) := by
  rw [Findings.errors, ← List.countP_eq_length_filter, Findings.codes, List.countP_map]
  apply List.countP_congr
  intro v hv
  rw [isError_eq_code_bne h hv]
  rfl

theorem length_warnings_eq (h : Check.all networks = .ok findings) :
    findings.warnings.length = findings.codes.countP (· == Code.duplicateUrl) := by
  rw [Findings.warnings, ← List.countP_eq_length_filter, Findings.codes, List.countP_map]
  apply List.countP_congr
  intro v hv
  rw [isWarning_eq_code_beq h hv]
  rfl

/-! ## The verdict -/

theorem all_eq_error_of_perm (h : networks.Perm others) {fault : Fault}
    (hfault : Check.all networks = .error fault) : Check.all others = .error fault := by
  cases hothers : Check.all others with
  | ok found =>
    -- what can be checked in one order can be checked in the other
    have hcheckable := isCheckable_of_all hothers
    obtain ⟨findings, hfindings⟩ := all_eq_ok fun n hn => hcheckable n (h.mem_iff.mp hn)
    rw [hfindings] at hfault
    cases hfault
  | error cause =>
    rw [all_failsOnlyWith _ _ hothers, all_failsOnlyWith _ _ hfault]

theorem codes_all_perm (h : networks.Perm others) {found : Findings}
    (hnetworks : Check.all networks = .ok findings) (hothers : Check.all others = .ok found) :
    findings.codes.Perm found.codes := by
  rw [codes_all hnetworks, codes_all hothers]
  exact (h.flatMap_right _).append (codes_repetitions_perm h)

/-! ## Who is blamed -/

/-- Whether something is found under a code at a position. -/
def Blames (code : String) (f : Findings) (i : Nat) : Prop :=
  ∃ v ∈ f, v.index = i ∧ v.code = code

/-- Whether those that are blamed for a repetition are the networks of which an earlier one has
the name, or the address. -/
structure BlamesRepeats (networks : List Network) (f : Findings) : Prop where
  names : ∀ i, Blames Code.duplicateName f i ↔ byName.Repeats networks i
  urls : ∀ i, Blames Code.duplicateUrl f i ↔ byUrl.Repeats networks i

/-- If all that is found under a code comes from one comparison, and is blamed on the network at
which it is found, then the networks that are blamed are those that repeat an earlier one. -/
theorem blames_iff {c : Comparison} {code : String}
    (hfound : ∀ v, v.code = code → (v ∈ findings ↔ ∃ i, c.repetition? networks i = some v))
    (hblame : ∀ n i key first,
      (c.blame n i key first).index = i ∧ (c.blame n i key first).code = code) (i : Nat) :
    Blames code findings i ↔ c.Repeats networks i := by
  rw [← c.exists_repetition?_iff]
  constructor
  · rintro ⟨v, hv, hindex, hcode⟩
    obtain ⟨k, hk⟩ := (hfound v hcode).mp hv
    obtain ⟨n, key, m, j, -, -, -, -, rfl⟩ := c.repetition?_eq_some_iff.mp hk
    obtain rfl : k = i := Int.ofNat.inj ((hblame n k key (m, j)).1.symm.trans hindex)
    exact ⟨_, hk⟩
  · rintro ⟨v, hv⟩
    obtain ⟨n, key, m, j, -, -, -, -, rfl⟩ := c.repetition?_eq_some_iff.mp hv
    obtain ⟨hindex, hcode⟩ := hblame n i key (m, j)
    exact ⟨_, (hfound _ hcode).mpr ⟨i, hv⟩, hindex, hcode⟩

/-- **Who is blamed for a repetition**: the networks that have a name, or an address, of an earlier
one, and no others. -/
theorem blamesRepeats (h : Check.all networks = .ok findings) :
    BlamesRepeats networks findings where
  names := by
    refine blames_iff (fun v hcode => ?_) fun n i key first => ⟨rfl, rfl⟩
    rw [mem_iff_mem_repetitions h (.inl hcode), mem_repetitions_iff]
    refine exists_congr fun i => or_iff_left fun hurl => ?_
    obtain ⟨n, key, m, j, -, -, -, -, rfl⟩ := byUrl.repetition?_eq_some_iff.mp hurl
    exact absurd hcode (by decide : Code.duplicateUrl ≠ Code.duplicateName)
  urls := by
    refine blames_iff (fun v hcode => ?_) fun n i key first => ⟨rfl, rfl⟩
    rw [mem_iff_mem_repetitions h (.inr hcode), mem_repetitions_iff]
    refine exists_congr fun i => or_iff_right fun hname => ?_
    obtain ⟨n, key, m, j, -, -, -, -, rfl⟩ := byName.repetition?_eq_some_iff.mp hname
    exact absurd hcode (by decide : Code.duplicateName ≠ Code.duplicateUrl)

/-! ## In another order -/

/-- **The verdict does not depend on the order of a manifest.**  In two orders of one manifest,
the checks stop with the same fault or come to an end in both; then they have found the same
codes, each the same number of times, so that both orders are valid or neither is, with as
many errors and as many warnings.  What is found in the fields of a network is the same in
both, its position apart.  The blame for a repetition falls, in either order, on the networks
that have a name or an address of an earlier one. -/
theorem verdict_of_perm (h : networks.Perm others) :
    (∀ fault, Check.all networks = .error fault ↔ Check.all others = .error fault) ∧
      ∀ findings found, Check.all networks = .ok findings → Check.all others = .ok found →
        (findings.codes.Perm found.codes ∧ findings.isValid = found.isValid ∧
          findings.errors.length = found.errors.length ∧
          findings.warnings.length = found.warnings.length) ∧
        (∃ f g, fields networks = .ok f ∧ findings = f ++ repetitions networks ∧
          fields others = .ok g ∧ found = g ++ repetitions others ∧
            ∀ (i j : Nat) n, networks[i]? = some n → others[j]? = some n →
              g.ofNetwork j = (f.ofNetwork i).map (·.movedTo j)) ∧
        BlamesRepeats networks findings ∧ BlamesRepeats others found := by
  refine ⟨fun fault => ⟨all_eq_error_of_perm h, all_eq_error_of_perm h.symm⟩, ?_⟩
  intro findings found hnetworks hothers
  have hcodes := codes_all_perm h hnetworks hothers
  have herrors : findings.errors.length = found.errors.length := by
    rw [length_errors_eq hnetworks, length_errors_eq hothers, hcodes.countP_eq]
  have hwarnings : findings.warnings.length = found.warnings.length := by
    rw [length_warnings_eq hnetworks, length_warnings_eq hothers, hcodes.countP_eq]
  have hvalid : findings.isValid = found.isValid := by
    rw [Bool.eq_iff_iff, Findings.isValid_iff_errors_eq_nil, Findings.isValid_iff_errors_eq_nil,
      ← List.length_eq_zero_iff, ← List.length_eq_zero_iff, herrors]
  refine ⟨⟨hcodes, hvalid, herrors, hwarnings⟩, ?_, blamesRepeats hnetworks, blamesRepeats hothers⟩
  obtain ⟨f, hf, rfl⟩ := all_eq_ok_iff.mp hnetworks
  obtain ⟨g, hg, rfl⟩ := all_eq_ok_iff.mp hothers
  exact ⟨f, g, hf, rfl, hg, rfl, fun i j n hi hj => ofNetwork_fields hf hg hi hj⟩

/-- Three networks that derive one provider, with fields of which some are not as they should
be. -/
def threeOfOneProvider : List Network :=
  [⟨.string "Base", .string "£", .integer 0⟩, ⟨.string "base", .array [.float .nan], .absent⟩,
    ⟨.string "BASE", .string "£", .boolean true⟩]

/-- What is found is the same in both orders, but the address is blamed on the last network, which
in each order is another one. -/
theorem threeOfOneProvider_verdict :
    threeOfOneProvider.Perm threeOfOneProvider.reverse ∧
    ∃ findings found, Check.all threeOfOneProvider = .ok findings ∧
      Check.all threeOfOneProvider.reverse = .ok found ∧
      (findings.codes.Perm found.codes ∧ findings.isValid = found.isValid ∧
        findings.errors.length = found.errors.length ∧
        findings.warnings.length = found.warnings.length) ∧
      Blames Code.duplicateUrl findings 2 ∧ Blames Code.duplicateUrl found 2 := by
  have hperm : threeOfOneProvider.Perm threeOfOneProvider.reverse :=
    (List.reverse_perm threeOfOneProvider).symm
  have hchecked : (Check.all threeOfOneProvider).toOption.isSome = true ∧
      (Check.all threeOfOneProvider.reverse).toOption.isSome = true := by decide +kernel
  obtain ⟨findings, hfindings⟩ := Option.isSome_iff_exists.mp hchecked.1
  obtain ⟨found, hfound⟩ := Option.isSome_iff_exists.mp hchecked.2
  have hfindings := Attempt.eq_ok_of_toOption hfindings
  have hfound := Attempt.eq_ok_of_toOption hfound
  obtain ⟨-, hverdict⟩ := verdict_of_perm hperm
  obtain ⟨hsame, -, hblames, hblames'⟩ := hverdict findings found hfindings hfound
  refine ⟨hperm, findings, found, hfindings, hfound, hsame, (hblames.urls 2).mpr ?_,
    (hblames'.urls 2).mpr ?_⟩
  · exact ⟨_, _, "£", 0, rfl, rfl, by decide, by decide, by decide⟩
  · exact ⟨_, _, "£", 0, rfl, rfl, by decide, by decide, by decide⟩

/-- The names of the networks that are blamed under a code. -/
def blamed (code : String) (f : Findings) : List String :=
  (f.filter (·.code = code)).map (·.network)

/-- Two networks that repeat each other in name and address. -/
def sameNameAndUrl : List Network :=
  [⟨.string "Base", .string "£", .absent⟩, ⟨.string "BASE", .string "£", .absent⟩]

/-- **Who is blamed depends on the order**: of two networks that repeat each other, it is the one
that comes later. -/
theorem blame_depends_on_order :
    ∃ xs ys findings found, List.Perm xs ys ∧ Check.all xs = .ok findings ∧
      Check.all ys = .ok found ∧
        blamed Code.duplicateName findings ≠ blamed Code.duplicateName found ∧
        blamed Code.duplicateUrl findings ≠ blamed Code.duplicateUrl found := by
  refine ⟨sameNameAndUrl, sameNameAndUrl.reverse, repetitions sameNameAndUrl,
    repetitions sameNameAndUrl.reverse, (List.reverse_perm _).symm, rfl, rfl, ?_, ?_⟩ <;>
    decide +kernel

end Check

end ProviderBindings
