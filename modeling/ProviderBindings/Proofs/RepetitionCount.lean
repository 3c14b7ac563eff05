import Mathlib.Data.Finset.Basic
import Mathlib.Data.Finset.Card
import Mathlib.Data.Finset.Dedup
import ProviderBindings.Proofs.Acceptance

/-! # How many repetitions are reported

The walk across networks goes by two keys, the provider that a network derives and its
address, and a network may have either without the other.  For each key the walk reports
all networks that have one but the first for every value of it: together with the values
that are new, the repetitions make up all keys (`repeats_add_card`).  So their number does
not depend on the order of the keys (`repeats_perm`), and the codes of what the walk
reports are known from the two numbers alone (`codes_repetitionsFrom`).
-/
namespace ProviderBindings

/-- The address of a network, when it is a string and not empty. -/
def Network.address? (n : Network) : Option String :=
  if n.url.string?.getD "" = "" then none else some (n.url.string?.getD "")

namespace Check

/-! ## Keys on a walk -/

/-- How many of the keys repeat one before them, or one of those met already. -/
def repeats (met : List String) : List String → Nat
  | [] => 0
  | key :: rest => if key ∈ met then repeats met rest + 1 else repeats (key :: met) rest

/-- A key is a repetition or new. -/
theorem repeats_add_card (met keys : List String) :
    repeats met keys + (keys.toFinset \ met.toFinset).card = keys.length := by
  induction keys generalizing met with
  | nil => simp [repeats]
  | cons key rest ih =>
    by_cases hkey : key ∈ met
    · have hsdiff : (key :: rest).toFinset \ met.toFinset = rest.toFinset \ met.toFinset := by
        rw [List.toFinset_cons, Finset.insert_sdiff_of_mem _ (List.mem_toFinset.mpr hkey)]
      rw [repeats, if_pos hkey, hsdiff, List.length_cons, ← ih met]
      omega
    · -- a new key counts once, whether or not it comes again
      have hsdiff : (key :: rest).toFinset \ met.toFinset =
          insert key (rest.toFinset \ (key :: met).toFinset) := by
        ext other
        by_cases hother : other = key
        · simp [hother, hkey]
        · simp [hother]
      have hcard : (insert key (rest.toFinset \ (key :: met).toFinset)).card =
          (rest.toFinset \ (key :: met).toFinset).card + 1 := by
        apply Finset.card_insert_of_notMem
        simp
      rw [repeats, if_neg hkey, hsdiff, hcard, List.length_cons, ← ih (key :: met)]
      omega

/-- **The number of repetitions** does not depend on the order of the keys. -/
theorem repeats_perm {keys others : List String} (h : keys.Perm others) (met : List String) :
    repeats met keys = repeats met others := by
  have hkeys := repeats_add_card met keys
  have hothers := repeats_add_card met others
  rw [List.toFinset_eq_of_perm _ _ h, h.length_eq] at hkeys
  omega

/-! ## Networks on a walk -/

/-- One step of the walk under a code: from the key of the network, if it has one, and the keys
that have been met, to the codes of what is reported and the keys that have been met then. -/
inductive Reports (code : String) : Option String → List String → List String → List String → Prop
  | keyless (met : List String) : Reports code none met [] met
  | repeated {key : String} {met : List String} (h : key ∈ met) :
    Reports code (some key) met [code] met
  | fresh {key : String} {met : List String} (h : key ∉ met) :
    Reports code (some key) met [] (key :: met)

/-- A step reports what the key of its network adds to the repetitions. -/
theorem Reports.repeats_eq {code : String} {key? : Option String} {met codes met' : List String}
    (h : Reports code key? met codes met') (rest : List String) :
    ∃ count, codes = List.replicate count code ∧
      repeats met (key?.toList ++ rest) = count + repeats met' rest := by
  cases h with
  | keyless => exact ⟨0, rfl, (Nat.zero_add _).symm⟩
  | repeated hkey =>
    refine ⟨1, rfl, ?_⟩
    rw [Option.toList_some, List.singleton_append, repeats, if_pos hkey, Nat.add_comm]
  | fresh hkey =>
    refine ⟨0, rfl, ?_⟩
    rw [Option.toList_some, List.singleton_append, repeats, if_neg hkey, Nat.zero_add]

theorem lookup_eq_none_iff_not_mem {α : Type} {seen : List (String × α)} {key : String} :
    seen.lookup key = none ↔ key ∉ seen.map Prod.fst := by
  rw [List.lookup_eq_none_iff]
  simp only [bne_iff_ne, List.mem_map, not_exists, not_and]
  constructor
  · rintro h entry hentry rfl
    exact h entry hentry rfl
  · rintro h entry hentry rfl
    exact h entry hentry rfl

theorem mem_of_lookup_eq_some {α : Type} {seen : List (String × α)} {key : String} {value : α}
    (h : seen.lookup key = some value) : key ∈ seen.map Prod.fst :=
  List.mem_map_of_mem (Entries.mem_of_lookup h)

theorem reports_repeatedName (seen : List (String × Nat × String)) (n : Network) (index : Nat) :
    Reports Code.duplicateName n.provider? (seen.map Prod.fst)
      (Findings.codes (repeatedName seen n index).1)
      ((repeatedName seen n index).2.map Prod.fst) := by
  cases hkey : n.provider? with
  | none =>
    rw [repeatedName_of_none n index seen hkey]
    exact .keyless _
  | some key =>
    rcases repeatedName_of_some n index seen hkey with
      ⟨first, message, hseen, hrepeated⟩ | ⟨hseen, hrepeated⟩
    · rw [hrepeated]
      exact .repeated (mem_of_lookup_eq_some hseen)
    · rw [hrepeated]
      exact .fresh (lookup_eq_none_iff_not_mem.mp hseen)

theorem reports_repeatedUrl (seen : List (String × Nat)) (n : Network) (index : Nat) :
    Reports Code.duplicateUrl n.address? (seen.map Prod.fst)
      (Findings.codes (repeatedUrl seen n index).1)
      ((repeatedUrl seen n index).2.map Prod.fst) := by
  unfold Network.address? repeatedUrl
  by_cases hempty : n.url.string?.getD "" = ""
  · rw [if_pos hempty, if_pos hempty]
    exact .keyless _
  · rw [if_neg hempty, if_neg hempty]
    cases hseen : seen.lookup (n.url.string?.getD "") with
    | none => exact .fresh (lookup_eq_none_iff_not_mem.mp hseen)
    | some first => exact .repeated (mem_of_lookup_eq_some hseen)

/-- **What the walk reports**, by its codes: the repetitions of providers and those of
addresses. -/
theorem codes_repetitionsFrom (seen : Seen) (index : Nat) (networks : List Network) :
    (Findings.codes (repetitionsFrom seen index networks)).Perm
      (List.replicate
          (repeats (seen.names.map Prod.fst) (networks.filterMap Network.provider?))
          Code.duplicateName ++
        List.replicate
          (repeats (seen.urls.map Prod.fst) (networks.filterMap Network.address?))
          Code.duplicateUrl) := by
  induction networks generalizing seen index with
  | nil => exact .refl []
  | cons n rest ih =>
    have hcons : ∀ key? : Network → Option String,
        (n :: rest).filterMap key? = (key? n).toList ++ rest.filterMap key? := by
      intro key?
      cases hkey : key? n <;> simp [hkey]
    obtain ⟨names, hnames, hnameCount⟩ := (reports_repeatedName seen.names n index).repeats_eq
      (rest.filterMap Network.provider?)
    obtain ⟨urls, hurls, hurlCount⟩ := (reports_repeatedUrl seen.urls n index).repeats_eq
      (rest.filterMap Network.address?)
    rw [repetitionsFrom, Findings.codes_append, Findings.codes_append, hnames, hurls, hcons, hcons,
      hnameCount, hurlCount, List.replicate_add, List.replicate_add, List.append_assoc,
      List.append_assoc]
    -- the repetitions of the address at the head come after those of names in the rest
    exact (((ih _ _).append_left _).trans (List.perm_append_comm_assoc ..)).append_left _

theorem codes_repetitions_perm {networks others : List Network} (h : networks.Perm others) :
    (Findings.codes (repetitions networks)).Perm (Findings.codes (repetitions others)) := by
  refine (codes_repetitionsFrom .nothing 0 networks).trans ?_
  rw [repeats_perm (h.filterMap _), repeats_perm (h.filterMap _)]
  exact (codes_repetitionsFrom .nothing 0 others).symm

end Check

end ProviderBindings
