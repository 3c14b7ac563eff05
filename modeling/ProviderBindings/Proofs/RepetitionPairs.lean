import ProviderBindings.Proofs.RepetitionCount

/-! # Repetitions by comparison of pairs

The walk across networks keeps, for every key that it has met, the first network that has the
key.  What it reports can be said without a walk: a network repeats another if an earlier one
has the same key, and the one it repeats is the first that has it (`Comparison.repetition?`).
So the walk comes to the same as a comparison of every network with all that stand before it,
under each of the two keys (`repetitions_by_pairs`).

The invariant of the walk is `Knows`: what has been met under a key is the first network with
that key among those before, and nothing if there is none.  A repetition leaves what has been
met as it is, so that the first network with a key is never replaced by a later one.
-/
namespace ProviderBindings

namespace Network

variable {n : Network} {key : String}

theorem provider?_eq_some_iff : n.provider? = some key ↔
    ∃ name, n.name = .string name ∧ name ≠ "" ∧ Identifier.storage name = key := by
  unfold provider? nameOrEmpty
  cases hname : n.name with
  | string name => by_cases hempty : name = "" <;> simp [hempty]
  | _ => simp [Value.string?]

theorem address?_eq_some_iff : n.address? = some key ↔ n.url = .string key ∧ key ≠ "" := by
  unfold address?
  cases hurl : n.url with
  | string url =>
    by_cases hempty : url = ""
    · simp only [hempty, Value.string?_string, Option.getD_some, if_pos]
      constructor
      · intro h
        cases h
      · rintro ⟨h, hne⟩
        exact absurd (Value.string.inj h).symm hne
    · simp only [hempty, Value.string?_string, Option.getD_some, if_neg, not_false_eq_true,
        Option.some.injEq, Value.string.injEq]
      exact ⟨fun h => ⟨h, h ▸ hempty⟩, fun h => h.1⟩
  | _ => simp [Value.string?]

end Network

namespace Check

/-! ## The first network with a key -/

/-- Whether the network `m` at position `j` is the first that has a key. -/
structure IsFirst (key? : Network → Option String) (networks : List Network) (key : String)
    (m : Network) (j : Nat) : Prop where
  stands : networks[j]? = some m
  has : key? m = some key
  least : ∀ k < j, ∀ other, networks[k]? = some other → key? other ≠ some key

/-- The first of the networks that has a key, with its position. -/
def first? (key? : Network → Option String) (key : String) (networks : List Network) :
    Option (Network × Nat) :=
  networks.zipIdx.find? fun entry => key? entry.1 = some key

section

variable {key? : Network → Option String} {key : String} {networks before : List Network}
  {n m : Network} {j : Nat}

theorem first?_eq_some_iff : first? key? key networks = some (m, j) ↔
    IsFirst key? networks key m j := by
  unfold first?
  rw [List.find?_eq_some_iff_getElem]
  constructor
  · rintro ⟨hkey, i, hi, hentry, hleast⟩
    rw [List.length_zipIdx] at hi
    rw [List.getElem_zipIdx, Nat.zero_add] at hentry
    cases hentry
    refine ⟨List.getElem?_eq_getElem hi, by simpa using hkey, ?_⟩
    intro k hk other hother
    have hlength : k < networks.length := Nat.lt_trans hk hi
    rw [List.getElem?_eq_getElem hlength, Option.some.injEq] at hother
    simpa [hother] using hleast k hk
  · rintro ⟨hm, hkey, hleast⟩
    obtain ⟨hj, hm⟩ := List.getElem?_eq_some_iff.mp hm
    refine ⟨by simpa using hkey, j, by simpa using hj, by simp [hm], ?_⟩
    intro k hk
    have hother := hleast k hk _ (List.getElem?_eq_getElem (Nat.lt_trans hk hj))
    simpa using hother

/-- If a network has a key, then one that does not stand after it is the first that has it. -/
theorem exists_isFirst (hm : networks[j]? = some m) (hkey : key? m = some key) :
    ∃ first k, k ≤ j ∧ IsFirst key? networks key first k := by
  cases hfirst : first? key? key networks with
  | none =>
    rw [first?, List.find?_eq_none] at hfirst
    have hmem : (m, j) ∈ networks.zipIdx := List.mk_mem_zipIdx_iff_getElem?.mpr hm
    exact absurd (by simpa using hkey) (hfirst (m, j) hmem)
  | some found =>
    obtain ⟨first, k⟩ := found
    have hfirst := first?_eq_some_iff.mp hfirst
    refine ⟨first, k, Nat.le_of_not_lt fun hlt => ?_, hfirst⟩
    exact hfirst.least j hlt m hm hkey

/-- Another network is the first with its key only if none before has the key. -/
theorem first?_concat : first? key? key (before ++ [n]) =
    (first? key? key before).or (if key? n = some key then some (n, before.length) else none) := by
  unfold first?
  rw [List.zipIdx_append, List.find?_append]
  by_cases hkey : key? n = some key <;> simp [hkey]

/-- The first network with a key among those before a position. -/
theorem first?_take_eq_some_iff {i : Nat} (hi : i ≤ networks.length) :
    first? key? key (networks.take i) = some (m, j) ↔ j < i ∧ IsFirst key? networks key m j := by
  rw [first?_eq_some_iff]
  have hbefore : ∀ k < i, (networks.take i)[k]? = networks[k]? := fun k hk =>
    List.getElem?_take_of_lt hk
  constructor
  · rintro ⟨hm, hkey, hleast⟩
    obtain ⟨hj, -⟩ := List.getElem?_eq_some_iff.mp hm
    rw [List.length_take, Nat.min_eq_left hi] at hj
    refine ⟨hj, hbefore j hj ▸ hm, hkey, ?_⟩
    intro k hk other hother
    exact hleast k hk other ((hbefore k (Nat.lt_trans hk hj)).trans hother)
  · rintro ⟨hj, hm, hkey, hleast⟩
    refine ⟨(hbefore j hj).trans hm, hkey, ?_⟩
    intro k hk other hother
    exact hleast k hk other ((hbefore k (Nat.lt_trans hk hj)) ▸ hother)

end

/-! ## Comparison with earlier networks -/

/-- A way in which networks may repeat each other: the key by which they are compared, and what
is reported of a network at a position that has the same key as the first network with it. -/
structure Comparison where
  key? : Network → Option String
  blame : (n : Network) → (position : Nat) → (key : String) → (first : Network × Nat) → Violation

/-- Networks that derive the same provider. -/
def byName : Comparison where
  key? := Network.provider?
  blame n position key met := n.violation position .error Code.duplicateName .name
    s!"Name collides with {Text.quoted met.1.nameOrEmpty} at networks[{met.2}] (both derive {key})"

/-- Networks that have the same address. -/
def byUrl : Comparison where
  key? := Network.address?
  blame n position key met := n.violation position .warning Code.duplicateUrl .url
    s!"Url {Text.quoted key} is also used by networks[{met.2}]"

namespace Comparison

variable (c : Comparison)

/-- What is reported of a network after those before it. -/
def repetitionAfter? (before : List Network) (n : Network) : Option Violation :=
  (c.key? n).bind fun key => (first? c.key? key before).map (c.blame n before.length key)

/-- What is reported of the network at a position, from a comparison with all before it. -/
def repetition? (networks : List Network) (i : Nat) : Option Violation :=
  networks[i]?.bind (c.repetitionAfter? (networks.take i))

/-- **A repetition** is reported of every network of which an earlier one has the key, and the
network that it repeats is the first that has the key. -/
theorem repetition?_eq_some_iff {networks : List Network} {i : Nat} {v : Violation} :
    c.repetition? networks i = some v ↔ ∃ n key m j, networks[i]? = some n ∧
      c.key? n = some key ∧ j < i ∧ IsFirst c.key? networks key m j ∧
        v = c.blame n i key (m, j) := by
  simp only [repetition?, repetitionAfter?, Option.bind_eq_some_iff, Option.map_eq_some_iff]
  constructor
  · rintro ⟨n, hn, key, hkey, ⟨m, j⟩, hfirst, rfl⟩
    obtain ⟨hi, -⟩ := List.getElem?_eq_some_iff.mp hn
    obtain ⟨hj, hfirst⟩ := (first?_take_eq_some_iff (Nat.le_of_lt hi)).mp hfirst
    refine ⟨n, key, m, j, hn, hkey, hj, hfirst, ?_⟩
    rw [List.length_take, Nat.min_eq_left (Nat.le_of_lt hi)]
  · rintro ⟨n, key, m, j, hn, hkey, hj, hfirst, rfl⟩
    obtain ⟨hi, -⟩ := List.getElem?_eq_some_iff.mp hn
    refine ⟨n, hn, key, hkey, (m, j),
      (first?_take_eq_some_iff (Nat.le_of_lt hi)).mpr ⟨hj, hfirst⟩, ?_⟩
    rw [List.length_take, Nat.min_eq_left (Nat.le_of_lt hi)]

/-- Whether the network at a position has a key that one before it has. -/
def Repeats (networks : List Network) (i : Nat) : Prop :=
  ∃ n m key j, networks[i]? = some n ∧ networks[j]? = some m ∧ j < i ∧
    c.key? n = some key ∧ c.key? m = some key

theorem exists_repetition?_iff {networks : List Network} {i : Nat} :
    (∃ v, c.repetition? networks i = some v) ↔ c.Repeats networks i := by
  simp only [repetition?_eq_some_iff]
  constructor
  · rintro ⟨v, n, key, m, j, hn, hkey, hj, hfirst, -⟩
    exact ⟨n, m, key, j, hn, hfirst.stands, hj, hkey, hfirst.has⟩
  · rintro ⟨n, m, key, j, hn, hm, hj, hkey, hsame⟩
    obtain ⟨first, k, hk, hfirst⟩ := exists_isFirst hm hsame
    exact ⟨_, n, key, first, k, hn, hkey, Nat.lt_of_le_of_lt hk hj, hfirst, rfl⟩

end Comparison

/-- What is reported of the network at a position, by its name and then by its address. -/
def repetitionsAt (networks : List Network) (i : Nat) : Findings :=
  (byName.repetition? networks i).toList ++ (byUrl.repetition? networks i).toList

/-! ## The walk -/

section

variable {α : Type}

/-- The invariant of the walk under one key: what has been met is the first network with each
key among those before, as far as it is remembered. -/
def Knows (key? : Network → Option String) (remember : Network × Nat → α)
    (seen : List (String × α)) (before : List Network) : Prop :=
  ∀ key, seen.lookup key = (first? key? key before).map remember

variable {key? : Network → Option String} {remember : Network × Nat → α}
  {seen : List (String × α)} {before : List Network} {n : Network} {key : String}

theorem Knows.concat_of_keyless (h : Knows key? remember seen before) (hn : key? n = none) :
    Knows key? remember seen (before ++ [n]) := by
  intro other
  rw [h other, first?_concat, hn, if_neg (Option.some_ne_none other).symm, Option.or_none]

/-- A key that has been met keeps its first network. -/
theorem Knows.concat_of_met (h : Knows key? remember seen before) (hn : key? n = some key)
    {first : Network × Nat} (hmet : first? key? key before = some first) :
    Knows key? remember seen (before ++ [n]) := by
  intro other
  rw [h other, first?_concat, hn]
  by_cases hother : key = other
  · rw [← hother, hmet, Option.some_or]
  · rw [if_neg (mt Option.some.inj hother), Option.or_none]

/-- A new key has its first network from now on. -/
theorem Knows.concat_of_new (h : Knows key? remember seen before) (hn : key? n = some key)
    (hnew : first? key? key before = none) :
    Knows key? remember ((key, remember (n, before.length)) :: seen) (before ++ [n]) := by
  intro other
  rw [first?_concat, hn]
  by_cases hother : key = other
  · rw [← hother, hnew, if_pos rfl, Option.none_or, List.lookup_cons_self]
    rfl
  · rw [Entries.lookup_cons_of_ne (Ne.symm hother), h other, if_neg (mt Option.some.inj hother),
      Option.or_none]

end

/-- What the walk remembers of the first network with a name. -/
def rememberName (first : Network × Nat) : Nat × String := (first.2, first.1.nameOrEmpty)

section

variable {before : List Network}

/-- A step of the walk by names reports what the comparison with all before does, and keeps the
invariant. -/
theorem repeatedName_eq {seen : List (String × Nat × String)}
    (h : Knows Network.provider? rememberName seen before) (n : Network) :
    (repeatedName seen n before.length).1 = (byName.repetitionAfter? before n).toList ∧
      Knows Network.provider? rememberName (repeatedName seen n before.length).2
        (before ++ [n]) := by
  unfold repeatedName Comparison.repetitionAfter?
  by_cases hempty : n.nameOrEmpty = ""
  · have hkey : n.provider? = none := if_pos hempty
    simp only [hempty, if_pos, byName, hkey, Option.bind_none, Option.toList_none, true_and]
    exact h.concat_of_keyless hkey
  · have hkey : n.provider? = some (Identifier.storage n.nameOrEmpty) := if_neg hempty
    simp only [hempty, if_neg, not_false_eq_true, byName, hkey, Option.bind_some, h _]
    cases hfirst : first? Network.provider? (Identifier.storage n.nameOrEmpty) before with
    | none => exact ⟨rfl, h.concat_of_new hkey hfirst⟩
    | some first => exact ⟨rfl, h.concat_of_met hkey hfirst⟩

theorem repeatedUrl_eq {seen : List (String × Nat)}
    (h : Knows Network.address? Prod.snd seen before) (n : Network) :
    (repeatedUrl seen n before.length).1 = (byUrl.repetitionAfter? before n).toList ∧
      Knows Network.address? Prod.snd (repeatedUrl seen n before.length).2 (before ++ [n]) := by
  unfold repeatedUrl Comparison.repetitionAfter?
  by_cases hempty : n.url.string?.getD "" = ""
  · have hkey : n.address? = none := if_pos hempty
    simp only [hempty, if_pos, byUrl, hkey, Option.bind_none, Option.toList_none, true_and]
    exact h.concat_of_keyless hkey
  · have hkey : n.address? = some (n.url.string?.getD "") := if_neg hempty
    simp only [hempty, if_neg, not_false_eq_true, byUrl, hkey, Option.bind_some, h _]
    cases hfirst : first? Network.address? (n.url.string?.getD "") before with
    | none => exact ⟨rfl, h.concat_of_new hkey hfirst⟩
    | some first => exact ⟨rfl, h.concat_of_met hkey hfirst⟩

/-- What is reported of the network after those before it. -/
theorem repetitionsAt_length (n : Network) (rest : List Network) :
    repetitionsAt (before ++ n :: rest) before.length =
      (byName.repetitionAfter? before n).toList ++ (byUrl.repetitionAfter? before n).toList := by
  simp [repetitionsAt, Comparison.repetition?]

theorem repetitionsFrom_cons (seen : Seen) (index : Nat) (n : Network) (rest : List Network) :
    repetitionsFrom seen index (n :: rest) =
      (repeatedName seen.names n index).1 ++ (repeatedUrl seen.urls n index).1 ++
        repetitionsFrom ⟨(repeatedName seen.names n index).2, (repeatedUrl seen.urls n index).2⟩
          (index + 1) rest := rfl

/-- The walk from any network on, once it knows those before. -/
theorem repetitionsFrom_eq {seen : Seen}
    (hnames : Knows Network.provider? rememberName seen.names before)
    (hurls : Knows Network.address? Prod.snd seen.urls before) (rest : List Network) :
    repetitionsFrom seen before.length rest =
      (List.range rest.length).flatMap fun i =>
        repetitionsAt (before ++ rest) (before.length + i) := by
  induction rest generalizing before seen with
  | nil => rfl
  | cons n rest ih =>
    obtain ⟨hbyName, hnames⟩ := repeatedName_eq hnames n
    obtain ⟨hbyUrl, hurls⟩ := repeatedUrl_eq hurls n
    have hhere : repetitionsAt (before ++ n :: rest) (before.length + 0) = _ :=
      repetitionsAt_length n rest
    have hlater : repetitionsFrom ⟨_, _⟩ (before ++ [n]).length rest = _ := ih hnames hurls
    rw [List.length_append, List.length_singleton] at hlater
    rw [repetitionsFrom_cons, hbyName, hbyUrl, hlater, List.length_cons, List.range_succ_eq_map,
      List.flatMap_cons, hhere, List.flatMap_map]
    have hposition : ∀ i, before.length + 1 + i = before.length + i.succ := by
      intro i
      omega
    simp only [List.append_assoc, List.singleton_append, hposition]

end

theorem repetitions_eq (networks : List Network) :
    repetitions networks = (List.range networks.length).flatMap (repetitionsAt networks) := by
  have hnothing : repetitionsFrom .nothing ([] : List Network).length networks = _ :=
    repetitionsFrom_eq (fun _ => rfl) (fun _ => rfl) networks
  rw [repetitions]
  simpa using hnothing

theorem mem_repetitions_iff {networks : List Network} {v : Violation} :
    v ∈ repetitions networks ↔
      ∃ i, byName.repetition? networks i = some v ∨ byUrl.repetition? networks i = some v := by
  simp only [repetitions_eq, List.mem_flatMap, List.mem_range, repetitionsAt, List.mem_append,
    Option.mem_toList]
  constructor
  · rintro ⟨i, -, h⟩
    exact ⟨i, h⟩
  · rintro ⟨i, h⟩
    refine ⟨i, ?_, h⟩
    -- only at a position of the list is there something to report
    by_contra hi
    have hnothing : networks[i]? = none := List.getElem?_eq_none (Nat.le_of_not_lt hi)
    simp [Comparison.repetition?, hnothing] at h

theorem count_codes_repetitions (networks : List Network) :
    (repetitions networks).codes.count Code.duplicateName =
        repeats [] (networks.filterMap Network.provider?) ∧
      (repetitions networks).codes.count Code.duplicateUrl =
        repeats [] (networks.filterMap Network.address?) := by
  have hcodes := codes_repetitionsFrom .nothing 0 networks
  have hname : (Code.duplicateUrl == Code.duplicateName) = false := by decide
  have hurl : (Code.duplicateName == Code.duplicateUrl) = false := by decide
  constructor
  · rw [repetitions, hcodes.count_eq, List.count_append, List.count_replicate_self,
      List.count_replicate, hname]
    rfl
  · rw [repetitions, hcodes.count_eq, List.count_append, List.count_replicate_self,
      List.count_replicate, hurl]
    exact Nat.zero_add _

/-- **The walk across networks by its pairs.**  It reports, network by network and the name
before the address, what a comparison of the network with all before it reports, and nothing
else.  That is: a network whose name is a string, and not empty, is reported for its name
exactly when such a name before it derives the same provider, with the first network that has
one, its name, and the provider; a network whose address is a string, and not empty, is
reported for its address exactly when it is the address of a network before it, with the first
that has it.  So there are as many repetitions of names, and of addresses, as there are names,
or addresses, more than different ones. -/
theorem repetitions_by_pairs (networks : List Network) :
    repetitions networks = (List.range networks.length).flatMap (repetitionsAt networks) ∧
      (∀ i v, byName.repetition? networks i = some v ↔
        ∃ n name key first original j, networks[i]? = some n ∧ n.name = .string name ∧
          name ≠ "" ∧ key = Identifier.storage name ∧ j < i ∧
          IsFirst Network.provider? networks key first j ∧ first.name = .string original ∧
          v = ⟨.error, Code.duplicateName,
            s!"Name collides with {Text.quoted original} at networks[{j}] (both derive {key})",
            i, name, Network.Field.name.label⟩) ∧
      (∀ i v, byUrl.repetition? networks i = some v ↔
        ∃ n url first j, networks[i]? = some n ∧ n.url = .string url ∧ url ≠ "" ∧
          j < i ∧ IsFirst Network.address? networks url first j ∧
          v = ⟨.warning, Code.duplicateUrl,
            s!"Url {Text.quoted url} is also used by networks[{j}]",
            i, n.nameOrEmpty, Network.Field.url.label⟩) ∧
      (repetitions networks).codes.count Code.duplicateName +
          (networks.filterMap Network.provider?).toFinset.card =
        (networks.filterMap Network.provider?).length ∧
      (repetitions networks).codes.count Code.duplicateUrl +
          (networks.filterMap Network.address?).toFinset.card =
        (networks.filterMap Network.address?).length := by
  obtain ⟨hnames, hurls⟩ := count_codes_repetitions networks
  refine ⟨repetitions_eq networks, ?_, ?_, ?_, ?_⟩
  · intro i v
    rw [Comparison.repetition?_eq_some_iff]
    constructor
    · rintro ⟨n, key, first, j, hn, hkey, hj, hfirst, rfl⟩
      obtain ⟨name, hname, hne, rfl⟩ := Network.provider?_eq_some_iff.mp hkey
      obtain ⟨original, horiginal, -, -⟩ := Network.provider?_eq_some_iff.mp hfirst.has
      refine ⟨n, name, _, first, original, j, hn, hname, hne, rfl, hj, hfirst, horiginal, ?_⟩
      simp [byName, Network.violation, Network.nameOrEmpty, hname, horiginal]
    · rintro ⟨n, name, _, first, original, j, hn, hname, hne, rfl, hj, hfirst, horiginal, rfl⟩
      have hkey : n.provider? = some (Identifier.storage name) :=
        Network.provider?_eq_some_iff.mpr ⟨name, hname, hne, rfl⟩
      refine ⟨n, Identifier.storage name, first, j, hn, hkey, hj, hfirst, ?_⟩
      simp [byName, Network.violation, Network.nameOrEmpty, hname, horiginal]
  · intro i v
    rw [Comparison.repetition?_eq_some_iff]
    constructor
    · rintro ⟨n, url, first, j, hn, hkey, hj, hfirst, rfl⟩
      obtain ⟨hurl, hne⟩ := Network.address?_eq_some_iff.mp hkey
      exact ⟨n, url, first, j, hn, hurl, hne, hj, hfirst, rfl⟩
    · rintro ⟨n, url, first, j, hn, hurl, hne, hj, hfirst, rfl⟩
      exact ⟨n, url, first, j, hn, Network.address?_eq_some_iff.mpr ⟨hurl, hne⟩, hj, hfirst, rfl⟩
  · rw [hnames]
    simpa using repeats_add_card [] (networks.filterMap Network.provider?)
  · rw [hurls]
    simpa using repeats_add_card [] (networks.filterMap Network.address?)

end Check

end ProviderBindings
