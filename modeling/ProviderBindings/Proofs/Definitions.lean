import ProviderBindings.Proofs.Acceptance

/-! # The definitions of an accepted manifest

A generated module defines a provider and an accessor for each network.  The checks
compare providers only.  That the accessors of an accepted manifest differ as well, and
that none of them is a provider, follows from the form of the two identifiers: the first
in small letters gives the second, and on the characters that are left after the checks
nothing is lost on the way (`Identifier.storage_eq_of_accessor_eq`).
-/
namespace ProviderBindings

namespace Check

/-- The names of an acceptable manifest, which are strings. -/
theorem Acceptable.names {networks : List Network} (h : Acceptable networks) :
    ∃ names : List String, networks.map Network.name = names.map Value.string ∧
      (names.map Identifier.storage).Nodup ∧ ∀ name ∈ names, Identifier.IsName name := by
  refine ⟨networks.map Network.nameOrEmpty, ?_, ?_, ?_⟩
  · rw [List.map_map]
    exact List.map_congr_left fun n hn => (h.fields n hn).name_eq.1
  · rw [List.map_map]
    exact h.distinct
  · intro name hname
    obtain ⟨n, hn, rfl⟩ := List.mem_map.mp hname
    exact (h.fields n hn).name_eq.2

end Check

namespace Identifier

/-- Names that derive different providers derive definitions that differ throughout. -/
theorem nodup_storage_append_accessor {names : List String} (hnames : ∀ name ∈ names, IsName name)
    (hdistinct : (names.map storage).Nodup) : (names.map storage ++ names.map accessor).Nodup := by
  refine List.nodup_append.mpr ⟨hdistinct, ?_, ?_⟩
  · rw [List.Nodup, List.pairwise_map] at hdistinct ⊢
    refine hdistinct.imp_of_mem ?_
    intro name other hname hother hne heq
    exact hne (storage_eq_of_accessor_eq (hnames name hname) (hnames other hother) heq)
  · intro provider hprovider function hfunction
    obtain ⟨name, -, rfl⟩ := List.mem_map.mp hprovider
    obtain ⟨other, hother, rfl⟩ := List.mem_map.mp hfunction
    exact storage_ne_accessor (hnames other hother)

end Identifier

namespace Check

/-- **A valid manifest defines each identifier once, and well.**  All names are strings; the
identifiers of the providers and of the accessors differ from one another; each has its
form; and the accessor gives back its provider. -/
theorem definitions_of_isValid {networks : List Network} {findings : Findings}
    (hchecked : Check.all networks = .ok findings) (hvalid : findings.isValid = true) :
    ∃ names : List String, networks.map Network.name = names.map Value.string ∧
      (names.map Identifier.storage ++ names.map Identifier.accessor).Nodup ∧
      ∀ name ∈ names, Identifier.IsProvider (Identifier.storage name) ∧
        Identifier.IsAccessor (Identifier.accessor name) ∧
        Text.upper ((Identifier.accessor name).toList.drop Identifier.accessorStart.length) =
          (Identifier.storage name).toList := by
  obtain ⟨names, hmap, hdistinct, hnames⟩ :=
    ((isValid_iff_acceptable hchecked).mp hvalid).names
  refine ⟨names, hmap, Identifier.nodup_storage_append_accessor hnames hdistinct, ?_⟩
  intro name hname
  have h := hnames name hname
  exact ⟨Identifier.isProvider_storage h, Identifier.isAccessor_accessor h,
    Identifier.upper_drop_accessor h⟩

/-- Two networks that are valid, the first with ligatures in its name. -/
def ligatureNames : List Network :=
  [⟨.string "ﬆaﬀ", .string "https://one.example", .integer 660⟩,
   ⟨.string "Base_2", .string "https://two.example/ß", .absent⟩]

theorem ligatureNames_definitions : Check.all ligatureNames = .ok [] ∧ Findings.isValid [] = true ∧
    ∃ names : List String, ligatureNames.map Network.name = names.map Value.string ∧
      (names.map Identifier.storage ++ names.map Identifier.accessor).Nodup ∧
      ∀ name ∈ names, Identifier.IsProvider (Identifier.storage name) ∧
        Identifier.IsAccessor (Identifier.accessor name) ∧
        Text.upper ((Identifier.accessor name).toList.drop Identifier.accessorStart.length) =
          (Identifier.storage name).toList := by
  have hchecked : Check.all ligatureNames = .ok [] := rfl
  have hvalid : Findings.isValid [] = true := rfl
  exact ⟨hchecked, hvalid, definitions_of_isValid hchecked hvalid⟩

end Check

end ProviderBindings
