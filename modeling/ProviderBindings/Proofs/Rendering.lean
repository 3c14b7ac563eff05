import ProviderBindings.Proofs.Attempt
import ProviderBindings.ProviderModule

/-! # The parts of a module

A module has two pieces of text for every network, and each of them is given exactly by the parts
that differ between networks (`declaration_eq_ok_iff`, `accessorFunction_eq_ok_iff`).  There is a
module exactly when there are all these pieces (`generate_eq_ok_iff`).
-/
namespace ProviderBindings

open Attempt

theorem Identifier.nameText_eq_ok_iff {v : Value} {name : String} :
    Identifier.nameText v = .ok name ↔ v = .string name := by
  cases v <;> simp [Identifier.nameText]

namespace ProviderModule

variable {networks : List Network} {n : Network} {text name url units : String}
  {declarations accessors : List String}

theorem declaration_eq_ok (hname : n.name = .string name) (hurl : n.url.text = .ok url)
    (hunits : boundLiteral n.computeUnits = .ok units) :
    declaration n = .ok (declarationOf (Identifier.storage name) url units) := by
  rw [declaration, hname, hurl, hunits]
  rfl

theorem declaration_eq_ok_iff : declaration n = .ok text ↔ ∃ name url units,
    n.name = .string name ∧ n.url.text = .ok url ∧ boundLiteral n.computeUnits = .ok units ∧
      declarationOf (Identifier.storage name) url units = text := by
  constructor
  · intro h
    obtain ⟨name, hname, h⟩ := bind_eq_ok_iff.mp h
    obtain ⟨units, hunits, h⟩ := bind_eq_ok_iff.mp h
    obtain ⟨url, hurl, h⟩ := bind_eq_ok_iff.mp h
    exact ⟨name, url, units, Identifier.nameText_eq_ok_iff.mp hname, hurl, hunits, Except.ok.inj h⟩
  · rintro ⟨name, url, units, hname, hurl, hunits, rfl⟩
    exact declaration_eq_ok hname hurl hunits

theorem accessorFunction_eq_ok_iff : accessorFunction n = .ok text ↔ ∃ name,
    n.name = .string name ∧
      accessorOf (Identifier.accessor name) (Identifier.storage name) = text := by
  constructor
  · intro h
    obtain ⟨name, hname, h⟩ := bind_eq_ok_iff.mp h
    exact ⟨name, Identifier.nameText_eq_ok_iff.mp hname, Except.ok.inj h⟩
  · rintro ⟨name, hname, rfl⟩
    rw [accessorFunction, hname]
    rfl

/-- The pieces of text that the two passes over a list of networks give. -/
structure Rendered (networks : List Network) (declarations accessors : List String) : Prop where
  declared : networks.mapM declaration = .ok declarations
  handedOut : networks.mapM accessorFunction = .ok accessors

theorem generate_eq_ok_iff : generate networks = .ok text ↔
    ∃ declarations accessors, Rendered networks declarations accessors ∧
      assemble declarations accessors = text := by
  constructor
  · intro h
    obtain ⟨declarations, hdeclarations, h⟩ := bind_eq_ok_iff.mp h
    obtain ⟨accessors, haccessors, h⟩ := bind_eq_ok_iff.mp h
    exact ⟨declarations, accessors, ⟨hdeclarations, haccessors⟩, Except.ok.inj h⟩
  · rintro ⟨declarations, accessors, ⟨hdeclarations, haccessors⟩, rfl⟩
    rw [generate, hdeclarations, haccessors]
    rfl

theorem exists_generate_iff : (∃ text, generate networks = .ok text) ↔
    ∃ declarations accessors, Rendered networks declarations accessors := by
  constructor
  · rintro ⟨text, h⟩
    obtain ⟨declarations, accessors, hrendered, -⟩ := generate_eq_ok_iff.mp h
    exact ⟨declarations, accessors, hrendered⟩
  · rintro ⟨declarations, accessors, hrendered⟩
    exact ⟨_, generate_eq_ok_iff.mpr ⟨declarations, accessors, hrendered, rfl⟩⟩

end ProviderModule

end ProviderBindings
