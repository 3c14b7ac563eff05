import Mathlib.Algebra.GroupWithZero.Nat
import ProviderBindings.Proofs.Agreement
import ProviderBindings.Proofs.StringFields
import ProviderBindings.Proofs.Insertion
import ProviderBindings.Proofs.Utf8RoundTrip

/-! # The size of a module that was written

Once a module is written to a file, a line says how many networks are in it and how large it is.
The count of networks is right, but what is given for the size is the number of characters
(`Program.written_size`).  A character takes one byte if it is of ASCII and more if it is not, so
the file is larger than the line says by what its characters have beyond one byte each
(`Text.length_encode`).  The text that all modules share has nothing beyond; what there is comes
from the pieces that a network supplies (`ProviderModule.excess`).  In a valid manifest only
addresses can have any: names and bounds are of ASCII there.
-/
namespace ProviderBindings

open Attempt

namespace Text

/-! ## Bytes of characters -/

/-- How many bytes a text has beyond one for each character. -/
def surplus (text : String) : Nat := (text.toList.map fun c => c.utf8Size - 1).sum

@[simp] theorem surplus_empty : surplus "" = 0 := rfl

@[simp] theorem surplus_append (s t : String) : surplus (s ++ t) = surplus s + surplus t := by
  simp [surplus]

/-- **The bytes of a text** are as many as its characters and its surplus. -/
theorem length_encode (text : String) :
    (Utf8.encode text.toList).length = text.length + surplus text := by
  rw [surplus, ← String.length_toList]
  induction text.toList with
  | nil => rfl
  | cons c rest ih =>
    have hc := c.utf8Size_pos
    rw [show Utf8.encode (c :: rest) = String.utf8EncodeChar c ++ Utf8.encode rest from rfl,
      List.length_append, String.length_utf8EncodeChar, ih, List.length_cons, List.map_cons,
      List.sum_cons]
    omega

/-- Whether all characters of a text are of ASCII. -/
def AllAscii (text : String) : Prop := ∀ c ∈ text.toList, isAscii c = true

theorem allAscii_append_iff {s t : String} : AllAscii (s ++ t) ↔ AllAscii s ∧ AllAscii t := by
  simp [AllAscii, or_imp, forall_and]

theorem utf8Size_sub_one_eq_zero_iff {c : Char} : c.utf8Size - 1 = 0 ↔ isAscii c = true := by
  have hpos := c.utf8Size_pos
  have hone : c.utf8Size = 1 ↔ c.val ≤ 127 := Char.utf8Size_eq_one_iff
  rw [isAscii, decide_eq_true_iff, show c.toNat < 128 ↔ c.utf8Size = 1 from ?_]
  · omega
  · rw [hone, UInt32.le_iff_toNat_le]
    exact Nat.lt_succ_iff

theorem surplus_eq_zero_iff {text : String} : surplus text = 0 ↔ AllAscii text := by
  rw [surplus, List.sum_eq_zero_iff_forall_eq_nat, List.forall_mem_map, AllAscii]
  simp only [utf8Size_sub_one_eq_zero_iff]

/-- The small letters of ASCII are of ASCII. -/
theorem isAscii_toLower {c : Char} (h : isAscii c = true) : isAscii c.toLower = true := by
  revert c
  refine @forall_ascii _ ?_
  decide +kernel

end Text

namespace Identifier

open Text

/-- A name whose provider is of ASCII has an accessor of ASCII. -/
theorem allAscii_accessor {name : String} (h : AllAscii (storage name)) :
    AllAscii (accessor name) := by
  intro c hc
  rw [accessor_toList, lower_of_ascii h] at hc
  rcases List.mem_append.mp hc with hc | hc
  · exact List.all_eq_true.mp (by decide : accessorStart.toList.all isAscii = true) c hc
  · obtain ⟨d, hd, rfl⟩ := List.mem_map.mp hc
    exact isAscii_toLower (h d hd)

end Identifier

namespace ProviderModule

open Text

variable {networks : List Network} {n : Network} {text d a : String}
  {declarations accessors : List String}

/-! ## Bytes of a module -/

/-- How many bytes a module has beyond its characters on account of a network: those of its
provider, which is named twice, of its accessor, and of its address and bound. -/
def excess (n : Network) : Except Fault Nat := do
  let name ← Identifier.nameText n.name
  let units ← boundLiteral n.computeUnits
  let url ← n.url.text
  return 2 * surplus (Identifier.storage name) + surplus (Identifier.accessor name) +
    surplus url + surplus units

theorem surplus_declarationOf (storage url units : String) :
    surplus (declarationOf storage url units) = surplus storage + surplus url + surplus units := by
  have hstart : surplus "    static ref " = 0 := by decide +kernel
  have htype : surplus ": " = 0 ∧ surplus providerType = 0 := by decide +kernel
  have hcall : surplus " = create_retry_client(\"" = 0 := by decide +kernel
  have hunits : surplus "\", " = 0 := by decide +kernel
  have hend : surplus ").expect(\"Error creating provider\");" = 0 := by decide +kernel
  unfold declarationOf
  repeat rw [surplus_append]
  rw [hstart, htype.1, htype.2, hcall, hunits, hend]
  omega

theorem surplus_line (text : String) : surplus (line text) = surplus text := by
  have hend : surplus "\n" = 0 := by decide +kernel
  rw [line, surplus_append, hend, Nat.add_zero]

theorem surplus_accessorOf (accessor storage : String) :
    surplus (accessorOf accessor storage) = surplus accessor + surplus storage := by
  have hhead : surplus "pub fn " = 0 ∧ surplus "() -> " = 0 := by decide +kernel
  have htype : surplus providerType = 0 ∧ surplus " \x7b" = 0 := by decide +kernel
  have hbody : surplus "    " = 0 ∧ surplus ".clone()" = 0 := by decide +kernel
  have hend : surplus "\x7d" = 0 := by decide +kernel
  unfold accessorOf
  repeat rw [surplus_append]
  repeat rw [surplus_line]
  repeat rw [surplus_append]
  rw [hhead.1, hhead.2, htype.1, htype.2, hbody.1, hbody.2, hend]
  omega

theorem excess_of_pieces (hd : declaration n = .ok d) (ha : accessorFunction n = .ok a) :
    excess n = .ok (surplus d + surplus a) := by
  obtain ⟨name, url, units, hname, hurl, hunits, rfl⟩ := declaration_eq_ok_iff.mp hd
  obtain ⟨name', hname', rfl⟩ := accessorFunction_eq_ok_iff.mp ha
  obtain rfl : name = name' := by simpa using hname.symm.trans hname'
  have hsum (storage accessor url units : Nat) : 2 * storage + accessor + url + units =
      storage + url + units + (accessor + storage) := by omega
  rw [excess, hname, hurl, hunits, surplus_declarationOf, surplus_accessorOf, ← hsum]
  rfl

theorem surplus_join (pieces : List String) :
    surplus (String.join pieces) = (pieces.map surplus).sum := by
  induction pieces with
  | nil => rfl
  | cons piece rest ih => rw [String.join_cons, surplus_append, ih, List.map_cons, List.sum_cons]

/-- What a module has beyond its characters is what its networks account for. -/
theorem Rendered.excess_eq (h : Rendered networks declarations accessors) :
    ∃ extras, networks.mapM excess = .ok extras ∧
      (declarations.map surplus).sum + (accessors.map surplus).sum = extras.sum := by
  induction networks generalizing declarations accessors with
  | nil =>
    obtain ⟨rfl, rfl⟩ := rendered_nil_iff.mp h
    exact ⟨[], rfl, rfl⟩
  | cons n rest ih =>
    obtain ⟨d, ds, a, as, hd, ha, hrest, rfl, rfl⟩ := rendered_cons_iff.mp h
    obtain ⟨extras, hextras, hsum⟩ := ih hrest
    refine ⟨_, mapM_cons_eq_ok_iff.mpr ⟨_, extras, excess_of_pieces hd ha, hextras, rfl⟩, ?_⟩
    simp only [List.map_cons, List.sum_cons]
    omega

theorem surplus_opening : (opening.map surplus).sum = 0 := by
  decide +kernel

theorem surplus_assemble (declarations accessors : List String) :
    surplus (assemble declarations accessors) =
      (declarations.map surplus).sum + (accessors.map surplus).sum := by
  have hclosing : surplus closing = 0 := by decide
  have hlines : surplus ∘ line = surplus := funext surplus_line
  have hblocks : (surplus ∘ fun accessor => line "" ++ line accessor) = surplus := by
    funext accessor
    rw [Function.comp_apply, surplus_append, surplus_line, surplus_line, surplus_empty,
      Nat.zero_add]
  simp only [assemble, surplus_append, surplus_join, List.map_map, surplus_line, hlines, hblocks,
    surplus_opening, hclosing, Nat.zero_add, Nat.add_zero]

/-- **The bytes of a module.** -/
theorem length_encode_generate (h : generate networks = .ok text) :
    ∃ extras, networks.mapM excess = .ok extras ∧
      (Utf8.encode text.toList).length = text.length + extras.sum := by
  obtain ⟨declarations, accessors, hrendered, rfl⟩ := generate_eq_ok_iff.mp h
  obtain ⟨extras, hextras, hsum⟩ := hrendered.excess_eq
  exact ⟨extras, hextras, by rw [length_encode, surplus_assemble, hsum]⟩

/-- Whether the texts that a network supplies to a module are of ASCII: its provider, from which its
accessor is derived, its address and its bound. -/
def SuppliesAscii (n : Network) : Prop := ∃ name url units, n.name = .string name ∧
  n.url = .string url ∧ boundLiteral n.computeUnits = .ok units ∧
    AllAscii (Identifier.storage name) ∧ AllAscii url ∧ AllAscii units

theorem excess_eq_zero_iff {url : String} (h : n.url = .string url) :
    excess n = .ok 0 ↔ SuppliesAscii n := by
  constructor
  · intro hzero
    obtain ⟨name, hname, hzero⟩ := bind_eq_ok_iff.mp hzero
    obtain ⟨units, hunits, hzero⟩ := bind_eq_ok_iff.mp hzero
    rw [h, Value.text_string] at hzero
    have hsum : 2 * surplus (Identifier.storage name) + surplus (Identifier.accessor name) +
      surplus url + surplus units = 0 := Except.ok.inj hzero
    refine ⟨name, url, units, Identifier.nameText_eq_ok_iff.mp hname, h, hunits, ?_⟩
    simp only [← surplus_eq_zero_iff]
    omega
  · rintro ⟨name, url', units, hname, hurl, hunits, hstorage, hascii, hbound⟩
    have haccessor := surplus_eq_zero_iff.mpr (Identifier.allAscii_accessor hstorage)
    rw [← surplus_eq_zero_iff] at hstorage hascii hbound
    rw [excess, hname, hurl, hunits, Identifier.nameText_string, Value.text_string]
    simp only [ok_bind, hstorage, haccessor, hascii, hbound]
    rfl

/-- The networks account for nothing exactly when none of them does. -/
theorem sum_eq_zero_iff_of_mapM {extras : List Nat} (h : networks.mapM excess = .ok extras) :
    extras.sum = 0 ↔ ∀ n ∈ networks, excess n = .ok 0 := by
  induction networks generalizing extras with
  | nil =>
    cases h
    simp
  | cons n rest ih =>
    obtain ⟨k, more, hk, hmore, rfl⟩ := mapM_cons_eq_ok_iff.mp h
    rw [List.sum_cons, Nat.add_eq_zero_iff, ih hmore, List.forall_mem_cons, hk, Except.ok.injEq]

/-- Digits and signs are of ASCII. -/
theorem allAscii_of_integerText {k : Int} {digits : String} (h : integerText k = .ok digits) :
    AllAscii digits := by
  intro c hc
  by_cases hshort : IsShort k
  · rw [integerText_of_isShort hshort] at h
    cases h
    rw [String.toList_ofList] at hc
    by_contra hother
    refine not_mem_integer ?_ ?_ k hc
    · rw [Bool.eq_false_iff]
      intro hdigit
      exact hother (Identifier.isAscii_of_isPart (by simp [Identifier.isPart_eq, hdigit]))
    · rintro rfl
      exact hother (by decide)
  · rw [integerText_of_not_isShort hshort] at h
    cases h

/-- A bound that the checks let through is written in ASCII. -/
theorem allAscii_of_boundLiteral {v : Value} {units : String}
    (h : v = .absent ∨ ∃ k : Int, v = .integer k ∧ 0 < k) (hunits : boundLiteral v = .ok units) :
    AllAscii units := by
  rcases h with rfl | ⟨k, rfl, hk⟩
  · obtain rfl : "None" = units := Except.ok.inj hunits
    exact surplus_eq_zero_iff.mp (by decide +kernel)
  · obtain ⟨digits, hdigits, hunits⟩ := bind_eq_ok_iff.mp hunits
    obtain rfl : "Some(" ++ digits ++ ")" = units := Except.ok.inj hunits
    have hascii : AllAscii digits := by
      rw [Value.text, Value.inspect] at hdigits
      · exact allAscii_of_integerText hdigits
      all_goals simp
    refine allAscii_append_iff.mpr ⟨allAscii_append_iff.mpr ⟨?_, hascii⟩, ?_⟩
    · exact surplus_eq_zero_iff.mp (by decide +kernel)
    · exact surplus_eq_zero_iff.mp (by decide +kernel)

/-- Of a network that the checks let through, only the address can have other characters. -/
theorem suppliesAscii_iff (h : n.Acceptable) (hd : ∃ d, declaration n = .ok d) :
    SuppliesAscii n ↔ ∃ url, n.url = .string url ∧ AllAscii url := by
  constructor
  · rintro ⟨name, url, units, -, hurl, -, -, hascii, -⟩
    exact ⟨url, hurl, hascii⟩
  · rintro ⟨url, hurl, hascii⟩
    obtain ⟨name, hname, hisName⟩ := h.name
    obtain ⟨d, hd⟩ := hd
    obtain ⟨_, _, units, -, -, hunits, -⟩ := declaration_eq_ok_iff.mp hd
    exact ⟨name, url, units, hname, hurl, hunits,
      fun c hc => Identifier.isAscii_of_isCapital (Identifier.isCapital_storage hisName c hc),
      hascii, allAscii_of_boundLiteral h.units hunits⟩

end ProviderModule

namespace Program

open Session Text

variable {settings : GenerateSettings} {m : Manifest} {config : Option Options.Given}
  {files : FileTree}

/-! ## The line about a module -/

/-- The line that says that a module of so many networks and of such a size was written. -/
def receiptFor (path : String) (count size : Nat) : String :=
  s!"  networks: wrote {path} ({count} networks, {size} bytes)" ++ "\n"

theorem receipt_eq (path : String) (count : Nat) (text : String) :
    receipt path count text = receiptFor path count text.length := rfl

theorem receiptFor_inj {path : String} {count size size' : Nat} :
    receiptFor path count size = receiptFor path count size' ↔ size = size' := by
  constructor
  · intro h
    unfold receiptFor at h
    have hrepr : Nat.repr size = Nat.repr size' := by simpa using h
    rw [Nat.repr_eq_ofList_toDigits, Nat.repr_eq_ofList_toDigits] at hrepr
    have hdigits : decimal size = decimal size' := String.ofList_injective hrepr
    rw [← decimalValue_decimal size, hdigits, decimalValue_decimal]
  · rintro rfl
    rfl

/-- **The size of a written module.**  The command that writes the module has a file to write it
to, and it ends with status 0, whatever its options are.  Then the file holds the bytes of the
module.  The line on the standard output gives the number of networks, but in place of the number
of bytes that of the characters.  So it is too small by what the networks account for, and it is
right exactly when all texts that they supply are of ASCII; in a valid manifest, when all addresses
are. -/
theorem written_size (hload : Loads config files m) (hfile : destination? settings m ≠ none)
    (hexit : (outcome (answer (.run config (.generate settings))) files).ending = .exit 0) :
    let o := outcome (answer (.run config (.generate settings))) files
    ∃ path text bytes extras, destination? settings m = some (.string path) ∧
      ProviderModule.generate m.networks = .ok text ∧
      o.files.read (.ofString path) = .ok bytes ∧ Utf8.decode bytes = .ok text.toList ∧
      o.out = receiptFor path m.networks.length text.length ∧
      m.networks.mapM ProviderModule.excess = .ok extras ∧
      bytes.length = text.length + extras.sum ∧
      (o.out = receiptFor path m.networks.length bytes.length ↔
        ∀ n ∈ m.networks, ProviderModule.SuppliesAscii n) ∧
      ∀ findings, Check.all m.networks = .ok findings → findings.isValid = true →
        (o.out = receiptFor path m.networks.length bytes.length ↔
          ∀ n ∈ m.networks, ∃ url, n.url = .string url ∧ AllAscii url) := by
  intro o
  have ho : o = outcome (generate settings m) files := outcome_answer_run hload _
  have hending : (outcome (generate settings m) files).ending = .exit 0 := by
    rw [← ho]
    exact hexit
  obtain ⟨findings, text, place, hchecked, hpermission, -, htext, hplace, hdelivers⟩ :=
    delivers_of_exit hending
  rw [← ho] at hdelivers
  obtain ⟨path, rfl⟩ : ∃ path, place = some path := by
    cases place with
    | none => exact absurd hplace hfile
    | some path => exact ⟨path, rfl⟩
  obtain ⟨hout, hsaved⟩ := hdelivers
  rw [receipt_eq] at hout
  obtain ⟨extras, hextras, hlength⟩ := ProviderModule.length_encode_generate htext
  have hright : o.out = receiptFor path m.networks.length (Utf8.encode text.toList).length ↔
      ∀ n ∈ m.networks, ProviderModule.SuppliesAscii n := by
    rw [hout, receiptFor_inj, hlength, Nat.left_eq_add,
      ProviderModule.sum_eq_zero_iff_of_mapM hextras]
    refine forall₂_congr fun n hn => ?_
    obtain ⟨-, url, hurl⟩ := strings_of_permission hchecked hpermission n hn
    exact ProviderModule.excess_eq_zero_iff hurl
  refine ⟨path, text, _, extras, hplace, htext, hsaved.content, Utf8.decode_encode _, hout,
    hextras, hlength, hright, ?_⟩
  intro findings' hchecked' hvalid
  obtain rfl : findings = findings' := Except.ok.inj (hchecked.symm.trans hchecked')
  rw [hright]
  refine forall₂_congr fun n hn => ?_
  have hacceptable := (Check.isValid_iff_acceptable hchecked).mp hvalid
  obtain ⟨declarations, accessors, hrendered, -⟩ := ProviderModule.generate_eq_ok_iff.mp htext
  exact ProviderModule.suppliesAscii_iff (hacceptable.fields n hn)
    (exists_of_mapM_eq_ok hrendered.declared n hn)

/-- The module of a network whose address has one character that takes two bytes. -/
theorem nonAsciiUrl_size :
    let settings : GenerateSettings := ⟨some (.text "meter.rs"), false, false⟩
    let o := outcome (answer (.run (some (.text "-1")) (.generate settings))) nonAsciiUrlFiles
    Loads (some (.text "-1")) nonAsciiUrlFiles nonAsciiUrl ∧
      destination? settings nonAsciiUrl ≠ none ∧ o.ending = .exit 0 ∧
      ∃ text bytes, ProviderModule.generate nonAsciiUrl.networks = .ok text ∧
        o.files.read (.ofString "meter.rs") = .ok bytes ∧ bytes.length = text.length + 1 ∧
        o.out = receiptFor "meter.rs" 1 text.length ∧
        o.out ≠ receiptFor "meter.rs" 1 bytes.length := by
  intro settings o
  have hplace : destination? settings nonAsciiUrl = some (.string "meter.rs") := rfl
  have hfile : destination? settings nonAsciiUrl ≠ none := by simp [hplace]
  have hexit : o.ending = .exit 0 := by decide +kernel
  obtain ⟨path, text, bytes, extras, hpath, htext, hread, -, hout, hextras, hlength, -, -⟩ :=
    written_size loads_nonAsciiUrl hfile hexit
  obtain rfl : "meter.rs" = path := by simpa [hplace] using hpath
  obtain rfl : [1] = extras := by
    have hone : nonAsciiUrl.networks.mapM ProviderModule.excess = .ok [1] :=
      eq_ok_of_toOption (by decide +kernel)
    exact Except.ok.inj (hone.symm.trans hextras)
  refine ⟨loads_nonAsciiUrl, hfile, hexit, text, bytes, htext, hread, hlength, hout, ?_⟩
  intro hright
  have hsame := receiptFor_inj.mp (hout.symm.trans hright)
  have hone : bytes.length = text.length + 1 := hlength
  omega

end Program

end ProviderBindings
