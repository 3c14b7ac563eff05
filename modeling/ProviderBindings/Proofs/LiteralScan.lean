import ProviderBindings.Proofs.Acceptance
import ProviderBindings.Proofs.ModuleReader
import ProviderBindings.Proofs.Rendering

/-! # The literal in which an address stands

An address is copied into a string literal of its declaration as it is.  Here that literal is read
as the compiler of the module reads it, character by character: a backslash begins an escape and
takes the next character with it, a quotation mark ends the literal unless it belongs to an escape,
and an end of line has no place in one (`scanLiteral`).

A scan without escapes stops at the first character that the check of addresses looks for
(`scanLiteral_eq_some_iff`).  So the check is neither too strict nor too lax: it finds nothing in an
address exactly when the literal, scanned, is that address, and the declaration goes on after it as
it was meant to (`findingsOnUrl_eq_nil_iff_scanned`).
-/
namespace ProviderBindings.ProviderModule

open Network (breaksLiteral)

/-- What the scan of a literal comes to: its characters as they are written, whether there is an
escape among them, and what follows the mark that ends it. -/
structure Literal where
  chars : List Char
  escaped : Bool
  rest : List Char
  deriving DecidableEq, Repr

/-- The literal that a text goes on with after an opening quotation mark, if it comes to an end. -/
def scanLiteral : List Char → Option Literal
  | [] => none
  | ['\\'] => none
  | '\\' :: c :: rest =>
    (scanLiteral rest).map fun literal => ⟨'\\' :: c :: literal.chars, true, literal.rest⟩
  | c :: rest =>
    if c = '"' then some ⟨[], false, rest⟩
    else if c = '\n' ∨ c = '\r' then none
    else (scanLiteral rest).map fun literal => { literal with chars := c :: literal.chars }

/-- What stands in a declaration before the address. -/
def untilUrl (storage : String) : String := "    static ref " ++ storage ++ beforeUrl

/-- What stands in a declaration after the address and the mark that ends its literal. -/
def afterUrl (units : String) : String := ", " ++ units ++ afterUnits

theorem scanLiteral_cons_of_plain {c : Char} (h : breaksLiteral c = false) (rest : List Char) :
    scanLiteral (c :: rest) =
      (scanLiteral rest).map fun literal => { literal with chars := c :: literal.chars } := by
  obtain ⟨hquote, hslash, hends⟩ : c ≠ '"' ∧ c ≠ '\\' ∧ ¬ (c = '\n' ∨ c = '\r') := by
    simpa [breaksLiteral] using h
  rw [scanLiteral]
  · rw [if_neg hquote, if_neg hends]
  · rintro rfl
    exact absurd rfl hslash
  · rintro _ _ rfl
    exact absurd rfl hslash

/-- A scan that meets no escape reads what stands before the first quotation mark, if no character
before it could end or change a literal. -/
theorem scanLiteral_eq_some_iff {text chars rest : List Char} :
    scanLiteral text = some ⟨chars, false, rest⟩ ↔
      text = chars ++ '"' :: rest ∧ chars.any breaksLiteral = false := by
  constructor
  · intro h
    fun_induction scanLiteral text generalizing chars with
    | case1 => cases h
    | case2 => cases h
    | case3 c text ih =>
      obtain ⟨literal, -, hliteral⟩ := Option.map_eq_some_iff.mp h
      cases hliteral
    | case4 text =>
      cases h
      exact ⟨rfl, rfl⟩
    | case5 => cases h
    | case6 c text hlast hescape hquote hend ih =>
      -- a backslash would have begun an escape, or been the last character
      have hslash : c ≠ '\\' := by
        intro hc
        cases text with
        | nil => exact hlast hc rfl
        | cons d others => exact hescape d others hc rfl
      obtain ⟨⟨others, escaped, after⟩, hothers, hliteral⟩ := Option.map_eq_some_iff.mp h
      cases hliteral
      obtain ⟨rfl, hplain⟩ := ih hothers
      refine ⟨rfl, ?_⟩
      rw [List.any_cons, hplain, Bool.or_false]
      simpa [breaksLiteral, hquote, hslash] using hend
  · rintro ⟨rfl, hchars⟩
    induction chars with
    | nil => rfl
    | cons c others ih =>
      rw [List.any_cons, Bool.or_eq_false_iff] at hchars
      rw [List.cons_append, scanLiteral_cons_of_plain hchars.1, ih hchars.2]
      rfl

/-! ## The declaration of a network -/

/-- Nothing is found in an address that is not empty exactly when no character of it could end or
change a literal. -/
theorem findingsOnUrl_eq_nil_iff {n : Network} {url : String} (hurl : n.url = .string url)
    (hne : url ≠ "") (index : Nat) :
    n.findingsOnUrl index = .ok [] ↔ url.toList.any breaksLiteral = false := by
  unfold Network.findingsOnUrl
  simp only [hurl, if_neg hne]
  cases url.toList.any breaksLiteral with
  | true =>
    refine iff_of_false (fun h => ?_) Bool.noConfusion
    cases h
  | false => exact iff_of_true rfl rfl

theorem toList_three_append (s t u : String) (rest : List Char) :
    (s ++ t ++ u).toList ++ rest = s.toList ++ (t.toList ++ (u.toList ++ rest)) := by
  simp only [String.toList_append, List.append_assoc]

theorem skip_untilUrl (storage url units : String) :
    skip (untilUrl storage) (declarationOf storage url units).toList =
      some (url.toList ++ '"' :: (afterUrl units).toList) := by
  have hafter : (afterUrl units).toList =
      ", ".toList ++ (units.toList ++ (afterUnits.toList ++ [])) :=
    (List.append_nil _).symm.trans (toList_three_append ..)
  have htext : (declarationOf storage url units).toList =
      (untilUrl storage).toList ++ (url.toList ++ '"' :: (afterUrl units).toList) := by
    refine (declarationOf_toList ..).trans (Eq.trans ?_ (toList_three_append ..).symm)
    rw [hafter, List.append_nil]
    rfl
  rw [htext, skip_append]

/-- **The check of addresses is exact.**  Take a network whose name is a string, whose address is a
string and not empty, and whose bound can be shown.  It has a declaration, which begins as it
should up to the literal of the address.  The check finds nothing in the address exactly when a
scan of what follows meets no escape, reads the address, character by character, and leaves the
comma, the bound and the end of the declaration. -/
theorem findingsOnUrl_eq_nil_iff_scanned {n : Network} {name url units : String}
    (hname : n.name = .string name) (hurl : n.url = .string url) (hne : url ≠ "")
    (hunits : boundLiteral n.computeUnits = .ok units) :
    ∃ text rest, declaration n = .ok text ∧
      skip (untilUrl (Identifier.storage name)) text.toList = some rest ∧
      ∀ index, n.findingsOnUrl index = .ok [] ↔
        scanLiteral rest = some ⟨url.toList, false, (afterUrl units).toList⟩ := by
  have htext : n.url.text = .ok url := by rw [hurl, Value.text_string]
  refine ⟨_, _, declaration_eq_ok hname htext hunits, skip_untilUrl _ _ _, fun index => ?_⟩
  rw [findingsOnUrl_eq_nil_iff hurl hne, scanLiteral_eq_some_iff]
  exact (and_iff_right rfl).symm

/-- A network with an address that looks like the end of its declaration, but for the mark. -/
def tailInUrl : Network := ⟨.string "Base", .string "£', None).expect(", .integer 660⟩

/-- A network with an address whose last character, a backslash, takes the mark after it into an
escape. -/
def backslashAtUrlEnd : Network := ⟨.string "Base", .string "£\\", .absent⟩

theorem tailInUrl_scanned : tailInUrl.findingsOnUrl 0 = .ok [] ∧
    (∃ text rest, declaration tailInUrl = .ok text ∧
      skip (untilUrl "BASE_PROVIDER") text.toList = some rest ∧ scanLiteral rest =
        some ⟨"£', None).expect(".toList, false, (afterUrl "Some(660)").toList⟩) ∧
    backslashAtUrlEnd.findingsOnUrl 0 ≠ .ok [] ∧
    ∃ text rest, declaration backslashAtUrlEnd = .ok text ∧
      skip (untilUrl "BASE_PROVIDER") text.toList = some rest ∧
      scanLiteral rest ≠ some ⟨"£\\".toList, false, (afterUrl "None").toList⟩ := by
  have hbound : boundLiteral tailInUrl.computeUnits = .ok "Some(660)" :=
    Attempt.eq_ok_of_toOption (by decide +kernel)
  have hclean : tailInUrl.findingsOnUrl 0 = .ok [] := rfl
  have hflagged : backslashAtUrlEnd.findingsOnUrl 0 ≠ .ok [] := nofun
  obtain ⟨text, rest, htext, hrest, hscan⟩ := @findingsOnUrl_eq_nil_iff_scanned tailInUrl "Base"
    "£', None).expect(" "Some(660)" rfl rfl (by decide) hbound
  obtain ⟨other, after, hother, hafter, hescape⟩ := @findingsOnUrl_eq_nil_iff_scanned
    backslashAtUrlEnd "Base" "£\\" "None" rfl rfl (by decide) rfl
  have hstorage : Identifier.storage "Base" = "BASE_PROVIDER" := by decide +kernel
  rw [hstorage] at hrest hafter
  exact ⟨hclean, ⟨text, rest, htext, hrest, (hscan 0).mp hclean⟩, hflagged, other, after, hother,
    hafter, mt (hescape 0).mpr hflagged⟩

end ProviderBindings.ProviderModule
