import ProviderBindings.Proofs.Attempt
import ProviderBindings.Toml.Document

/-! # Where reading a document stops

A text that is no document has a problem at some place, which can be told.  There is one other
failure, which has no place: an integer with more decimal digits than are read.  That failure
counts the digits, so what has to be shown is that no reader makes it up.  Each reader fails as the
readers within it do, and in the end with a problem of its own, or it is the one reader of numbers
in decimal (`fair_readDecimal?`).  So it is followed from there up to documents
(`digitLimit_lt_of_parse`).
-/
namespace ProviderBindings.Toml

open Attempt

/-- A failure that counts digits counts more of them than are read. -/
def IsFair : Failure → Prop
  | .problem _ _ => True
  | .tooManyDigits count => digitLimit < count

theorem fair_fail {α : Type} (p : Problem) (rest : List Char) :
    FailsWithin IsFair (fail p rest : Except Failure α) := .error trivial

theorem fair_skipCommentBody (text : List Char) : FailsWithin IsFair (skipCommentBody text) := by
  fun_induction skipCommentBody text with
  | case1 => exact .ok _
  | case2 => exact .ok _
  | case3 => exact fair_fail _ _
  | case4 c rest _ _ ih => exact ih

theorem fair_skipComment (text : List Char) : FailsWithin IsFair (skipComment text) := by
  unfold skipComment
  split
  · exact fair_skipCommentBody _
  · exact .ok _

theorem fair_skipTriviaFrom (inComment : Bool) (text : List Char) :
    FailsWithin IsFair (skipTriviaFrom inComment text) := by
  fun_induction skipTriviaFrom inComment text <;>
    first | exact .ok _ | exact fair_fail _ _ | assumption

theorem fair_readUntil (delimiter : List Char) (refused : Char → Bool) (text : List Char) :
    FailsWithin IsFair (readUntil delimiter refused text) := by
  unfold readUntil
  split
  · exact fair_fail _ _
  · split
    · split
      · exact fair_fail _ _
      · exact .ok _
    · exact .ok _

theorem fair_readBasic (multiline : Bool) (gap : Gap) (text : List Char) :
    FailsWithin IsFair (readBasic multiline gap text) := by
  fun_induction readBasic multiline gap text <;>
    first | exact .ok _ | exact fair_fail _ _ | assumption | exact FailsWithin.map _ (by assumption)

theorem fair_readBasicLine (text : List Char) : FailsWithin IsFair (readBasicLine text) :=
  (fair_readBasic _ _ _).bind fun _ => .ok _

theorem fair_readLiteralLine (text : List Char) : FailsWithin IsFair (readLiteralLine text) :=
  (fair_readUntil _ _ _).bind fun _ => .ok _

theorem fair_readBasicLines (text : List Char) : FailsWithin IsFair (readBasicLines text) :=
  (fair_readBasic _ _ _).bind fun _ => .ok _

theorem fair_readLiteralLines (text : List Char) : FailsWithin IsFair (readLiteralLines text) :=
  (fair_readUntil _ _ _).bind fun _ => .ok _

theorem fair_readKeyPart (text : List Char) : FailsWithin IsFair (readKeyPart text) := by
  unfold readKeyPart
  split
  · exact fair_readLiteralLine _
  · exact fair_readBasicLine _
  · split
    · exact fair_fail _ _
    · exact .ok _

theorem fair_readKeyOf (parts : Nat) (text : List Char) :
    FailsWithin IsFair (readKeyOf parts text) := by
  induction parts generalizing text with
  | zero => exact fair_fail _ _
  | succ parts ih =>
    refine (fair_readKeyPart text).bind ?_
    rintro ⟨part, rest⟩
    dsimp only
    split
    · exact (ih _).bind fun _ => .ok _
    · exact .ok _

theorem fair_orFail {α : Type} (rest : List Char) (x : Except Problem α) :
    FailsWithin IsFair (orFail rest x) := by
  cases x with
  | ok a => exact .ok a
  | error p => exact fair_fail _ _

theorem fair_readDecimal? {text : List Char} {reading : Except Failure (Scanned Value)}
    (h : readDecimal? text = some reading) : FailsWithin IsFair reading := by
  obtain ⟨⟨whole, rest⟩, -, h⟩ := Option.bind_eq_some_iff.mp h
  dsimp only at h
  split at h
  · split at h
    · rename_i hlong
      cases h
      exact .error hlong
    · cases h
      exact .ok _
  · cases h
    exact .ok _

theorem fair_readScalar (text : List Char) : FailsWithin IsFair (readScalar text) := by
  unfold readScalar
  repeat' split
  all_goals first | exact .ok _ | exact fair_fail _ _ | exact fair_readDecimal? (by assumption)

section

variable {item : ItemReader} (hitem : ∀ text, FailsWithin IsFair (item text))
include hitem

theorem fair_readPair (text : List Char) : FailsWithin IsFair (readPair item text) := by
  refine (fair_readKeyOf _ _).bind ?_
  rintro ⟨key, rest⟩
  dsimp only
  split
  · exact (hitem _).bind fun _ => .ok _
  · exact fair_fail _ _

theorem fair_readItems (count : Nat) (text : List Char) :
    FailsWithin IsFair (readItems item count text) := by
  induction count generalizing text with
  | zero => exact fair_fail _ _
  | succ count ih =>
    unfold readItems
    split
    · exact .ok _
    · refine (hitem _).bind ?_
      rintro ⟨v, rest⟩
      refine (fair_skipTriviaFrom _ _).bind fun next => ?_
      split
      · exact .ok _
      · exact (fair_skipTriviaFrom _ _).bind fun _ => (ih _).bind fun _ => .ok _
      · exact fair_fail _ _

theorem fair_readPairs (count : Nat) (frozen : List Key) (t : Table) (text : List Char) :
    FailsWithin IsFair (readPairs item count frozen t text) := by
  induction count generalizing frozen t text with
  | zero => exact fair_fail _ _
  | succ count ih =>
    refine (fair_readPair hitem text).bind ?_
    rintro ⟨⟨key, v⟩, rest⟩
    refine (fair_orFail _ _).bind fun t => ?_
    dsimp only
    split
    · exact .ok _
    · exact ih _ _ _
    · exact fair_fail _ _

theorem fair_readInlineTable (text : List Char) :
    FailsWithin IsFair (readInlineTable item text) := by
  unfold readInlineTable
  split
  · exact .ok _
  · exact (fair_readPairs hitem _ _ _ _).bind fun _ => .ok _

theorem fair_readArray (text : List Char) : FailsWithin IsFair (readArray item text) :=
  (fair_skipTriviaFrom _ _).bind fun _ => (fair_readItems hitem _ _).bind fun _ => .ok _

end

theorem fair_readItem (depth : Nat) (text : List Char) :
    FailsWithin IsFair (readItem depth text) := by
  induction depth generalizing text with
  | zero => exact fair_fail _ _
  | succ depth ih =>
    unfold readItem
    split
    · exact (fair_readBasicLines _).map _
    · exact (fair_readBasicLine _).map _
    · exact (fair_readLiteralLines _).map _
    · exact (fair_readLiteralLine _).map _
    · exact .ok _
    · exact .ok _
    · exact fair_readArray ih _
    · exact fair_readInlineTable ih _
    · exact fair_readScalar _

theorem fair_readArrayHeader (d : Draft) (text : List Char) :
    FailsWithin IsFair (readArrayHeader d text) := by
  refine (fair_readKeyOf _ _).bind ?_
  rintro ⟨key, rest⟩
  refine (fair_orFail _ _).bind fun d => ?_
  split
  · exact .ok _
  · exact fair_fail _ _

theorem fair_readTableHeader (d : Draft) (text : List Char) :
    FailsWithin IsFair (readTableHeader d text) := by
  refine (fair_readKeyOf _ _).bind ?_
  rintro ⟨key, rest⟩
  refine (fair_orFail _ _).bind fun d => ?_
  split
  · exact .ok _
  · exact fair_fail _ _

theorem fair_readStatement (d : Draft) (text : List Char) :
    FailsWithin IsFair (readStatement d text) := by
  unfold readStatement
  split
  · exact fair_readArrayHeader _ _
  · exact fair_readTableHeader _ _
  · exact .ok _
  · split
    · refine (fair_readPair (fair_readItem _) _).bind ?_
      rintro ⟨⟨key, v⟩, rest⟩
      exact (fair_orFail _ _).bind fun _ => .ok _
    · exact fair_fail _ _
  · exact .ok _

theorem fair_readLines (lines : Nat) (d : Draft) (text : List Char) :
    FailsWithin IsFair (readLines lines d text) := by
  induction lines generalizing d text with
  | zero => exact .ok _
  | succ lines ih =>
    unfold readLines
    split
    · exact .ok _
    · exact ih _ _
    · refine (fair_readStatement _ _).bind ?_
      rintro ⟨d, rest⟩
      refine (fair_skipComment _).bind fun next => ?_
      split
      · exact .ok _
      · exact ih _ _
      · exact fair_fail _ _

/-- **The reader refuses no integer but those with more digits than are read.** -/
theorem digitLimit_lt_of_parse {text : List Char} {count : Nat}
    (h : parse text = .error (.tooManyDigits count)) : digitLimit < count := by
  unfold parse at h
  dsimp only at h
  split at h
  · cases h
  · cases h
  · rename_i hread
    cases h
    exact FailsWithin.map _ (fair_readLines _ _ _) _ hread

end ProviderBindings.Toml
