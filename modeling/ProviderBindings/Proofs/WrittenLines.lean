import ProviderBindings.Proofs.Attempt
import ProviderBindings.Toml.Document

/-! # Reading a document line by line

A document that is written with one statement on each line, and nothing else, is read one line
after the other, each from the draft that the lines before have made (`readDocument_ended`).
There are three kinds of lines here: the header of a table, the header of the next table of an
array, and a key with a value.  A key is one bare part.  What a value is read as does not depend
on what the text goes on with after the line.

As long as all values are strings and numbers, nothing in a draft is frozen.
-/
namespace ProviderBindings.Toml

/-! ## Keys -/

/-- Whether a text can be written bare as a part of a key. -/
def isBare (part : String) : Bool := !part.toList.isEmpty && part.toList.all isBareKeyChar

theorem exists_cons_of_isBare {part : String} (h : isBare part = true) :
    ∃ c more, part.toList = c :: more ∧ isBareKeyChar c = true := by
  obtain ⟨hne, hall⟩ := Bool.and_eq_true_iff.mp h
  rcases hpart : part.toList with _ | ⟨c, more⟩
  · rw [hpart] at hne
    cases hne
  · rw [hpart, List.all_cons, Bool.and_eq_true_iff] at hall
    exact ⟨c, more, rfl, hall.1⟩

/-- What a bare part begins with is none of the marks that mean something at the start of a
line. -/
theorem ne_of_isBareKeyChar {c : Char} (h : isBareKeyChar c = true) :
    c ≠ '[' ∧ c ≠ '#' ∧ c ≠ '"' ∧ c ≠ '\'' ∧ isSpace c = false := by
  have hne : ∀ {d}, isBareKeyChar d = false → c ≠ d := by
    rintro d hd rfl
    rw [hd] at h
    cases h
  have hspace : c ≠ ' ' := hne (by decide)
  have htab : c ≠ '\t' := hne (by decide)
  have hend : c ≠ '\n' := hne (by decide)
  refine ⟨hne (by decide), hne (by decide), hne (by decide), hne (by decide), ?_⟩
  simp [isSpace, isBlank, hspace, htab, hend]

theorem skipBlanks_cons {c : Char} (h : isBlank c = false) (rest : List Char) :
    skipBlanks (c :: rest) = c :: rest := by
  simp [skipBlanks, h]

theorem isBlank_eq_false_of_isSpace {c : Char} (h : isSpace c = false) : isBlank c = false :=
  (Bool.or_eq_false_iff.mp h).1

/-- A bare part is a key by itself, if no other part follows. -/
theorem readKey_bare {part : String} (hpart : isBare part = true) {d c : Char}
    {more rest : List Char} (hd : isBareKeyChar d = false)
    (hskip : skipBlanks (d :: more) = c :: rest) (hdot : c ≠ '.') :
    readKey (part.toList ++ d :: more) = .ok ([part], c :: rest) := by
  have hall : ∀ e ∈ part.toList, isBareKeyChar e = true :=
    List.all_eq_true.mp (Bool.and_eq_true_iff.mp hpart).2
  have htake : (part.toList ++ d :: more).takeWhile isBareKeyChar = part.toList := by
    rw [List.takeWhile_append_of_pos hall, List.takeWhile_cons_of_neg (by simp [hd]),
      List.append_nil]
  have hdrop : (part.toList ++ d :: more).dropWhile isBareKeyChar = d :: more := by
    rw [List.dropWhile_append_of_pos hall, List.dropWhile_cons_of_neg (by simp [hd])]
  have hreadPart : readKeyPart (part.toList ++ d :: more) = .ok (part, d :: more) := by
    obtain ⟨e, chars, hchars, he⟩ := exists_cons_of_isBare hpart
    obtain ⟨-, -, hquote, happostrophe, -⟩ := ne_of_isBareKeyChar he
    have hofList : String.ofList (e :: chars) = part := by rw [← hchars, String.ofList_toList]
    rw [hchars] at htake hdrop ⊢
    rw [List.cons_append] at htake hdrop ⊢
    unfold readKeyPart
    split
    · rename_i heq
      exact absurd (List.cons.inj heq).1 happostrophe
    · rename_i heq
      exact absurd (List.cons.inj heq).1 hquote
    · rw [htake, hdrop]
      show Except.ok (String.ofList (e :: chars), d :: more) = _
      rw [hofList]
  rw [readKey, readKeyOf, hreadPart]
  simp only [bind, Except.bind, hskip]
  split
  · rename_i heq
    exact absurd (List.cons.inj heq).1 hdot
  · rfl

/-! ## Lines -/

/-- The line of the header of a table. -/
def tableLine (part : String) : String := "[" ++ part ++ "]"

/-- The line of the header of the next table of an array. -/
def nextTableLine (part : String) : String := "[[" ++ part ++ "]]"

/-- The line of a key with its value. -/
def pairLine (part value : String) : String := part ++ " = " ++ value

/-- From one draft to the next by a line, whatever follows it. -/
structure ReadsLine (d : Draft) (line : String) (d' : Draft) : Prop where
  start : ∃ c more, line.toList = c :: more ∧ isSpace c = false
  statement : ∀ rest, readStatement d (line.toList ++ '\n' :: rest) = .ok (d', '\n' :: rest)

/-- From one draft to another by lines. -/
inductive Reads : Draft → List String → Draft → Prop
  | nil {d : Draft} : Reads d [] d
  | cons {d d' d'' : Draft} {line : String} {lines : List String} :
      ReadsLine d line d' → Reads d' lines d'' → Reads d (line :: lines) d''

theorem Reads.append {d d' d'' : Draft} {lines more : List String} (h : Reads d lines d')
    (h' : Reads d' more d'') : Reads d (lines ++ more) d'' := by
  induction h with
  | nil => exact h'
  | cons hline _ ih => exact .cons hline (ih h')

theorem return_not_mem_pairLine {part value : String} (hpart : '\r' ∉ part.toList)
    (hvalue : '\r' ∉ value.toList) : '\r' ∉ (pairLine part value).toList := by
  simp [pairLine, hpart, hvalue]

/-- A text of lines that are ended. -/
def ended (lines : List String) : String := String.join (lines.map (· ++ "\n"))

theorem toList_ended_cons (line : String) (lines : List String) :
    (ended (line :: lines)).toList = line.toList ++ '\n' :: (ended lines).toList := by
  simp [ended]

theorem return_not_mem_ended {lines : List String} (h : ∀ l ∈ lines, '\r' ∉ l.toList) :
    '\r' ∉ (ended lines).toList := by
  induction lines with
  | nil => exact List.not_mem_nil
  | cons line lines ih =>
    rw [toList_ended_cons, List.mem_append, List.mem_cons]
    rintro (hmem | heq | hmem)
    · exact h line List.mem_cons_self hmem
    · exact absurd heq (by decide)
    · exact ih (fun l hl => h l (List.mem_cons_of_mem line hl)) hmem

/-- Lines are read one by one, if there are not more of them than are allowed. -/
theorem readLines_ended {d d' : Draft} {lines : List String} (h : Reads d lines d') {count : Nat}
    (hcount : lines.length < count) : readLines count d (ended lines).toList = .ok d' := by
  induction h generalizing count with
  | nil =>
    cases count with
    | zero => rfl
    | succ count => rfl
  | cons hline _ ih =>
    rename_i d d' d'' line lines _
    rw [List.length_cons] at hcount
    obtain ⟨count, rfl⟩ : ∃ n, count = n + 1 := ⟨count - 1, by omega⟩
    obtain ⟨c, more, hstart, hc⟩ := hline.start
    have hend : c ≠ '\n' := by
      rintro rfl
      cases hc
    have hstatement := hline.statement (ended lines).toList
    rw [toList_ended_cons]
    rw [hstart, List.cons_append] at hstatement ⊢
    rw [readLines, skipBlanks_cons (isBlank_eq_false_of_isSpace hc)]
    split
    · rename_i heq
      cases heq
    · rename_i heq
      exact absurd (List.cons.inj heq).1 hend
    · rw [hstatement]
      exact ih (by omega)

/-- **A document of lines** is read to the draft that they make. -/
theorem readDocument_ended {d : Draft} {lines : List String} (h : Reads .empty lines d) :
    readDocument (ended lines).toList = .ok d.tables := by
  have hlength : ∀ ls : List String, ls.length ≤ (ended ls).toList.length := by
    intro ls
    induction ls with
    | nil => exact Nat.zero_le _
    | cons line ls ih =>
      rw [toList_ended_cons, List.length_append, List.length_cons, List.length_cons]
      omega
  have hcount := hlength lines
  rw [readDocument, readLines_ended h (by omega)]
  rfl

/-- A text without a carriage return has line ends of one character only. -/
theorem normalizeLineEnds_of_not_mem {text : List Char} (h : '\r' ∉ text) :
    normalizeLineEnds text = text := by
  induction text with
  | nil => rfl
  | cons c rest ih =>
    have hc : c ≠ '\r' := by
      rintro rfl
      exact h List.mem_cons_self
    rw [normalizeLineEnds, ih fun hrest => h (List.mem_cons_of_mem c hrest)]
    intro others heq
    exact absurd heq hc

/-! ## Statements -/

section

variable {d d' : Draft} {part : String}

/-- The header of a table. -/
theorem readsLine_table (hpart : isBare part = true) (h : d.endSection.openTable [part] = .ok d') :
    ReadsLine d (tableLine part) d' := by
  constructor
  · exact ⟨'[', part.toList ++ [']'], by simp [tableLine], rfl⟩
  · intro rest
    have hkey : readKey (part.toList ++ ']' :: '\n' :: rest) = .ok ([part], ']' :: '\n' :: rest) :=
      readKey_bare hpart rfl rfl (by decide)
    obtain ⟨c, more, hchars, hc⟩ := exists_cons_of_isBare hpart
    obtain ⟨hbracket, -, -, -, hspace⟩ := ne_of_isBareKeyChar hc
    have htext : (tableLine part).toList ++ '\n' :: rest =
        '[' :: (part.toList ++ ']' :: '\n' :: rest) := by
      simp [tableLine]
    rw [htext]
    rw [hchars, List.cons_append] at hkey ⊢
    rw [readStatement]
    · rw [readTableHeader, skipBlanks_cons (isBlank_eq_false_of_isSpace hspace), hkey]
      show (orFail _ (d.endSection.openTable [part]) >>= _) = _
      rw [h]
      rfl
    · intro others heq
      exact hbracket (List.cons.inj heq).1

/-- The header of the next table of an array. -/
theorem readsLine_nextTable (hpart : isBare part = true)
    (h : d.endSection.openNext [part] = .ok d') : ReadsLine d (nextTableLine part) d' := by
  constructor
  · exact ⟨'[', '[' :: part.toList ++ [']', ']'], by simp [nextTableLine], rfl⟩
  · intro rest
    have hkey : readKey (part.toList ++ ']' :: ']' :: '\n' :: rest) =
        .ok ([part], ']' :: ']' :: '\n' :: rest) :=
      readKey_bare hpart rfl rfl (by decide)
    obtain ⟨c, more, hchars, hc⟩ := exists_cons_of_isBare hpart
    obtain ⟨-, -, -, -, hspace⟩ := ne_of_isBareKeyChar hc
    have htext : (nextTableLine part).toList ++ '\n' :: rest =
        '[' :: '[' :: (part.toList ++ ']' :: ']' :: '\n' :: rest) := by
      simp [nextTableLine]
    rw [htext]
    rw [hchars, List.cons_append] at hkey ⊢
    rw [readStatement, readArrayHeader, skipBlanks_cons (isBlank_eq_false_of_isSpace hspace), hkey]
    show (orFail _ (d.endSection.openNext [part]) >>= _) = _
    rw [h]
    rfl

/-- A key with a value. -/
theorem readsLine_pair {value : String} {v : Value} (hpart : isBare part = true)
    (hstart : ∃ c more, value.toList = c :: more ∧ isBlank c = false)
    (hvalue : ∀ depth rest, readItem (depth + 1) (value.toList ++ '\n' :: rest) =
      .ok (v, '\n' :: rest))
    (h : d.add [part] v = .ok d') : ReadsLine d (pairLine part value) d' := by
  obtain ⟨c, more, hchars, hc⟩ := exists_cons_of_isBare hpart
  obtain ⟨hbracket, hcomment, -, -, hspace⟩ := ne_of_isBareKeyChar hc
  constructor
  · exact ⟨c, more ++ ' ' :: '=' :: ' ' :: value.toList, by simp [pairLine, hchars], hspace⟩
  · intro rest
    have hkey : readKey (part.toList ++ ' ' :: '=' :: ' ' :: (value.toList ++ '\n' :: rest)) =
        .ok ([part], '=' :: ' ' :: (value.toList ++ '\n' :: rest)) :=
      readKey_bare hpart rfl rfl (by decide)
    have hblanks : skipBlanks (' ' :: (value.toList ++ '\n' :: rest)) =
        value.toList ++ '\n' :: rest := by
      obtain ⟨e, chars, he, heblank⟩ := hstart
      rw [he, List.cons_append]
      exact skipBlanks_cons heblank _
    have htext : (pairLine part value).toList ++ '\n' :: rest =
        part.toList ++ ' ' :: '=' :: ' ' :: (value.toList ++ '\n' :: rest) := by
      simp [pairLine]
    have hkeyStart : isKeyStart c = true := by simp [isKeyStart, hc]
    rw [htext]
    rw [hchars, List.cons_append] at hkey ⊢
    rw [readStatement, if_pos hkeyStart, readPair, hkey]
    · show (readItem _ (skipBlanks (' ' :: (value.toList ++ '\n' :: rest))) >>= _) >>= _ = _
      rw [hblanks, hvalue]
      show (orFail _ (d.add [part] v) >>= _) = _
      rw [h]
      rfl
    · exact fun _ heq _ => hbracket heq
    · exact hbracket
    · exact hcomment

end

end ProviderBindings.Toml
