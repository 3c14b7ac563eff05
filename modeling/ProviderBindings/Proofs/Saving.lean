import ProviderBindings.FileTree

/-! # What saving a file changes

A file is saved by making the directories above it and then writing it.  However that
ends, the only places that change on the way are directories made where nothing was,
along the path as it is written (`grows_ensureDirectories`), and the file at the path is the
only other one (`touches_save`).  So every other file can be read as before (`read_of_touches`).
If it ends well, the file has its content (`saved_of_save`), and saving the same once more
changes nothing (`save_save`).

A walk along a path arrives, if it arrives, at a place that the path alone determines:
`Path.place`.
-/
namespace ProviderBindings

namespace Path

/-- The place to which a path leads. -/
def place (p : Path) : Location := p.parts.foldl Location.step []

end Path

namespace FileTree

variable {t t' t'' : FileTree} {p : Path}

/-! ## Walks -/

theorem walk_eq {l m : Location} {parts : List String} (h : t.walk l parts = .ok m) :
    m = parts.foldl Location.step l := by
  induction parts generalizing l with
  | nil =>
    cases h
    rfl
  | cons part rest ih =>
    rw [walk] at h
    split at h
    · split at h
      · cases h
      · exact ih h
    · cases h
    · cases h

theorem locate_eq {l : Location} (h : t.locate p = .ok l) : l = p.place := by
  unfold locate at h
  split at h
  · cases h
  · exact walk_eq h

/-- A walk passes through directories only, so that it does not notice a change of what is
no directory. -/
theorem walk_set {l m : Location} {parts : List String} (node : Node)
    (h : t.walk l parts = .ok m) (hm : t.node? m ≠ some .directory) :
    (t.set m node).walk l parts = .ok m := by
  induction parts generalizing l with
  | nil => exact h
  | cons part rest ih =>
    rw [walk] at h ⊢
    split at h
    · rename_i hl
      -- a walk goes on from directories only, so the place that is set is not on the way
      have hne : l ≠ m := by
        rintro rfl
        exact hm hl
      rw [node?_set_of_ne t node hne, hl]
      split at h
      · cases h
      · rename_i hlong
        simp only [hlong]
        exact ih h
    · cases h
    · cases h

theorem locate_set {l : Location} (node : Node) (h : t.locate p = .ok l)
    (hl : t.node? l ≠ some .directory) : (t.set l node).locate p = .ok l := by
  unfold locate at h ⊢
  split at h
  · cases h
  · rename_i hlong
    rw [if_neg hlong]
    exact walk_set node h hl

/-! ## Operations that end well -/

theorem makeDirectory_eq_ok_iff : t.makeDirectory p = .ok t' ↔
    ∃ l, t.locate p = .ok l ∧ t.node? l = none ∧ t.set l .directory = t' := by
  unfold makeDirectory
  cases t.locate p with
  | error obstacle => simp [bind, Except.bind]
  | ok l => cases hnode : t.node? l <;> simp [bind, Except.bind, pure, Except.pure, hnode]

theorem write_eq_ok_iff {bytes : List UInt8} : t.write p bytes = .ok t' ↔
    p.hasNull = false ∧ ∃ l, t.locate p = .ok l ∧ t.node? l ≠ some .directory ∧
      t.set l (.file bytes) = t' := by
  unfold write
  cases p.hasNull with
  | true => simp
  | false =>
    cases t.locate p with
    | error obstacle => simp
    | ok l => rcases hnode : t.node? l with _ | _ | _ <;> simp [hnode]

theorem save_eq_ok_iff {bytes : List UInt8} : t.save p bytes = (t', .ok ()) ↔
    p.parent.hasNull = false ∧ ∃ made, t.ensureDirectories p.parent.parts.reverse =
      (made, .ok ()) ∧ made.write p bytes = .ok t' := by
  unfold save
  cases p.parent.hasNull with
  | true => simp
  | false =>
    rcases t.ensureDirectories p.parent.parts.reverse with ⟨made, _ | _⟩
    · simp
    · cases hwrite : made.write p bytes <;> simp [hwrite]

theorem isBase_eq_false {l : Location} (h : t.node? l ≠ some .directory) : l.isBase = false := by
  rw [Bool.eq_false_iff]
  intro hbase
  exact h (t.node?_of_isBase hbase)

/-! ## Directories -/

/-- From one tree to the next nothing has changed but that there are directories, where
nothing was, at some beginnings of a path. -/
def Grows (parts : List String) (t t' : FileTree) : Prop :=
  ∀ l, t'.node? l = t.node? l ∨
    (t.node? l = none ∧ t'.node? l = some .directory ∧
      ∃ start, start <+: parts ∧ l = Path.place ⟨start⟩)

section

variable {parts : List String}

theorem Grows.refl : Grows parts t t := fun _ => .inl rfl

theorem Grows.trans (h : Grows parts t t') (h' : Grows parts t' t'') : Grows parts t t'' := by
  intro l
  rcases h l with hl | ⟨hnone, hdirectory, hplace⟩
  · rw [← hl]
    exact h' l
  · right
    rcases h' l with hl' | ⟨hnone', -, -⟩
    · exact ⟨hnone, hl' ▸ hdirectory, hplace⟩
    · rw [hdirectory] at hnone'
      cases hnone'

theorem Grows.mono {longer : List String} (hlonger : parts <+: longer) (h : Grows parts t t') :
    Grows longer t t' := by
  intro l
  rcases h l with hl | ⟨hnone, hdirectory, start, hstart, hplace⟩
  · exact .inl hl
  · exact .inr ⟨hnone, hdirectory, start, hstart.trans hlonger, hplace⟩

end

theorem grows_makeDirectory (h : t.makeDirectory p = .ok t') : Grows p.parts t t' := by
  obtain ⟨place, hlocate, hnode, rfl⟩ := makeDirectory_eq_ok_iff.mp h
  have hbase : place.isBase = false := isBase_eq_false (t := t) (by simp [hnode])
  intro l
  by_cases hl : l = place
  · subst hl
    exact .inr ⟨hnode, t.node?_set_self .directory hbase,
      p.parts, List.prefix_refl _, locate_eq hlocate⟩
  · exact .inl (t.node?_set_of_ne .directory hl)

theorem grows_ensureDirectory (t : FileTree) (p : Path) :
    Grows p.parts t (t.ensureDirectory p).1 := by
  unfold ensureDirectory
  split
  · rename_i made hmade
    exact grows_makeDirectory hmade
  · split <;> exact .refl

/-- **Making directories** changes nothing but what was missing along the path. -/
theorem grows_ensureDirectories (t : FileTree) (reversed : List String) :
    Grows reversed.reverse t (t.ensureDirectories reversed).1 := by
  induction reversed generalizing t with
  | nil => exact grows_ensureDirectory t ⟨[]⟩
  | cons part above ih =>
    have habove : above.reverse <+: (part :: above).reverse := by
      rw [List.reverse_cons]
      exact List.prefix_append _ _
    rw [ensureDirectories]
    split
    · -- the directory above is missing: it is made first, in the same way
      have hgrown := (ih t).mono habove
      split
      · rename_i made hmade
        rw [hmade] at hgrown
        exact hgrown.trans (grows_ensureDirectory made _)
      · rename_i made fault hmade
        rw [hmade] at hgrown
        exact hgrown
    · exact grows_ensureDirectory t _

/-! ## Files -/

theorem parent_isBeginning (p : Path) : p.parent.parts <+: p.parts := by
  unfold Path.parent
  split
  · exact List.prefix_refl _
  · exact List.dropLast_prefix _

/-- What may have changed once it was tried to save a file: there are directories, where nothing
was, at some beginnings of the path, and at its place there may be the file with its content,
where no directory was. -/
def Touches (p : Path) (bytes : List UInt8) (t t' : FileTree) : Prop :=
  ∀ l, t'.node? l = t.node? l ∨
    (t.node? l = none ∧ t'.node? l = some .directory ∧
      ∃ start, start <+: p.parts ∧ l = Path.place ⟨start⟩) ∨
    (l = p.place ∧ t.node? l ≠ some .directory ∧ t'.node? l = some (.file bytes))

section

variable {bytes : List UInt8}

theorem Touches.refl : Touches p bytes t t := fun _ => .inl rfl

theorem Grows.touches (h : Grows p.parts t t') : Touches p bytes t t' := fun l =>
  (h l).imp_right .inl

theorem touches_write (h : t.write p bytes = .ok t') : Touches p bytes t t' := by
  obtain ⟨-, place, hlocate, hnode, rfl⟩ := write_eq_ok_iff.mp h
  intro l
  by_cases hl : l = place
  · subst hl
    exact .inr (.inr ⟨locate_eq hlocate, hnode,
      t.node?_set_self (.file bytes) (isBase_eq_false hnode)⟩)
  · exact .inl (t.node?_set_of_ne _ hl)

/-- A file that is written after directories have been made is in the place of none of them. -/
theorem Grows.trans_touches (h : Grows p.parts t t') (h' : Touches p bytes t' t'') :
    Touches p bytes t t'' := by
  intro l
  rcases h l with hl | ⟨hnone, hdirectory, hplace⟩
  · rw [← hl]
    exact h' l
  · rcases h' l with hl' | ⟨hnone', -, -⟩ | ⟨-, hnode, -⟩
    · exact .inr (.inl ⟨hnone, hl' ▸ hdirectory, hplace⟩)
    · rw [hdirectory] at hnone'
      cases hnone'
    · exact absurd hdirectory hnode

/-- **Saving a file**, however it ends, changes at most that file and makes directories. -/
theorem touches_save (t : FileTree) (p : Path) (bytes : List UInt8) :
    Touches p bytes t (t.save p bytes).1 := by
  unfold save
  split
  · exact .refl
  · have hgrows := t.grows_ensureDirectories p.parent.parts.reverse
    rw [List.reverse_reverse] at hgrows
    have hgrows := hgrows.mono (parent_isBeginning p)
    split
    · rename_i made fault hmade
      rw [hmade] at hgrows
      exact hgrows.touches
    · rename_i made hmade
      rw [hmade] at hgrows
      split
      · rename_i written hwritten
        exact hgrows.trans_touches (touches_write hwritten)
      · exact hgrows.touches

theorem read_of_write (h : t.write p bytes = .ok t') : t'.read p = .ok bytes := by
  obtain ⟨hnull, l, hlocate, hnode, rfl⟩ := write_eq_ok_iff.mp h
  rw [read, hnull, locate_set _ hlocate hnode]
  simp only [t.node?_set_self (.file bytes) (isBase_eq_false hnode)]
  rfl

/-- What has changed once a file is saved: the file has its content, and nothing else has
changed but that directories have been made on the way to it. -/
structure Saved (p : Path) (bytes : List UInt8) (t t' : FileTree) : Prop where
  content : t'.read p = .ok bytes
  others : ∀ l, l ≠ p.place → t'.node? l = t.node? l ∨
    (t.node? l = none ∧ t'.node? l = some .directory ∧
      ∃ start, start <+: p.parts ∧ l = Path.place ⟨start⟩)

/-- **Saving a file**, when it ends well, has changed that file. -/
theorem saved_of_save (h : t.save p bytes = (t', .ok ())) : Saved p bytes t t' := by
  obtain ⟨-, made, -, hwritten⟩ := save_eq_ok_iff.mp h
  have htouches := t.touches_save p bytes
  rw [h] at htouches
  refine ⟨read_of_write hwritten, ?_⟩
  intro l hl
  rcases htouches l with hsame | hmade | ⟨hplace, -, -⟩
  · exact .inl hsame
  · exact .inr hmade
  · exact absurd hplace hl

/-! ## The other files -/

/-- Whether all directories of a tree are directories of another. -/
def KeepsDirectories (t t' : FileTree) : Prop :=
  ∀ l, t.node? l = some .directory → t'.node? l = some .directory

theorem Touches.keepsDirectories (h : Touches p bytes t t') : KeepsDirectories t t' := by
  intro l hl
  rcases h l with hsame | ⟨hnone, -, -⟩ | ⟨-, hnode, -⟩
  · rw [hsame, hl]
  · rw [hl] at hnone
    cases hnone
  · exact absurd hl hnode

/-- A walk that arrives goes through directories, and these are kept. -/
theorem walk_of_keepsDirectories (h : KeepsDirectories t t') {l m : Location}
    {parts : List String} (hwalk : t.walk l parts = .ok m) : t'.walk l parts = .ok m := by
  induction parts generalizing l with
  | nil => exact hwalk
  | cons part rest ih =>
    rw [walk] at hwalk ⊢
    split at hwalk
    · rename_i hl
      rw [h l hl]
      split at hwalk
      · cases hwalk
      · rename_i hlong
        simp only [hlong]
        exact ih hwalk
    · cases hwalk
    · cases hwalk

theorem locate_of_keepsDirectories (h : KeepsDirectories t t') {q : Path} {l : Location}
    (hlocate : t.locate q = .ok l) : t'.locate q = .ok l := by
  unfold locate at hlocate ⊢
  split at hlocate
  · cases hlocate
  · rename_i hlong
    rw [if_neg hlong]
    exact walk_of_keepsDirectories h hlocate

/-- **Every other file** keeps its content. -/
theorem read_of_touches (h : Touches p bytes t t') {q : Path} {content : List UInt8}
    (hplace : q.place ≠ p.place) (hread : t.read q = .ok content) : t'.read q = .ok content := by
  unfold read at hread ⊢
  split at hread
  · cases hread
  · rename_i hnull
    rw [if_neg hnull]
    split at hread
    · cases hread
    · rename_i l hlocate
      have hl : l = q.place := locate_eq hlocate
      rw [locate_of_keepsDirectories h.keepsDirectories hlocate]
      have hnode : t'.node? l = t.node? l := by
        rcases h l with hsame | ⟨hnone, -, -⟩ | ⟨hl', -, -⟩
        · exact hsame
        · rw [hnone] at hread
          cases hread
        · exact absurd (hl.symm.trans hl') hplace
      simp only [hnode]
      exact hread

/-! ## Saving once more -/

theorem isDirectory_iff {q : Path} :
    t.isDirectory q = true ↔ ∃ l, t.locate q = .ok l ∧ t.node? l = some .directory := by
  unfold isDirectory
  cases t.locate q <;> simp

theorem isDirectory_of_keepsDirectories (h : KeepsDirectories t t') {q : Path}
    (hq : t.isDirectory q = true) : t'.isDirectory q = true := by
  obtain ⟨l, hlocate, hl⟩ := isDirectory_iff.mp hq
  exact isDirectory_iff.mpr ⟨l, locate_of_keepsDirectories h hlocate, h l hl⟩

theorem makeDirectory_of_isDirectory (h : t.isDirectory p = true) :
    t.makeDirectory p = .error .occupied := by
  obtain ⟨l, hlocate, hl⟩ := isDirectory_iff.mp h
  simp only [makeDirectory, hlocate, bind, Except.bind, hl]

theorem ensureDirectory_of_isDirectory (h : t.isDirectory p = true) :
    t.ensureDirectory p = (t, .ok ()) := by
  unfold ensureDirectory
  rw [makeDirectory_of_isDirectory h]
  simp [h]

/-- Where there is a directory, there is nothing to make. -/
theorem ensureDirectories_of_isDirectory {reversed : List String}
    (h : t.isDirectory ⟨reversed.reverse⟩ = true) :
    t.ensureDirectories reversed = (t, .ok ()) := by
  cases reversed with
  | nil => exact ensureDirectory_of_isDirectory h
  | cons part above =>
    rw [ensureDirectories, makeDirectory_of_isDirectory h]
    exact ensureDirectory_of_isDirectory h

theorem isDirectory_of_ensureDirectory (h : t.ensureDirectory p = (t', .ok ())) :
    t'.isDirectory p = true := by
  unfold ensureDirectory at h
  split at h
  · rename_i made hmade
    cases h
    obtain ⟨l, hlocate, hnode, rfl⟩ := makeDirectory_eq_ok_iff.mp hmade
    have hl : t.node? l ≠ some .directory := by simp [hnode]
    exact isDirectory_iff.mpr ⟨l, locate_set .directory hlocate hl,
      t.node?_set_self .directory (isBase_eq_false hl)⟩
  · split at h
    · rename_i hdirectory
      cases h
      exact hdirectory.2
    · cases h

/-- Directories that have been made are there. -/
theorem isDirectory_of_ensureDirectories {reversed : List String}
    (h : t.ensureDirectories reversed = (t', .ok ())) :
    t'.isDirectory ⟨reversed.reverse⟩ = true := by
  cases reversed with
  | nil => exact isDirectory_of_ensureDirectory h
  | cons part above =>
    rw [ensureDirectories] at h
    split at h
    · split at h
      · exact isDirectory_of_ensureDirectory h
      · cases h
    · exact isDirectory_of_ensureDirectory h

theorem write_write (h : t.write p bytes = .ok t') : t'.write p bytes = .ok t' := by
  obtain ⟨hnull, l, hlocate, hnode, rfl⟩ := write_eq_ok_iff.mp h
  refine write_eq_ok_iff.mpr ⟨hnull, l, locate_set _ hlocate hnode, ?_, t.set_set_self l _⟩
  simp [t.node?_set_self (.file bytes) (isBase_eq_false hnode)]

/-- **Saving the same file again** changes nothing. -/
theorem save_save (h : t.save p bytes = (t', .ok ())) : t'.save p bytes = (t', .ok ()) := by
  obtain ⟨hnull, made, hmade, hwritten⟩ := save_eq_ok_iff.mp h
  -- the directories made the first time are not where the file was written
  have hdirectory := isDirectory_of_keepsDirectories
    (touches_write hwritten).keepsDirectories (isDirectory_of_ensureDirectories hmade)
  exact save_eq_ok_iff.mpr
    ⟨hnull, t', ensureDirectories_of_isDirectory hdirectory, write_write hwritten⟩

end

end FileTree

end ProviderBindings
