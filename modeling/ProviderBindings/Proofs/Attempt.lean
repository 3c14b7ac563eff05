/-! # Operations that can fail

An operation gives a result or a fault.  These are the facts with which a chain of
such operations is taken apart: at a step (`bind_eq_ok_iff`, `bind_eq_error_iff`) and over a list
(`exists_mapM_eq_ok_iff`, `mapM_eq_error_iff`), whose parts can be taken one by one
(`mapM_cons_eq_ok_iff`, `mapM_append_eq_ok_iff`).  What can
be said of the faults of every operation in a chain can be said of those of the chain
(`FailsWithin.bind`, `FailsWithin.mapM`); so if they have one fault between them, it has no other.
What can be said of a result follows from what can be said of the results before it
(`Yields.bind`).
-/
namespace ProviderBindings.Attempt

variable {ε α β : Type}

theorem ok_bind (a : α) (f : α → Except ε β) : Except.ok a >>= f = f a := rfl

theorem bind_eq_ok_iff {x : Except ε α} {f : α → Except ε β} {b : β} :
    x >>= f = .ok b ↔ ∃ a, x = .ok a ∧ f a = .ok b := by
  rcases x with e | a
  · constructor
    · intro h
      cases h
    · rintro ⟨a, ha, -⟩
      cases ha
  · constructor
    · intro h
      exact ⟨a, rfl, h⟩
    · rintro ⟨a', ha, h⟩
      cases ha
      exact h

theorem bind_eq_error_iff {x : Except ε α} {f : α → Except ε β} {e : ε} :
    x >>= f = .error e ↔ x = .error e ∨ ∃ a, x = .ok a ∧ f a = .error e := by
  rcases x with e' | a
  · constructor
    · intro h
      cases h
      exact .inl rfl
    · rintro (h | ⟨a, ha, -⟩)
      · cases h
        rfl
      · cases ha
  · constructor
    · intro h
      exact .inr ⟨a, rfl, h⟩
    · rintro (h | ⟨a', ha, h⟩)
      · cases h
      · cases ha
        exact h

theorem mapError_eq_ok_iff {ε' : Type} {x : Except ε α} {f : ε → ε'} {a : α} :
    x.mapError f = .ok a ↔ x = .ok a := by
  cases x with
  | ok b =>
    constructor
    · intro h
      cases h
      rfl
    · intro h
      cases h
      rfl
  | error e =>
    constructor
    · intro h
      cases h
    · intro h
      cases h

theorem mapError_eq_error_iff {ε' : Type} {x : Except ε α} {f : ε → ε'} {e' : ε'} :
    x.mapError f = .error e' ↔ ∃ e, x = .error e ∧ f e = e' := by
  cases x with
  | ok b =>
    constructor
    · intro h
      cases h
    · rintro ⟨e, h, -⟩
      cases h
  | error e =>
    constructor
    · intro h
      exact ⟨e, rfl, Except.error.inj h⟩
    · rintro ⟨_, ⟨⟩, rfl⟩
      rfl

theorem eq_ok_of_toOption {x : Except ε α} {a : α} (h : x.toOption = some a) : x = .ok a := by
  cases x with
  | error e => cases h
  | ok b =>
    cases h
    rfl

/-- The fault of an operation, if it has one. -/
def fault? : Except ε α → Option ε
  | .error e => some e
  | .ok _ => none

theorem eq_error_of_fault? {x : Except ε α} {e : ε} (h : fault? x = some e) : x = .error e := by
  cases x with
  | error e' =>
    cases h
    rfl
  | ok a => cases h

/-- An operation that succeeds on every element succeeds on the list. -/
theorem mapM_eq_ok {f : α → Except ε β} {g : α → β} {xs : List α}
    (h : ∀ a ∈ xs, f a = .ok (g a)) : xs.mapM f = .ok (xs.map g) := by
  induction xs with
  | nil => rfl
  | cons a rest ih =>
    rw [List.mapM_cons, h a List.mem_cons_self, ih fun b hb => h b (List.mem_cons_of_mem a hb)]
    rfl

/-- An operation that succeeds on a list succeeds on every element. -/
theorem exists_of_mapM_eq_ok {f : α → Except ε β} {xs : List α} {ys : List β}
    (h : xs.mapM f = .ok ys) : ∀ a ∈ xs, ∃ b, f a = .ok b := by
  induction xs generalizing ys with
  | nil => simp
  | cons a rest ih =>
    rw [List.mapM_cons] at h
    obtain ⟨b, hb, h⟩ := bind_eq_ok_iff.mp h
    obtain ⟨bs, hbs, -⟩ := bind_eq_ok_iff.mp h
    intro c hc
    rcases List.mem_cons.mp hc with rfl | hc
    · exact ⟨b, hb⟩
    · exact ih hbs c hc

/-- The fault of an operation on a list is its fault on the first element on which it faults. -/
theorem mapM_eq_error_iff {f : α → Except ε β} {xs : List α} {e : ε} :
    xs.mapM f = .error e ↔ ∃ before a after, xs = before ++ a :: after ∧
      (∀ b ∈ before, ∃ c, f b = .ok c) ∧ f a = .error e := by
  constructor
  · intro h
    induction xs with
    | nil => cases h
    | cons a rest ih =>
      rw [List.mapM_cons] at h
      rcases bind_eq_error_iff.mp h with h | ⟨b, hb, h⟩
      · exact ⟨[], a, rest, rfl, by simp, h⟩
      · rcases bind_eq_error_iff.mp h with h | ⟨bs, -, h⟩
        · obtain ⟨before, a', after, rfl, hbefore, ha'⟩ := ih h
          refine ⟨a :: before, a', after, rfl, ?_, ha'⟩
          intro c hc
          rcases List.mem_cons.mp hc with rfl | hc
          · exact ⟨b, hb⟩
          · exact hbefore c hc
        · cases h
  · rintro ⟨before, a, after, rfl, hbefore, ha⟩
    induction before with
    | nil =>
      rw [List.nil_append, List.mapM_cons, ha]
      rfl
    | cons b rest ih =>
      obtain ⟨c, hc⟩ := hbefore b List.mem_cons_self
      rw [List.cons_append, List.mapM_cons, hc,
        ok_bind, ih fun b' hb' => hbefore b' (List.mem_cons_of_mem b hb')]
      rfl

/-- The fault of an operation on a list is its fault on an element. -/
theorem exists_of_mapM_eq_error {f : α → Except ε β} {xs : List α} {e : ε}
    (h : xs.mapM f = .error e) : ∃ a ∈ xs, f a = .error e := by
  obtain ⟨before, a, after, rfl, -, ha⟩ := mapM_eq_error_iff.mp h
  exact ⟨a, List.mem_append_right before List.mem_cons_self, ha⟩

/-- An operation that succeeds on a list is one that succeeds on every element. -/
theorem exists_mapM_eq_ok_iff {f : α → Except ε β} {xs : List α} :
    (∃ ys, xs.mapM f = .ok ys) ↔ ∀ a ∈ xs, ∃ b, f a = .ok b := by
  constructor
  · rintro ⟨ys, hys⟩
    exact exists_of_mapM_eq_ok hys
  · intro h
    cases hys : xs.mapM f with
    | ok ys => exact ⟨ys, rfl⟩
    | error e =>
      obtain ⟨a, ha, he⟩ := exists_of_mapM_eq_error hys
      obtain ⟨b, hb⟩ := h a ha
      rw [hb] at he
      cases he

theorem mapM_cons_eq_ok_iff {f : α → Except ε β} {a : α} {xs : List α} {ys : List β} :
    (a :: xs).mapM f = .ok ys ↔ ∃ b bs, f a = .ok b ∧ xs.mapM f = .ok bs ∧ b :: bs = ys := by
  rw [List.mapM_cons]
  constructor
  · intro h
    obtain ⟨b, hb, h⟩ := bind_eq_ok_iff.mp h
    obtain ⟨bs, hbs, h⟩ := bind_eq_ok_iff.mp h
    exact ⟨b, bs, hb, hbs, Except.ok.inj h⟩
  · rintro ⟨b, bs, hb, hbs, rfl⟩
    rw [hb, hbs]
    rfl

/-- An operation on two lists, one after the other. -/
theorem mapM_append_eq_ok_iff {f : α → Except ε β} {xs others : List α} {ys : List β} :
    (xs ++ others).mapM f = .ok ys ↔
      ∃ as bs, xs.mapM f = .ok as ∧ others.mapM f = .ok bs ∧ as ++ bs = ys := by
  rw [List.mapM_append]
  constructor
  · intro h
    obtain ⟨as, has, h⟩ := bind_eq_ok_iff.mp h
    obtain ⟨bs, hbs, h⟩ := bind_eq_ok_iff.mp h
    exact ⟨as, bs, has, hbs, Except.ok.inj h⟩
  · rintro ⟨as, bs, has, hbs, rfl⟩
    rw [has, hbs]
    rfl

/-- Whether all faults of an operation have a property. -/
def FailsWithin (P : ε → Prop) (x : Except ε α) : Prop := ∀ e, x = .error e → P e

section

variable {P : ε → Prop}

theorem FailsWithin.ok (a : α) : FailsWithin P (.ok a : Except ε α) := by
  intro e h
  cases h

theorem FailsWithin.error {e : ε} (h : P e) : FailsWithin P (.error e : Except ε α) := by
  intro e' h'
  cases h'
  exact h

theorem FailsWithin.bind {x : Except ε α} {f : α → Except ε β} (hx : FailsWithin P x)
    (hf : ∀ a, FailsWithin P (f a)) : FailsWithin P (x >>= f) := by
  intro e h
  rcases bind_eq_error_iff.mp h with h | ⟨a, -, h⟩
  · exact hx e h
  · exact hf a e h

theorem FailsWithin.map {x : Except ε α} (f : α → β) (hx : FailsWithin P x) :
    FailsWithin P (x.map f) := by
  intro e h
  cases x with
  | error e' =>
    cases h
    exact hx e rfl
  | ok a => cases h

theorem FailsWithin.mapM {f : α → Except ε β} {xs : List α} (h : ∀ a ∈ xs, FailsWithin P (f a)) :
    FailsWithin P (xs.mapM f) := by
  intro e he
  obtain ⟨a, ha, hfault⟩ := exists_of_mapM_eq_error he
  exact h a ha e hfault

end

/-- Whether all results of an operation have a property. -/
def Yields (P : α → Prop) (x : Except ε α) : Prop := ∀ a, x = .ok a → P a

section

variable {P : α → Prop} {Q : β → Prop}

theorem Yields.ok {a : α} (h : P a) : Yields P (.ok a : Except ε α) := by
  intro a' h'
  cases h'
  exact h

theorem Yields.error (e : ε) : Yields P (.error e : Except ε α) := by
  intro a h
  cases h

theorem Yields.bind {x : Except ε α} {f : α → Except ε β} (hx : Yields P x)
    (hf : ∀ a, P a → Yields Q (f a)) : Yields Q (x >>= f) := by
  intro b h
  obtain ⟨a, ha, h⟩ := bind_eq_ok_iff.mp h
  exact hf a (hx a ha) b h

/-- Where the results before it do not matter. -/
theorem Yields.of_bind {x : Except ε α} {f : α → Except ε β} (hf : ∀ a, Yields Q (f a)) :
    Yields Q (x >>= f) := by
  intro b h
  obtain ⟨a, -, h⟩ := bind_eq_ok_iff.mp h
  exact hf a b h

end

/-- Whether an operation has no other fault than `fault`. -/
def FailsOnlyWith (fault : ε) (x : Except ε α) : Prop := ∀ e, x = .error e → e = fault

section

variable {fault : ε}

theorem FailsOnlyWith.ok (a : α) : FailsOnlyWith fault (.ok a : Except ε α) := FailsWithin.ok a

theorem FailsOnlyWith.error : FailsOnlyWith fault (.error fault : Except ε α) :=
  FailsWithin.error rfl

theorem FailsOnlyWith.bind {x : Except ε α} {f : α → Except ε β} (hx : FailsOnlyWith fault x)
    (hf : ∀ a, FailsOnlyWith fault (f a)) : FailsOnlyWith fault (x >>= f) :=
  FailsWithin.bind hx hf

theorem FailsOnlyWith.mapM {f : α → Except ε β} {xs : List α}
    (h : ∀ a ∈ xs, FailsOnlyWith fault (f a)) : FailsOnlyWith fault (xs.mapM f) :=
  FailsWithin.mapM h

end

end ProviderBindings.Attempt
