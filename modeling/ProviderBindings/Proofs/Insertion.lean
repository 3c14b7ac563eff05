import ProviderBindings.Proofs.Rendering

/-! # A network that is put into a manifest

The module is written in two passes over the networks, and every line but those of a network is the
same for all manifests.  So a network that is put into a manifest, wherever that is, brings two
pieces of text into the module and changes nothing else (`generate_insert`): its declaration comes
after those of the networks before it, and its accessor function, after an empty line, comes after
theirs.

The text between the two is the rest of the container and the functions of the networks before;
the separators belong to the pieces, so that nothing is different where a piece is the first or the
last of its kind.
-/
namespace ProviderBindings.ProviderModule

open Attempt

/-- The beginning of a module: its opening, and declarations, each on a line of its own. -/
def container (declarations : List String) : String :=
  String.join (opening.map line) ++ String.join (declarations.map line)

/-- Accessor functions, each after an empty line. -/
def blocks (accessors : List String) : String :=
  String.join (accessors.map fun accessor => line "" ++ line accessor)

theorem assemble_eq (declarations accessors : List String) :
    assemble declarations accessors = container declarations ++ line closing ++ blocks accessors :=
  rfl

theorem container_append (ds es : List String) :
    container (ds ++ es) = container ds ++ String.join (es.map line) := by
  rw [container, container, List.map_append, String.join_append, String.append_assoc]

theorem blocks_append (as bs : List String) : blocks (as ++ bs) = blocks as ++ blocks bs := by
  rw [blocks, List.map_append, String.join_append]
  rfl

@[simp] theorem blocks_nil : blocks [] = "" := rfl

theorem blocks_cons (a : String) (as : List String) :
    blocks (a :: as) = line "" ++ line a ++ blocks as := by
  rw [blocks, List.map_cons, String.join_cons]
  rfl

/-- What is in the module of two lists, one after the other, from the declarations of the first
list on to its functions. -/
def between (later : List String) (accessors : List String) : String :=
  String.join (later.map line) ++ line closing ++ blocks accessors

theorem assemble_append (ds es as bs : List String) :
    assemble (ds ++ es) (as ++ bs) = container ds ++ between es as ++ blocks bs := by
  rw [assemble_eq, container_append, blocks_append, between]
  simp only [String.append_assoc]

theorem assemble_insert (ds es as bs : List String) (d a : String) :
    assemble (ds ++ d :: es) (as ++ a :: bs) =
      container ds ++ line d ++ between es as ++ (line "" ++ line a) ++ blocks bs := by
  rw [assemble_append, blocks_cons, between, List.map_cons, String.join_cons, between]
  simp only [String.append_assoc]

variable {networks xs ys : List Network} {n : Network} {text d a : String}
  {declarations accessors : List String}

theorem rendered_append_iff : Rendered (xs ++ ys) declarations accessors ↔
    ∃ ds es as bs, Rendered xs ds as ∧ Rendered ys es bs ∧
      ds ++ es = declarations ∧ as ++ bs = accessors := by
  constructor
  · rintro ⟨hdeclarations, haccessors⟩
    obtain ⟨ds, es, hds, hes, rfl⟩ := mapM_append_eq_ok_iff.mp hdeclarations
    obtain ⟨as, bs, has, hbs, rfl⟩ := mapM_append_eq_ok_iff.mp haccessors
    exact ⟨ds, es, as, bs, ⟨hds, has⟩, ⟨hes, hbs⟩, rfl, rfl⟩
  · rintro ⟨ds, es, as, bs, ⟨hds, has⟩, ⟨hes, hbs⟩, rfl, rfl⟩
    exact ⟨mapM_append_eq_ok_iff.mpr ⟨ds, es, hds, hes, rfl⟩,
      mapM_append_eq_ok_iff.mpr ⟨as, bs, has, hbs, rfl⟩⟩

theorem rendered_cons_iff : Rendered (n :: ys) declarations accessors ↔
    ∃ d es a bs, declaration n = .ok d ∧ accessorFunction n = .ok a ∧ Rendered ys es bs ∧
      d :: es = declarations ∧ a :: bs = accessors := by
  constructor
  · rintro ⟨hdeclarations, haccessors⟩
    obtain ⟨d, es, hd, hes, rfl⟩ := mapM_cons_eq_ok_iff.mp hdeclarations
    obtain ⟨a, bs, ha, hbs, rfl⟩ := mapM_cons_eq_ok_iff.mp haccessors
    exact ⟨d, es, a, bs, hd, ha, ⟨hes, hbs⟩, rfl, rfl⟩
  · rintro ⟨d, es, a, bs, hd, ha, ⟨hes, hbs⟩, rfl, rfl⟩
    exact ⟨mapM_cons_eq_ok_iff.mpr ⟨d, es, hd, hes, rfl⟩,
      mapM_cons_eq_ok_iff.mpr ⟨a, bs, ha, hbs, rfl⟩⟩

theorem rendered_nil_iff : Rendered [] declarations accessors ↔
    declarations = [] ∧ accessors = [] := by
  constructor
  · rintro ⟨hdeclarations, haccessors⟩
    exact ⟨(Except.ok.inj hdeclarations).symm, (Except.ok.inj haccessors).symm⟩
  · rintro ⟨rfl, rfl⟩
    exact ⟨rfl, rfl⟩

theorem rendered_singleton (hd : declaration n = .ok d) (ha : accessorFunction n = .ok a) :
    Rendered [n] [d] [a] :=
  rendered_cons_iff.mpr ⟨d, [], a, [], hd, ha, rendered_nil_iff.mpr ⟨rfl, rfl⟩, rfl, rfl⟩

/-- What is rendered for a network among others is what is rendered for the others, and for it. -/
theorem rendered_insert_iff : Rendered (xs ++ n :: ys) declarations accessors ↔
    ∃ ds es as bs d a, Rendered xs ds as ∧ Rendered ys es bs ∧
      declaration n = .ok d ∧ accessorFunction n = .ok a ∧
      ds ++ d :: es = declarations ∧ as ++ a :: bs = accessors := by
  rw [rendered_append_iff]
  constructor
  · rintro ⟨ds, es', as, bs', hxs, hn, rfl, rfl⟩
    obtain ⟨d, es, a, bs, hd, ha, hys, rfl, rfl⟩ := rendered_cons_iff.mp hn
    exact ⟨ds, es, as, bs, d, a, hxs, hys, hd, ha, rfl, rfl⟩
  · rintro ⟨ds, es, as, bs, d, a, hxs, hys, hd, ha, rfl, rfl⟩
    exact ⟨ds, d :: es, as, a :: bs, hxs,
      rendered_cons_iff.mpr ⟨d, es, a, bs, hd, ha, hys, rfl, rfl⟩, rfl, rfl⟩

/-- A network can be put into a manifest exactly when there is a module without it and a module
for it alone. -/
theorem exists_generate_insert_iff : (∃ whole, generate (xs ++ n :: ys) = .ok whole) ↔
    (∃ rest, generate (xs ++ ys) = .ok rest) ∧ ∃ alone, generate [n] = .ok alone := by
  rw [exists_generate_iff, exists_generate_iff, exists_generate_iff]
  constructor
  · rintro ⟨_, _, h⟩
    obtain ⟨ds, es, as, bs, d, a, hxs, hys, hd, ha, -, -⟩ := rendered_insert_iff.mp h
    exact ⟨⟨_, _, rendered_append_iff.mpr ⟨ds, es, as, bs, hxs, hys, rfl, rfl⟩⟩,
      [d], [a], rendered_singleton hd ha⟩
  · rintro ⟨⟨_, _, hrest⟩, _, _, halone⟩
    obtain ⟨ds, es, as, bs, hxs, hys, -, -⟩ := rendered_append_iff.mp hrest
    obtain ⟨d, _, a, _, hd, ha, -, -, -⟩ := rendered_cons_iff.mp halone
    exact ⟨_, _, rendered_insert_iff.mpr
      ⟨ds, es, as, bs, d, a, hxs, hys, hd, ha, rfl, rfl⟩⟩

/-- An accessor function ends as the container does. -/
theorem exists_eq_append_closing (h : accessorFunction n = .ok a) :
    ∃ body, line a = body ++ line closing := by
  obtain ⟨name, -, rfl⟩ := accessorFunction_eq_ok_iff.mp h
  refine ⟨line ("pub fn " ++ Identifier.accessor name ++ "() -> " ++ providerType ++ " \x7b") ++
    line ("    " ++ Identifier.storage name ++ ".clone()"), ?_⟩
  exact String.append_assoc

/-- The last line of a module closes a function or, where there is none, the container. -/
theorem generate_ends_closed (h : generate networks = .ok text) :
    ∃ body, text = body ++ line closing := by
  obtain ⟨declarations, accessors, hrendered, rfl⟩ := generate_eq_ok_iff.mp h
  rcases networks.eq_nil_or_concat with rfl | ⟨earlier, last, rfl⟩
  · obtain ⟨rfl, rfl⟩ := rendered_nil_iff.mp hrendered
    refine ⟨container [], ?_⟩
    rw [assemble_eq, blocks_nil, String.append_empty]
  · rw [List.concat_eq_append] at hrendered
    obtain ⟨ds, es, as, bs, d, a, -, hnil, -, ha, rfl, rfl⟩ := rendered_insert_iff.mp hrendered
    obtain ⟨rfl, rfl⟩ := rendered_nil_iff.mp hnil
    obtain ⟨body, hbody⟩ := exists_eq_append_closing ha
    refine ⟨container ds ++ line d ++ between [] as ++ (line "" ++ body), ?_⟩
    rw [assemble_insert, hbody, blocks_nil]
    simp only [String.append_empty, String.append_assoc]

/-- A network that is put into a manifest adds its declaration, after those of the networks before
it, and its function, after theirs; all else in the module is as it is without the network, and
the module ends with the same closed line. -/
theorem generate_insert (xs ys : List Network) (n : Network) :
    ((∃ whole, generate (xs ++ n :: ys) = .ok whole) ↔
      (∃ rest, generate (xs ++ ys) = .ok rest) ∧ ∃ alone, generate [n] = .ok alone) ∧
    (∀ whole, generate (xs ++ n :: ys) = .ok whole →
      ∃ ds es as bs d a, Rendered xs ds as ∧ Rendered ys es bs ∧
        declaration n = .ok d ∧ accessorFunction n = .ok a ∧
        generate (xs ++ ys) = .ok (container ds ++ between es as ++ blocks bs) ∧
        whole = container ds ++ line d ++ between es as ++ (line "" ++ line a) ++ blocks bs) ∧
    ∀ networks text, generate networks = .ok text → ∃ body, text = body ++ line closing := by
  refine ⟨exists_generate_insert_iff, ?_, fun _ _ => generate_ends_closed⟩
  intro whole hwhole
  obtain ⟨_, _, h, rfl⟩ := generate_eq_ok_iff.mp hwhole
  obtain ⟨ds, es, as, bs, d, a, hxs, hys, hd, ha, rfl, rfl⟩ := rendered_insert_iff.mp h
  have hrest : Rendered (xs ++ ys) (ds ++ es) (as ++ bs) :=
    rendered_append_iff.mpr ⟨ds, es, as, bs, hxs, hys, rfl, rfl⟩
  refine ⟨ds, es, as, bs, d, a, hxs, hys, hd, ha, ?_, assemble_insert ds es as bs d a⟩
  rw [← assemble_append]
  exact generate_eq_ok_iff.mpr ⟨_, _, hrest, rfl⟩

/-- A network whose name is no identifier and whose address is a list, before one that is sound. -/
theorem malformed_insert : ∃ ds es as bs d a,
    Rendered [] ds as ∧ Rendered [⟨.string "eth", .string "https://e/", .absent⟩] es bs ∧
    declaration ⟨.string "a b", .array [], .boolean true⟩ = .ok d ∧
    accessorFunction ⟨.string "a b", .array [], .boolean true⟩ = .ok a ∧
    generate [⟨.string "eth", .string "https://e/", .absent⟩] =
      .ok (container ds ++ between es as ++ blocks bs) ∧
    generate [⟨.string "a b", .array [], .boolean true⟩,
        ⟨.string "eth", .string "https://e/", .absent⟩] =
      .ok (container ds ++ line d ++ between es as ++ (line "" ++ line a) ++ blocks bs) := by
  obtain ⟨whole, hwhole⟩ : ∃ whole, generate [⟨.string "a b", .array [], .boolean true⟩,
      ⟨.string "eth", .string "https://e/", .absent⟩] = .ok whole :=
    ⟨_, Attempt.eq_ok_of_toOption (Option.some_get (by decide +kernel)).symm⟩
  obtain ⟨ds, es, as, bs, d, a, hds, hes, hd, ha, hrest, rfl⟩ :=
    (generate_insert [] [⟨.string "eth", .string "https://e/", .absent⟩]
      ⟨.string "a b", .array [], .boolean true⟩).2.1 whole hwhole
  exact ⟨ds, es, as, bs, d, a, hds, hes, hd, ha, hrest, hwhole⟩

end ProviderBindings.ProviderModule
