import Rollout.Proofs.Plan.Demand

/-!
# What compilation reads

The compilation of a manifest reads exactly the templates that it lists: it depends on parameters by
what these templates expand to, it succeeds only if all of them expand, and an error is that of one
of them (`Reads`). This is what its demands come to when it does not matter in which order they are
made (`Needs.reads`).
-/

namespace Rollout

/-- A computation on parameters that reads some templates. -/
structure Reads {α : Type} (templates : List Template) (x : Params → Except PlanError α) :
    Prop where
  /-- Parameters by which the templates expand alike lead to the same. -/
  congr : ∀ {a b}, (∀ t ∈ templates, t.expand a = t.expand b) → x a = x b
  /-- There is a result only if every template expands. -/
  expands : ∀ {params r}, x params = .ok r → ∀ t ∈ templates, ∃ s, t.expand params = .ok s
  /-- There is an error only if a template does not expand, or expands to a text that is no value
  of the type it is read as. -/
  fails : ∀ {params e}, x params = .error e → ∃ t ∈ templates, t.expand params = .error e ∨
    ∃ value expected, t.expand params = .ok value ∧ e = .conversion t.text value expected

/-- A computation reads the templates on which it makes demands. -/
theorem Needs.reads {α : Type} {parts : List (List Demand)} {x : Params → Except PlanError α}
    (h : Needs parts x) : Reads (parts.flatten.map Demand.template) x where
  congr hab := h.congr fun part hpart d hd =>
    hab _ (List.mem_map_of_mem (List.mem_flatten.2 ⟨part, hpart, hd⟩))
  expands hr t ht := by
    obtain ⟨d, hd, rfl⟩ := List.mem_map.1 ht
    obtain ⟨part, hpart, hd⟩ := List.mem_flatten.1 hd
    exact Demand.exists_expandWith_of_fault? (h.met hr part hpart d hd)
  fails he := by
    obtain ⟨part, hfirst, d, hd, hfault⟩ := h.fails he
    exact ⟨d.template, List.mem_map_of_mem (List.mem_flatten.2 ⟨part, hfirst.mem, hd⟩),
      Demand.expandWith_of_fault? hfault⟩

namespace Reads

variable {α : Type} (base instanceName : String)

theorem text (t : Template) : Reads [t] fun params => Site.text ⟨params, base, instanceName⟩ t :=
  (Needs.text base instanceName t).reads

theorem text? (o : Option Template) :
    Reads o.toList fun params => Site.text? ⟨params, base, instanceName⟩ o := by
  have h := (Needs.text? base instanceName o).reads
  cases o <;> exact h

theorem texts (ts : List Template) :
    Reads ts fun params => Site.texts ⟨params, base, instanceName⟩ ts := by
  have hts : (ts.map fun t => [Demand.text t]).flatten.map Demand.template = ts := by
    induction ts with
    | nil => rfl
    | cons t r ih =>
      rw [List.map_cons, List.flatten_cons, List.map_append, ih]
      rfl
  have h := (Needs.texts base instanceName ts).reads
  rwa [hts] at h

theorem value? (reading : Template.Reading α) (o : Option Template) :
    Reads o.toList fun params => Site.value? ⟨params, base, instanceName⟩ reading o := by
  have h := (Needs.value? base instanceName reading o).reads
  cases o <;> exact h

end Reads

/-- The templates of a block: its name and those of its operations. -/
def Block.templates (b : Block) : List Template :=
  b.name :: b.operations.flatMap Operation.templates

/-- The templates of all targets of a manifest. -/
def Manifest.templates (m : Manifest) : List Template :=
  m.targets.entries.flatMap fun (_, t) => t.blocks.flatMap Block.templates

/-- The steps of an operation come of the templates that it holds, and of all of them. -/
theorem Operation.reads_steps (base instanceName : String) (op : Operation) :
    Reads op.templates fun params => op.steps ⟨params, base, instanceName⟩ := by
  have h := (op.needs_steps base instanceName).reads
  rwa [List.flatten_singleton, op.map_template_demands] at h

/-- Parts that make a demand on each template of some things make one on each template of all. -/
theorem map_template_flatten {α : Type} (parts : α → List (List Demand))
    {templates : α → List Template}
    (h : ∀ a, (parts a).flatten.map Demand.template = templates a) (l : List α) :
    (l.flatMap parts).flatten.map Demand.template = l.flatMap templates := by
  rw [← List.flatMap_id, List.flatMap_assoc, List.map_flatMap]
  simp only [List.flatMap_id, h]

/-- A block makes a demand on each of its templates. -/
theorem Block.map_template_parts (b : Block) :
    b.parts.flatten.map Demand.template = b.templates := by
  have hops := map_template_flatten (fun op => [op.demands])
    (fun op => by rw [List.flatten_singleton, op.map_template_demands]) b.operations
  rw [parts, templates, List.flatten_cons, List.map_append, ← hops, ← List.map_eq_flatMap]
  rfl

namespace Manifest

variable (m : Manifest)

/-- A manifest makes a demand on each of its templates. -/
theorem map_template_parts : m.parts.flatten.map Demand.template = m.templates :=
  map_template_flatten (fun p : String × Target => p.2.parts)
    (fun p => map_template_flatten _ Block.map_template_parts p.2.blocks) m.targets.entries

/-- The targets of the plan of a manifest come of its templates. -/
theorem reads_planTargets (base : String) :
    Reads m.templates fun params => planTargets params base m.targets.entries := by
  have h := (needs_planTargets base m.targets.entries).reads
  rwa [← m.map_template_parts]

/-- A compilation resolves the parameters, then checks the dependencies, then makes the targets. -/
theorem compile_eq (supplied : Params) (base? : Option String) :
    m.compile supplied base? =
      match resolveParams m.parameters supplied with
      | .error e => .error e
      | .ok params => match m.firstDependencyError? with
        | some e => .error e
        | none => (planTargets params (m.base base?) m.targets.entries).map fun targets =>
            ⟨Listing.ofList targets⟩ := by
  unfold compile
  cases resolveParams m.parameters supplied with
  | error e => rfl
  | ok params =>
    cases m.firstDependencyError? with
    | some e => rfl
    | none =>
      show (planTargets params (m.base base?) m.targets.entries >>= fun targets =>
        .ok (Plan.mk (Listing.ofList targets))) =
          (planTargets params (m.base base?) m.targets.entries).map fun targets =>
            Plan.mk (Listing.ofList targets)
      cases planTargets params (m.base base?) m.targets.entries <;> rfl

end Manifest

end Rollout
