import Rollout.Manifest.Check
import Rollout.Proofs.Plan.Faults
import Rollout.Proofs.Plan.Validation
import Rollout.Proofs.Template.Mentions

/-!
# What the references to undeclared parameters tell

The references to parameters that a manifest does not declare are found by the search for mentions,
whereas compilation looks names up by layout. In a manifest without defects the two agree as far as
names are identifiers (`undeclared_reliable`): without undeclared references no identifier is found
missing, and a reference to an undeclared parameter without a value makes compilation fail. Names
that are no identifiers escape the search, and where they have values they may hide what the search
takes for a reference.
-/

namespace Rollout.Manifest

open Template (isIdentifier)

/-- The items that are kept are those that were found before or come later. -/
theorem mem_distinct {α : Type} [DecidableEq α] {a : α} {found l : List α} :
    a ∈ distinct found l ↔ a ∈ found ∨ a ∈ l := by
  induction l generalizing found with
  | nil => simp [distinct]
  | cons x r ih =>
    unfold distinct
    split
    · rename_i hx
      rw [ih, List.mem_cons]
      refine ⟨Or.imp_right .inr, ?_⟩
      rintro (h | rfl | h)
      · exact .inl h
      · exact .inl hx
      · exact .inr h
    · rw [ih, List.mem_cons, List.mem_cons, or_assoc, or_left_comm]

/-- A template of a target: the name of one of its blocks, or a template of an operation. -/
def Holds (m : Manifest) (name : String) (t : Template) : Prop :=
  ∃ target, (name, target) ∈ m.targets.entries ∧ t ∈ target.blocks.flatMap Block.templates

variable {m : Manifest} {supplied : Params} {base? : Option String}

/-- The templates of a manifest are those of its targets. -/
theorem mem_templates_iff {t : Template} : t ∈ m.templates ↔ ∃ name, m.Holds name t := by
  simp only [templates, List.mem_flatMap, Holds, Prod.exists]

/-- An undeclared reference is a mention in a target of a name that is not declared. -/
theorem mem_undeclared_iff {target name : String} : (target, name) ∈ m.undeclared ↔
    m.parameters.has name = false ∧ ∃ t, m.Holds target t ∧ name ∈ t.mentions := by
  have hin (t : Target) : (target, name) ∈ m.undeclaredIn target t ↔
      m.parameters.has name = false ∧
        ∃ u ∈ t.blocks.flatMap Block.templates, name ∈ u.mentions := by
    unfold undeclaredIn Block.templates
    simp [and_comm]
  have hname {other : String} {t : Target} (h : (target, name) ∈ m.undeclaredIn other t) :
      other = target := by
    unfold undeclaredIn at h
    obtain ⟨p, -, hp⟩ := List.mem_map.1 h
    exact (Prod.mk.inj hp).1
  unfold undeclared
  rw [mem_distinct, List.mem_flatMap]
  simp only [List.not_mem_nil, false_or]
  constructor
  · rintro ⟨⟨other, t⟩, ht, hmem⟩
    obtain rfl := hname hmem
    obtain ⟨hhas, u, hu, hmention⟩ := (hin t).1 hmem
    exact ⟨hhas, u, ⟨t, ht, hu⟩, hmention⟩
  · rintro ⟨hhas, u, ⟨t, ht, hu⟩, hmention⟩
    exact ⟨(target, t), ht, (hin t).2 ⟨hhas, u, hu, hmention⟩⟩

/-- Without defects the declared names are identifiers. -/
theorem isIdentifier_of_defects (h : m.defects = []) {name : String}
    (hname : m.parameters.has name = true) : isIdentifier name.toList = true := by
  have hall : ∀ n ∈ m.parameters.names, isParameterName n = true := by
    simpa [List.filter_eq_nil_iff] using (List.append_eq_nil_iff.1 h).1
  exact hall name ((m.parameters.has_iff name).1 hname)

/-- A name without a value is neither supplied nor, if parameters are complete, declared. -/
theorem value?_eq_none_iff (hc : m.Complete supplied) {name : String} :
    m.value? supplied name = none ↔ supplied.has name = false ∧ m.parameters.has name = false := by
  unfold value? Listing.has
  rw [Option.or_eq_none_iff, Option.isSome_eq_false_iff, Option.isNone_iff_eq_none,
    Option.isSome_eq_false_iff, Option.isNone_iff_eq_none]
  refine and_congr_right fun hnone => ⟨fun h => ?_, fun h => by rw [h, Option.bind_none]⟩
  cases hp : m.parameters.get? name with
  | none => rfl
  | some p =>
    -- what is declared and not supplied has a default
    rcases hc _ ((m.parameters.get?_eq_some_iff name p).1 hp) with hhas | hdefault
    · simp [Listing.has, hnone] at hhas
    · rw [hp, Option.bind_some] at h
      simp [← p.isSome_defaultText?_iff, h] at hdefault

/-- The dependencies of a well-formed manifest are sound. -/
theorem WellFormed.consistent (h : m.WellFormed) : m.Consistent := by
  rcases m.firstDependencyError?_cases with ⟨-, hall⟩ | ⟨_, _, hsome⟩
  · exact hall
  · cases h.firstDependencyError?.symm.trans hsome

/-- A name that is looked up and has no value makes compilation fail. -/
theorem compile_of_missing (hw : m.WellFormed) (hc : m.Complete supplied) {t : Template}
    (ht : t ∈ m.templates) {name : String} (hname : name ∈ t.lookups)
    (hvalue : m.value? supplied name = none) : ∃ e, m.compile supplied base? = .error e := by
  rcases compile_of_complete base? hc hw.consistent with ⟨-, hf⟩ | ⟨_, _, _, _, e, _, he⟩
  · -- the template would have to expand
    rw [← m.map_template_parts, List.mem_map] at ht
    obtain ⟨d, hd, rfl⟩ := ht
    obtain ⟨part, hpart, hd⟩ := List.mem_flatten.1 hd
    have hexpands := Demand.exists_expandWith_of_fault? (hf part hpart d hd)
    have hsome := (d.template.exists_expandWith_eq_ok_iff.1 hexpands).2 name hname
    rw [hvalue] at hsome
    cases hsome
  · exact ⟨e, he⟩

/-- A reference is found missing because a template of a target looks its name up, which has no
value. -/
theorem value?_of_missingReference (hw : m.WellFormed) (hc : m.Complete supplied)
    {text name : String} (he : m.compile supplied base? = .error (.missingReference text name)) :
    m.value? supplied name = none ∧
      ∃ target t, m.Holds target t ∧ t.text = text ∧ name ∈ t.lookups := by
  rcases compile_of_complete base? hc hw.consistent with
    ⟨⟨p, hp⟩, -⟩ | ⟨part, hfirst, d, hd, e, hfault, he'⟩
  · cases he.symm.trans hp
  · cases he.symm.trans he'
    have ht : d.template ∈ m.templates := by
      rw [← m.map_template_parts]
      exact List.mem_map_of_mem (List.mem_flatten.2 ⟨part, hfirst.mem, hd⟩)
    rcases Demand.expandWith_of_fault? hfault with hexpand | ⟨_, _, _, hconversion⟩
    · rcases d.template.error_of_expandWith hexpand with hcheck | ⟨other, hother, hnone, heq⟩
      · cases (hw.check _ ht).symm.trans hcheck
      · cases heq
        obtain ⟨target, hholds⟩ := mem_templates_iff.1 ht
        exact ⟨hnone, target, d.template, hholds, rfl, hother⟩
    · cases hconversion

/-- What the references to undeclared parameters tell, of a manifest without defects whose
parameters have values. If there are none, compilation never finds a reference to an identifier
missing. If there is one and no value is supplied for it, compilation fails, unless the template
with the reference looks up a name that is no identifier and for which a value is supplied. -/
theorem undeclared_reliable (m : Manifest) (supplied params : Params) (base? : Option String)
    (hd : m.defects = []) (hp : resolveParams m.parameters supplied = .ok params) :
    (m.undeclared = [] → ∀ text name,
      m.compile supplied base? = .error (.missingReference text name) →
        isIdentifier name.toList = false ∧
          ∃ target t, m.Holds target t ∧ t.text = text ∧ name ∈ t.lookups) ∧
    ∀ target name, (target, name) ∈ m.undeclared → supplied.has name = false →
      (∃ e, m.compile supplied base? = .error e) ∨
        ∃ t, m.Holds target t ∧ name ∈ t.mentions ∧
          ∃ other ∈ t.lookups, isIdentifier other.toList = false ∧ supplied.has other = true := by
  have hw : m.WellFormed := m.isOfName_defects_iff.1 (by simp [hd])
  have hc : m.Complete supplied := exists_resolveParams_iff.1 ⟨params, hp⟩
  have hsees {target : String} {t : Template} (ht : m.Holds target t) :
      Template.Sees t.lookups t.mentions :=
    Template.sees (hw.check t (mem_templates_iff.2 ⟨target, ht⟩))
  constructor
  · intro hnone text name he
    obtain ⟨hvalue, target, t, hholds, htext, hname⟩ := value?_of_missingReference hw hc he
    refine ⟨?_, target, t, hholds, htext, hname⟩
    cases hid : isIdentifier name.toList with
    | false => rfl
    | true =>
      -- an identifier that is looked up is mentioned, and so would be listed
      have hmem : (target, name) ∈ m.undeclared := mem_undeclared_iff.2
        ⟨((value?_eq_none_iff hc).1 hvalue).2, t, hholds, (hsees hholds).mem_mentioned hname hid⟩
      rw [hnone] at hmem
      cases hmem
  · intro target name hmem hsupplied
    obtain ⟨hdeclared, t, hholds, hmention⟩ := mem_undeclared_iff.1 hmem
    have ht : t ∈ m.templates := mem_templates_iff.2 ⟨target, hholds⟩
    rcases (hsees hholds).mem_looked hmention with hname | ⟨other, hother, hid⟩
    · exact .inl (compile_of_missing hw hc ht hname
        ((value?_eq_none_iff hc).2 ⟨hsupplied, hdeclared⟩))
    · cases hhas : supplied.has other with
      | true => exact .inr ⟨t, hholds, hmention, other, hother, hid, hhas⟩
      | false =>
        -- a name that is no identifier is not declared either
        have hother' : m.parameters.has other = false := by
          cases hdecl : m.parameters.has other with
          | false => rfl
          | true => cases hid.symm.trans (isIdentifier_of_defects hd hdecl)
        exact .inl (compile_of_missing hw hc ht hother ((value?_eq_none_iff hc).2 ⟨hhas, hother'⟩))

end Rollout.Manifest

namespace Rollout

/-- A manifest of one target, whose one block has a template for its name. -/
def Sample.named (name : Template) : Manifest where
  name := "named"
  description := none
  parameters := .empty
  targets := .ofList [("a", ⟨[], none, [⟨name, []⟩]⟩)]
  source := none

/-- A block named by a reference to a name with a dash. -/
def Sample.dashed : Manifest :=
  Sample.named ⟨"\x7b\x7b params.bad-name \x7d\x7d"⟩

/-- A block named by a reference to a name that holds the front of a reference. -/
def Sample.nested : Manifest :=
  Sample.named ⟨"\x7b\x7bparams.\x7b\x7bparams.x\x7d\x7d"⟩

/-- The value of the name that holds the front of a reference. -/
def Sample.nestedBy : Params :=
  .ofList [("\x7b\x7bparams.x", "SQL01")]

/-- A name that is no identifier is looked up and not found, though no reference to it is listed;
and a reference is listed that is but a part of such a name, so that compilation succeeds. -/
theorem Manifest.undeclared_unreliable :
    (Sample.dashed.defects = [] ∧ Sample.dashed.undeclared = [] ∧
      (resolveParams Sample.dashed.parameters .empty).toOption.isSome = true ∧
      Sample.dashed.compile .empty none =
        .error (.missingReference "\x7b\x7b params.bad-name \x7d\x7d" "bad-name")) ∧
    Sample.nested.defects = [] ∧ Sample.nested.undeclared = [("a", "x")] ∧
      Sample.nestedBy.has "x" = false ∧
      (Sample.nested.compile Sample.nestedBy none).toOption.isSome = true := by
  have hfails : (Sample.dashed.compile .empty none).map (fun _ => ()) =
      .error (.missingReference "\x7b\x7b params.bad-name \x7d\x7d" "bad-name") := by
    decide +kernel
  refine ⟨⟨by decide +kernel, by decide +kernel, by decide +kernel, ?_⟩,
    by decide +kernel, by decide +kernel, by decide +kernel, by decide +kernel⟩
  cases h : Sample.dashed.compile .empty none with
  | ok p => simp [h, Except.map] at hfails
  | error e =>
    rw [h] at hfails
    cases hfails
    rfl

/-- A block named by a parameter that is not declared. -/
def Sample.hosted : Manifest :=
  Sample.named ⟨"\x7b\x7bparams.host\x7d\x7d"⟩

/-- The parameter that names the block is listed, and without a value compilation fails. -/
theorem Manifest.undeclared_reliable_sample :
    Sample.hosted.defects = [] ∧ resolveParams Sample.hosted.parameters .empty = .ok .empty ∧
      Sample.hosted.undeclared = [("a", "host")] ∧
      ∃ e, Sample.hosted.compile .empty none = .error e := by
  have hd : Sample.hosted.defects = [] := by decide +kernel
  have hu : Sample.hosted.undeclared = [("a", "host")] := by decide +kernel
  obtain ⟨-, h⟩ := Manifest.undeclared_reliable Sample.hosted .empty .empty none hd rfl
  refine ⟨hd, rfl, hu, ?_⟩
  rcases h "a" "host" (hu ▸ List.mem_cons_self) rfl with he | ⟨_, _, _, _, _, _, hhas⟩
  · exact he
  · cases hhas

end Rollout
