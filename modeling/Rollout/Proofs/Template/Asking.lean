import Rollout.Proofs.Template.Mentions

/-!
# The names that expansion asks for

Expansion by a look-up with effects (`expandBy`) shows which names it asks for: under a look-up that
notes every name, an expansion that succeeds has noted `lookups`, from the left to the right and
with repetitions (`expandBy_noting`). In a well-formed template these are exactly the mentions if
and only if all of them are identifiers (`mentions_eq_lookups_iff`): the search finds identifiers
and nothing else, and misses none that is looked up.
-/

namespace Rollout.Template

/-! ## Expansion with effects -/

section Effects

variable {m : Type → Type} [Monad m] (t : Template) (ask : String → m (Option String))

/-- Substitution that asks for the value of each name, up to the first reference that is malformed
or has no value. -/
def substituteBy : List (List Char × List Char) → m (Except PlanError (List Char))
  | [] => pure (.ok [])
  | (before, key) :: more =>
    match nameOfKey key with
    | .error fault => pure (.error (.malformed t.text fault))
    | .ok name => do
      match ← ask name with
      | none => pure (.error (.missingReference t.text name))
      | some value => match ← substituteBy more with
        | .error e => pure (.error e)
        | .ok rest => pure (.ok (before ++ value.toList ++ rest))

/-- Expansion that asks for the value of each name. -/
def expandBy : m (Except PlanError String) := do
  match ← t.substituteBy ask t.layout.references with
  | .error e => pure (.error e)
  | .ok body => match t.layout.unclosed with
    | some position => pure (.error (.malformed t.text (.unclosed position)))
    | none => pure (.ok (String.ofList (body ++ t.layout.tail)))

end Effects

variable (t : Template) (v : String → Option String)

/-- Substitution by a look-up without effects is substitution. -/
theorem substituteBy_id (refs : List (List Char × List Char)) :
    (t.substituteBy (m := Id) (fun name => pure (v name)) refs).run = t.substitute v refs := by
  induction refs with
  | nil => rfl
  | cons ref more ih =>
    obtain ⟨before, key⟩ := ref
    cases hkey : nameOfKey key with
    | error fault => simp [substituteBy, substitute, hkey]
    | ok name =>
      cases hv : v name with
      | none => simp [substituteBy, substitute, hkey, hv]
      | some value =>
        cases hmore : t.substitute v more <;> simp [substituteBy, substitute, hkey, hv, ih, hmore]

/-- Expansion by a look-up without effects is expansion. -/
theorem expandBy_id :
    (t.expandBy (m := Id) (fun name => pure (v name))).run = t.expandWith v := by
  unfold expandBy expandWith
  rw [Id.run_bind, substituteBy_id]
  cases t.substitute v t.layout.references with
  | error e => rfl
  | ok body => cases t.layout.unclosed <;> rfl

/-- A look-up that notes the names it is asked for. -/
def noting (name : String) : StateM (List String) (Option String) := do
  modify (· ++ [name])
  pure (v name)

/-- A substitution that succeeds notes the names that are looked up. -/
theorem substituteBy_noting {refs : List (List Char × List Char)} {body : List Char}
    (h : t.substitute v refs = .ok body) (noted : List String) :
    ((t.substituteBy (noting v) refs).run noted).run = (.ok body, noted ++ lookupsIn refs) := by
  induction refs generalizing body noted with
  | nil =>
    cases h
    simp [substituteBy, lookupsIn]
  | cons ref more ih =>
    obtain ⟨before, key⟩ := ref
    obtain ⟨name, value, rest, hkey, hv, hrest, rfl⟩ := t.ok_of_substitute_cons h
    have hmore := ih hrest (noted ++ [name])
    simp [substituteBy, lookupsIn, hkey, noting, hv, hmore]

/-- An expansion that succeeds notes the names that are looked up. -/
theorem expandBy_noting {s : String} (h : t.expandWith v = .ok s) :
    ((t.expandBy (noting v)).run []).run = (.ok s, t.lookups) := by
  obtain ⟨hopen, body, hbody, rfl⟩ := t.expandWith_eq_ok_iff.1 h
  have hsub := t.substituteBy_noting v hbody []
  simp [expandBy, hsub, hopen, lookups]

/-! ## Mentions and look-ups -/

/-- Whatever is mentioned is an identifier. -/
theorem isIdentifier_of_mem_mentionsIn {cs : List Char} {name : String}
    (h : name ∈ mentionsIn cs) : isIdentifier name.toList = true := by
  fun_induction mentionsIn cs with
  | case1 cs found rest hmention ih =>
    rcases List.mem_cons.1 h with rfl | h
    · rw [String.toList_ofList]
      exact (mention?_eq_some_iff.1 hmention).1
    · exact ih h
  | case2 => cases h
  | case3 c r hmention ih => exact ih h

/-- All names that are looked up are mentioned, and nothing else, if they are identifiers. -/
theorem Sees.eq_of_isIdentifier {looked mentioned : List String} (h : Sees looked mentioned)
    (hall : ∀ name ∈ looked, isIdentifier name.toList = true) : mentioned = looked := by
  induction h with
  | nil => rfl
  | found _ _ ih => rw [ih (List.forall_mem_cons.1 hall).2]
  | passed hn _ _ => simp [(List.forall_mem_cons.1 hall).1] at hn
  | mistaken hn _ _ _ => simp [(List.forall_mem_cons.1 hall).1] at hn

/-- In a well-formed template the names that an expansion asks for, from the left to the right, are
the looked-up ones; and these are the mentions, in the same order and with the same repetitions, if
and only if all of them are identifiers. -/
theorem mentions_eq_lookups_iff {t : Template} (hc : t.check = .ok ()) :
    (∀ v s, t.expandWith v = .ok s → ((t.expandBy (noting v)).run []).run = (.ok s, t.lookups)) ∧
    (t.mentions = t.lookups ↔ ∀ name ∈ t.lookups, isIdentifier name.toList = true) := by
  refine ⟨fun v s h => t.expandBy_noting v h, fun h name hname => ?_, fun hall => ?_⟩
  · exact isIdentifier_of_mem_mentionsIn (h ▸ hname)
  · exact (sees hc).eq_of_isIdentifier hall

/-- A template with two references to one parameter, and braces that belong to none. -/
def Sample.address : Template :=
  ⟨"\x7b\x7b params.host \x7d\x7d/\x7b\x7bparams.port\x7d\x7d\x7d" ++
    "\x7b\x7b\u00a0params.host\x7d\x7d\x7b"⟩

/-- A template with a name that is no identifier. -/
def Sample.dashed : Template :=
  ⟨"\x7b\x7bparams.host\x7d\x7d/\x7b\x7bparams.host-name\x7d\x7d"⟩

/-- The one sample mentions what it looks up, the other one does not. -/
theorem mentions_eq_lookups_iff_sample :
    Sample.address.check = .ok () ∧ Sample.address.lookups = ["host", "port", "host"] ∧
      Sample.address.mentions = ["host", "port", "host"] ∧
    Sample.dashed.check = .ok () ∧ Sample.dashed.lookups = ["host", "host-name"] ∧
      Sample.dashed.mentions ≠ ["host", "host-name"] := by
  have hc : Sample.address.check = .ok () ∧ Sample.dashed.check = .ok () := by decide +kernel
  have hl : Sample.address.lookups = ["host", "port", "host"] ∧
      Sample.dashed.lookups = ["host", "host-name"] := by decide +kernel
  refine ⟨hc.1, hl.1, ?_, hc.2, hl.2, ?_⟩
  · rw [← hl.1, (mentions_eq_lookups_iff hc.1).2, hl.1]
    decide
  · rw [← hl.2, Ne, (mentions_eq_lookups_iff hc.2).2, hl.2]
    decide

end Rollout.Template
