import Rollout.Proofs.First
import Rollout.Template

/-!
# What expansion depends on

Expansion looks up the names that stand in front of the first malformed key of a template, and
nothing else. It succeeds exactly if the template is well formed and each of these names has a
value; whether it fails, and with which error, does not depend on what the values are.
-/

namespace Rollout.Template

/-- The names that are looked up in the course of references, up to the first malformed key. -/
def lookupsIn : List (List Char × List Char) → List String
  | [] => []
  | (_, key) :: more =>
    match nameOfKey key with
    | .error _ => []
    | .ok name => name :: lookupsIn more

/-- The names that expansion looks up, in order and with repetitions. -/
def lookups (t : Template) : List String :=
  lookupsIn t.layout.references

variable (t : Template) {v w : String → Option String}

/-- Substitution depends on the values of the names that are looked up. -/
theorem substitute_congr {refs : List (List Char × List Char)}
    (h : ∀ name ∈ lookupsIn refs, v name = w name) :
    t.substitute v refs = t.substitute w refs := by
  induction refs with
  | nil => rfl
  | cons ref more ih =>
    obtain ⟨before, key⟩ := ref
    cases hkey : nameOfKey key with
    | error fault => simp only [substitute, hkey]
    | ok name =>
      simp only [lookupsIn, hkey, List.mem_cons, forall_eq_or_imp] at h
      simp only [substitute, hkey, h.1, ih h.2]

/-- Expansion depends on the values of the names that are looked up. -/
theorem expandWith_congr (h : ∀ name ∈ t.lookups, v name = w name) :
    t.expandWith v = t.expandWith w := by
  rw [expandWith, expandWith, t.substitute_congr h]

theorem expand_congr {a b : Params} (h : ∀ name ∈ t.lookups, a.get? name = b.get? name) :
    t.expand a = t.expand b :=
  t.expandWith_congr h

/-- A substitution that succeeds finds a name and a value for its first reference. -/
theorem ok_of_substitute_cons {before key body : List Char} {more : List (List Char × List Char)}
    (h : t.substitute v ((before, key) :: more) = .ok body) :
    ∃ name value rest, nameOfKey key = .ok name ∧ v name = some value ∧
      t.substitute v more = .ok rest ∧ body = before ++ value.toList ++ rest := by
  unfold substitute at h
  split at h
  · cases h
  · rename_i name hkey
    split at h
    · cases h
    · rename_i value hv
      split at h
      · cases h
      · rename_i rest hrest
        cases h
        exact ⟨name, value, rest, hkey, hv, hrest, rfl⟩

/-- An expansion succeeds by its substitution, if no reference is left unclosed. -/
theorem expandWith_eq_ok_iff {s : String} :
    t.expandWith v = .ok s ↔ t.layout.unclosed = none ∧
      ∃ body, t.substitute v t.layout.references = .ok body ∧
        s = String.ofList (body ++ t.layout.tail) := by
  unfold expandWith
  cases t.substitute v t.layout.references with
  | error e => simp
  | ok body =>
    cases t.layout.unclosed with
    | some position => simp
    | none => simp [eq_comm]

/-- Substitution succeeds exactly if no key is malformed and every name has a value. -/
theorem exists_substitute_eq_ok_iff (v : String → Option String)
    (refs : List (List Char × List Char)) :
    (∃ cs, t.substitute v refs = .ok cs) ↔
      (∃ names, namesOfKeys refs = .ok names) ∧ ∀ name ∈ lookupsIn refs, (v name).isSome := by
  induction refs with
  | nil => simp [substitute, namesOfKeys, lookupsIn]
  | cons ref more ih =>
    obtain ⟨before, key⟩ := ref
    cases hkey : nameOfKey key with
    | error fault => simp [substitute, namesOfKeys, hkey]
    | ok name =>
      cases hv : v name with
      | none => simp [substitute, lookupsIn, hkey, hv]
      | some value =>
        cases hmore : t.substitute v more <;> cases hnames : namesOfKeys more <;>
          simp_all [substitute, namesOfKeys, lookupsIn]

/-- A substitution fails by a malformed key, or by a name that has no value. -/
theorem error_of_substitute {refs : List (List Char × List Char)} {e : PlanError}
    (h : t.substitute v refs = .error e) :
    (∃ fault, namesOfKeys refs = .error fault ∧ e = .malformed t.text fault) ∨
      ∃ name ∈ lookupsIn refs, v name = none ∧ e = .missingReference t.text name := by
  induction refs with
  | nil => cases h
  | cons ref more ih =>
    obtain ⟨before, key⟩ := ref
    cases hkey : nameOfKey key with
    | error fault =>
      simp only [substitute, hkey] at h
      cases h
      exact .inl ⟨fault, by simp only [namesOfKeys, hkey], rfl⟩
    | ok name =>
      simp only [substitute, hkey] at h
      cases hv : v name with
      | none =>
        rw [hv] at h
        cases h
        exact .inr ⟨name, by simp [lookupsIn, hkey], hv, rfl⟩
      | some value =>
        rw [hv] at h
        cases hmore : t.substitute v more with
        | ok rest => simp [hmore] at h
        | error e' =>
          simp only [hmore] at h
          cases h
          rcases ih hmore with ⟨fault, hf, he⟩ | ⟨other, ho, hn, he⟩
          · exact .inl ⟨fault, by simp only [namesOfKeys, hkey, hf], he⟩
          · exact .inr ⟨other, by simp [lookupsIn, hkey, ho], hn, he⟩

/-- Expansion succeeds exactly if the template is well formed and every name that is looked up has
a value. -/
theorem exists_expandWith_eq_ok_iff :
    (∃ s, t.expandWith v = .ok s) ↔ t.check = .ok () ∧ ∀ name ∈ t.lookups, (v name).isSome := by
  have hiff := t.exists_substitute_eq_ok_iff v t.layout.references
  unfold lookups expandWith check names
  cases hsub : t.substitute v t.layout.references with
  | ok body =>
    obtain ⟨⟨names, hnames⟩, hvalues⟩ := hiff.1 ⟨body, hsub⟩
    rw [hnames]
    cases t.layout.unclosed with
    | none => simpa using hvalues
    | some position => simp
  | error e =>
    cases hnames : namesOfKeys t.layout.references with
    | error fault => simp
    | ok names =>
      -- every key names a parameter, so one of the parameters has no value
      have hvalues : ¬ ∀ name ∈ lookupsIn t.layout.references, (v name).isSome := fun hv => by
        obtain ⟨cs, hcs⟩ := hiff.2 ⟨⟨names, hnames⟩, hv⟩
        rw [hsub] at hcs
        cases hcs
      simp [hvalues]

/-- An expansion fails with the error of the check, or by a name that has no value. -/
theorem error_of_expandWith {e : PlanError} (h : t.expandWith v = .error e) :
    t.check = .error e ∨ ∃ name ∈ t.lookups, v name = none ∧ e = .missingReference t.text name := by
  unfold expandWith at h
  cases hsub : t.substitute v t.layout.references with
  | error e' =>
    simp only [hsub] at h
    cases h
    rcases t.error_of_substitute hsub with ⟨fault, hf, he⟩ | hmissing
    · exact .inl (by simp only [check, names, hf, he])
    · exact .inr hmissing
  | ok body =>
    obtain ⟨names, hnames⟩ := ((t.exists_substitute_eq_ok_iff _ _).1 ⟨body, hsub⟩).1
    simp only [hsub] at h
    cases hopen : t.layout.unclosed with
    | none => simp [hopen] at h
    | some position =>
      simp only [hopen] at h
      cases h
      exact .inl (by simp only [check, Template.names, hnames, hopen])

/-- A substitution fails by the first name without a value, if the names have values up to it. -/
theorem substitute_of_first {refs : List (List Char × List Char)} {name : String}
    (h : First (fun n => (v n).isSome = true) (lookupsIn refs) name) :
    t.substitute v refs = .error (.missingReference t.text name) := by
  induction refs with
  | nil => cases h
  | cons ref more ih =>
    obtain ⟨before, key⟩ := ref
    cases hkey : nameOfKey key with
    | error fault =>
      simp only [lookupsIn, hkey] at h
      cases h
    | ok name' =>
      simp only [lookupsIn, hkey] at h
      cases h with
      | here hv => simp only [substitute, hkey, Option.not_isSome_iff_eq_none.1 hv]
      | there hv hr =>
        obtain ⟨value, hvalue⟩ := Option.isSome_iff_exists.1 hv
        simp only [substitute, hkey, hvalue, ih hr]

/-- An expansion fails by the first name without a value, be the template well formed or not. -/
theorem expandWith_of_first {name : String}
    (h : First (fun n => (v n).isSome = true) t.lookups name) :
    t.expandWith v = .error (.missingReference t.text name) := by
  rw [expandWith, t.substitute_of_first h]

/-- An expansion fails with the error of the check if all names that are looked up have values. -/
theorem expandWith_of_check {e : PlanError} (hc : t.check = .error e)
    (hv : ∀ name ∈ t.lookups, (v name).isSome) : t.expandWith v = .error e := by
  cases h : t.expandWith v with
  | ok s =>
    have hok := (t.exists_expandWith_eq_ok_iff.1 ⟨s, h⟩).1
    cases hc.symm.trans hok
  | error e' =>
    rcases t.error_of_expandWith h with hc' | ⟨name, hname, hnone, -⟩
    · cases hc.symm.trans hc'
      rfl
    · have := hv name hname
      simp [hnone] at this

/-- Substitutions fail alike where the same names have values. -/
theorem substitute_error_congr {refs : List (List Char × List Char)} {e : PlanError}
    (h : ∀ name ∈ lookupsIn refs, (v name).isSome = (w name).isSome)
    (he : t.substitute v refs = .error e) : t.substitute w refs = .error e := by
  induction refs with
  | nil => cases he
  | cons ref more ih =>
    obtain ⟨before, key⟩ := ref
    cases hkey : nameOfKey key with
    | error fault => simpa only [substitute, hkey] using he
    | ok name =>
      simp only [lookupsIn, hkey, List.mem_cons, forall_eq_or_imp] at h
      cases hv : v name with
      | none =>
        have hw : w name = none := by simpa [hv] using h.1
        simpa only [substitute, hkey, hv, hw] using he
      | some value =>
        obtain ⟨value', hw⟩ := Option.isSome_iff_exists.1 (by rw [← h.1, hv]; rfl)
        cases hmore : t.substitute v more with
        | ok rest => simp [substitute, hkey, hv, hmore] at he
        | error e' =>
          simp only [substitute, hkey, hv, hmore] at he
          cases he
          simp only [substitute, hkey, hw, ih h.2 hmore]

/-- Expansions fail alike where the same names have values. -/
theorem expandWith_error_congr {e : PlanError}
    (h : ∀ name ∈ t.lookups, (v name).isSome = (w name).isSome)
    (he : t.expandWith v = .error e) : t.expandWith w = .error e := by
  unfold expandWith at he ⊢
  cases hsub : t.substitute v t.layout.references with
  | error e' =>
    rw [hsub] at he
    cases he
    rw [t.substitute_error_congr h hsub]
  | ok body =>
    -- where all references have values, only an opening that is never closed is left to fail
    obtain ⟨hnames, hvalues⟩ := (t.exists_substitute_eq_ok_iff _ _).1 ⟨body, hsub⟩
    obtain ⟨body', hsub'⟩ := (t.exists_substitute_eq_ok_iff _ _).2
      ⟨hnames, fun name hname => (h name hname).symm.trans (hvalues name hname)⟩
    rw [hsub] at he
    rw [hsub']
    cases hopen : t.layout.unclosed with
    | none => simp [hopen] at he
    | some position => simpa only [hopen] using he

end Rollout.Template
