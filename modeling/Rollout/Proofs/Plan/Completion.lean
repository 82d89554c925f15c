import Rollout.Plan.Parameters
import Rollout.Proofs.First
import Rollout.Proofs.Listing

/-!
# The values that parameters come to

Supplied values are completed by the defaults of the declared parameters. A name comes to the value
that is supplied for it, and otherwise to the default of the parameter of that name
(`get?_of_resolveParams`). The completion fails exactly if a declared parameter has neither, for the
first such parameter (`resolveParams_eq_error_iff`).
-/

namespace Rollout

/-- Whether a declared parameter has a value: one that is supplied, or a default other than null. -/
def Params.Gives (supplied : Params) (p : String × Parameter) : Prop :=
  supplied.has p.1 = true ∨ ∃ v, p.2.defaultValue = some v ∧ v ≠ .null

/-- The value of a name: the one that is supplied, or the default of the parameter of that name. -/
def Manifest.value? (m : Manifest) (supplied : Params) (name : String) : Option String :=
  (supplied.get? name).or ((m.parameters.get? name).bind Parameter.defaultText?)

/-- A default has a text unless it is null. -/
theorem Parameter.isSome_defaultText?_iff (p : Parameter) :
    p.defaultText?.isSome ↔ ∃ v, p.defaultValue = some v ∧ v ≠ .null := by
  unfold defaultText?
  split <;> simp_all

theorem completeParams_cons_of_has {values : Params} {name : String} (p : Parameter)
    (r : List (String × Parameter)) (h : values.has name = true) :
    completeParams values ((name, p) :: r) = completeParams values r := by
  rw [completeParams, if_pos h]

/-- What names come to: supplied values first, then defaults. -/
theorem get?_of_completeParams {values params : Params} {declared : List (String × Parameter)}
    (h : completeParams values declared = .ok params) (name : String) :
    params.get? name =
      (values.get? name).or ((lookPair name declared).bind Parameter.defaultText?) := by
  induction declared generalizing values with
  | nil =>
    cases h
    simp [lookPair]
  | cons q r ih =>
    obtain ⟨n, p⟩ := q
    cases hhas : values.has n with
    | true =>
      rw [completeParams_cons_of_has p r hhas] at h
      rw [ih h, lookPair]
      split
      · -- the supplied value counts, whatever else is declared
        obtain ⟨value, hvalue⟩ := Option.isSome_iff_exists.1 hhas
        subst n
        rw [hvalue, Option.some_or, Option.some_or]
      · rfl
    | false =>
      rw [completeParams, hhas, if_neg Bool.false_ne_true] at h
      cases hp : p.defaultText? with
      | none => simp [hp] at h
      | some value =>
        simp only [hp] at h
        rw [ih h, Listing.get?_put, lookPair]
        split
        · subst n
          have hnone : values.get? name = none := by simpa [Listing.has] using hhas
          rw [hnone, Option.none_or, Option.some_or, Option.bind_some, hp]
        · rfl

/-- The completion ends, and fails for the first parameter that has no value. -/
theorem completeParams_cases (values : Params) {declared : List (String × Parameter)}
    (hd : (declared.map Prod.fst).Nodup) :
    ((∃ params, completeParams values declared = .ok params) ∧ ∀ p ∈ declared, values.Gives p) ∨
      ∃ p, First values.Gives declared p ∧
        completeParams values declared = .error (.missingParameter p.1) := by
  induction declared generalizing values with
  | nil => exact .inl ⟨⟨values, rfl⟩, fun _ h => absurd h List.not_mem_nil⟩
  | cons q r ih =>
    obtain ⟨n, p⟩ := q
    obtain ⟨hn, hr⟩ := List.nodup_cons.1 hd
    cases hhas : values.has n with
    | true =>
      rw [completeParams_cons_of_has p r hhas]
      exact First.outcome_cons (.inl hhas) (ih _ hr)
    | false =>
      rw [completeParams, hhas, if_neg Bool.false_ne_true]
      cases hp : p.defaultText? with
      | none =>
        refine .inr ⟨(n, p), .here ?_, rfl⟩
        rintro (hgiven | hdefault)
        · cases hhas.symm.trans hgiven
        · rw [← p.isSome_defaultText?_iff, hp] at hdefault
          cases hdefault
      | some value =>
        have hgives : values.Gives (n, p) := .inr (p.isSome_defaultText?_iff.1 (by rw [hp]; rfl))
        -- the names that follow are others, so the default put under this one gives them nothing
        have hsame : ∀ q ∈ r, Params.Gives (values.put n value) q ↔ values.Gives q := by
          intro q hq
          have hne : n ≠ q.1 := fun e => hn (List.mem_map.2 ⟨q, hq, e.symm⟩)
          simp [Params.Gives, Listing.has, hne]
        refine First.outcome_cons hgives ((ih (values.put n value) hr).imp ?_ ?_)
        · exact fun ⟨hok, hall⟩ => ⟨hok, fun q hq => (hsame q hq).1 (hall q hq)⟩
        · exact fun ⟨q, hq, he⟩ => ⟨q, hq.congr hsame, he⟩

section Resolved

variable {declared : Listing Parameter} {supplied params : Params}

/-- Parameters are resolved exactly if each has a value. -/
theorem exists_resolveParams_iff :
    (∃ params, resolveParams declared supplied = .ok params) ↔
      ∀ p ∈ declared.entries, supplied.Gives p :=
  First.exists_ok_iff (completeParams_cases supplied declared.distinct)

/-- Parameters fail to be resolved for the first of them that has no value. -/
theorem resolveParams_eq_error_iff {e : PlanError} :
    resolveParams declared supplied = .error e ↔
      ∃ p, First supplied.Gives declared.entries p ∧ e = .missingParameter p.1 :=
  First.eq_error_iff (completeParams_cases supplied declared.distinct)

/-- The values that resolved parameters have. -/
theorem Manifest.get?_of_resolveParams {m : Manifest}
    (h : resolveParams m.parameters supplied = .ok params) : params.get? = m.value? supplied :=
  funext fun name => get?_of_completeParams h name

end Resolved

end Rollout
