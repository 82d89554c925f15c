import Rollout.Plan.Describe
import Rollout.Plan.Fingerprint
import Rollout.Proofs.Listing

/-!
# Redacted plans

A plan is redacted by putting one marker in the place of every password that its steps hold. What
a plan shows of itself, its JSON, its fingerprint and its description, is what the redacted plan
shows.
-/

namespace Rollout

namespace Step

/-- A password that is present, replaced by a marker. -/
def hide (password : Option String) : Option String :=
  password.map fun _ => "***"

/-- A step with a marker in the place of its password. -/
def redact : Step → Step
  | login s => login { s with password := hide s.password }
  | distributor s => distributor { s with adminPassword := hide s.adminPassword }
  | s => s

/-- What is shown of a password does not depend on it. -/
@[simp] theorem redacted_hide (password : Option String) :
    redacted (hide password) = redacted password := by
  cases password <;> rfl

/-- The JSON of a step shows no password. -/
@[simp] theorem toJson_redact (s : Step) : s.redact.toJson = s.toJson := by
  cases s <;> simp [redact, toJson]

/-- The description of a step shows no password. -/
@[simp] theorem describe_redact (s : Step) : s.redact.describe = s.describe := by
  cases s <;> rfl

/-- A step that is redacted stays on its instance. -/
@[simp] theorem instanceName_redact (s : Step) : s.redact.instanceName = s.instanceName := by
  cases s <;> rfl

end Step

/-- A target of a plan with its steps redacted. -/
def PlanTarget.redact (t : PlanTarget) : PlanTarget :=
  { t with steps := t.steps.map Step.redact }

namespace Plan

/-- A plan with its steps redacted. -/
def redact (p : Plan) : Plan :=
  ⟨p.targets.map fun _ t => t.redact⟩

/-- The JSON of a target shows no password. -/
@[simp] theorem targetJson_redact (t : PlanTarget) : targetJson t.redact = targetJson t := by
  simp [targetJson, PlanTarget.redact, Function.comp_def]

/-- The JSON of a plan is that of the redacted plan. -/
theorem toJson_redact (p : Plan) : p.redact.toJson = p.toJson := by
  simp [toJson, redact, Listing.map, Function.comp_def]

/-- The fingerprint of a plan is that of the redacted plan. -/
theorem fingerprint_redact (p : Plan) : p.redact.fingerprint = p.fingerprint := by
  rw [fingerprint, fingerprint, fingerprintText, fingerprintText, toJson_redact]

/-- The lines of a target show no password. -/
theorem targetLines_redact (name : String) (t : PlanTarget) :
    targetLines name t.redact = targetLines name t := by
  have hline : (fun p : Step × Nat => stepLine p.1 p.2) ∘ Prod.map Step.redact id =
      fun p => stepLine p.1 p.2 := by
    funext p
    simp [stepLine]
  simp [targetLines, headLine, PlanTarget.redact, List.zipIdx_map, hline]

/-- The description of a plan, in any order, is that of the redacted plan. -/
theorem describe_redact (p : Plan) (order : List String) :
    p.redact.describe order = p.describe order := by
  unfold describe
  congr 1
  funext name
  rw [redact, Listing.get?_map]
  cases p.targets.get? name with
  | none => rfl
  | some t => exact targetLines_redact name t

end Plan

end Rollout
