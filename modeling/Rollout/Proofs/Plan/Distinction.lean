import Rollout.Proofs.Plan.Redaction
import Rollout.Proofs.Text.Json

/-!
# Fingerprints distinguish plans

The JSON of a plan shows all of the plan but its passwords: it tells the kind of each step and every
field of it, and of a password whether there is one. As JSON texts can be told apart, the bytes of
which fingerprints are hashes agree only for plans that are the same once they are redacted
(`fingerprintText_eq_iff`).
-/

namespace Rollout

/-- What is told by what one function shows of each item is shown alike by another function. -/
theorem map_eq_of_map {α β γ : Type} {f : α → β} {g : α → γ}
    (h : ∀ a a', f a = f a' → g a = g a') {l l' : List α} (hl : l.map f = l'.map f) :
    l.map g = l'.map g := by
  induction l generalizing l' with
  | nil =>
    cases l' with
    | nil => rfl
    | cons a' l' => cases hl
  | cons a l ih =>
    cases l' with
    | nil => cases hl
    | cons a' l' =>
      obtain ⟨ha, hr⟩ := List.cons.inj hl
      rw [List.map_cons, List.map_cons, h _ _ ha, ih hr]

namespace Json

/-- The JSON of an optional text tells the text, and whether there is one. -/
@[simp] theorem ofText?_inj {o o' : Option String} : ofText? o = ofText? o' ↔ o = o' := by
  cases o <;> cases o' <;> simp [ofText?]

/-- The JSON of an optional number tells the number, and whether there is one. -/
@[simp] theorem ofNumber?_inj {o o' : Option Int} : ofNumber? o = ofNumber? o' ↔ o = o' := by
  cases o <;> cases o' <;> simp [ofNumber?]

end Json

/-- The words of a printed plan tell recovery models apart. -/
@[simp] theorem RecoveryModel.map_word_inj {o o' : Option RecoveryModel} :
    o.map word = o'.map word ↔ o = o' := by
  have hword : Function.Injective word := by
    intro a b h
    cases a <;> cases b <;> first | rfl | simp [word] at h
  exact (Option.map_injective hword).eq_iff

namespace Step

@[simp] theorem textsJson_inj {l l' : List String} : textsJson l = textsJson l' ↔ l = l' := by
  simp [textsJson, List.map_inj_right]

@[simp] theorem map_articleJson_inj {l l' : List Article} :
    l.map articleJson = l'.map articleJson ↔ l = l' := by
  refine List.map_inj_right fun a a' h => ?_
  cases a
  cases a'
  simpa [articleJson] using h

/-- The JSON of a password tells whether there is one. -/
@[simp] theorem redacted_inj {o o' : Option String} :
    redacted o = redacted o' ↔ hide o = hide o' := by
  cases o <;> cases o' <;> simp [redacted, hide]

/-- The JSON of a step tells the redacted step. -/
theorem redact_eq_of_toJson {s s' : Step} (h : s.toJson = s'.toJson) : s.redact = s'.redact := by
  cases s with
  | login s =>
    cases s' with
    | login s' =>
      obtain ⟨_, _, _, _, _⟩ := s
      obtain ⟨_, _, _, _, _⟩ := s'
      simpa [toJson, redact] using h
    | _ => simp [toJson] at h
  | database s =>
    cases s' with
    | database s' =>
      obtain ⟨_, _, _, _, _⟩ := s
      obtain ⟨_, _, _, _, _⟩ := s'
      simpa [toJson, redact] using h
    | _ => simp [toJson] at h
  | distributor s =>
    cases s' with
    | distributor s' =>
      obtain ⟨_, _, _, _, _, _, _⟩ := s
      obtain ⟨_, _, _, _, _, _, _⟩ := s'
      simpa [toJson, redact] using h
    | _ => simp [toJson] at h
  | publication s =>
    cases s' with
    | publication s' =>
      obtain ⟨_, _, _, _, _, _⟩ := s
      obtain ⟨_, _, _, _, _, _⟩ := s'
      simpa [toJson, redact] using h
    | _ => simp [toJson] at h
  | pullSubscription s =>
    cases s' with
    | pullSubscription s' =>
      obtain ⟨_, _, _, _, _⟩ := s
      obtain ⟨_, _, _, _, _⟩ := s'
      simpa [toJson, redact] using h
    | _ => simp [toJson] at h
  | backup s =>
    cases s' with
    | backup s' =>
      obtain ⟨_, _, _, _⟩ := s
      obtain ⟨_, _, _, _⟩ := s'
      simpa [toJson, redact] using h
    | _ => simp [toJson] at h
  | restore s =>
    cases s' with
    | restore s' =>
      obtain ⟨_, _, _, _⟩ := s
      obtain ⟨_, _, _, _⟩ := s'
      simpa [toJson, redact] using h
    | _ => simp [toJson] at h
  | mirroringEndpoint s =>
    cases s' with
    | mirroringEndpoint s' =>
      obtain ⟨_, _⟩ := s
      obtain ⟨_, _⟩ := s'
      simpa [toJson, redact, Int.natCast_inj] using h
    | _ => simp [toJson] at h
  | mirroringPartner s =>
    cases s' with
    | mirroringPartner s' =>
      obtain ⟨_, _, _⟩ := s
      obtain ⟨_, _, _⟩ := s'
      simpa [toJson, redact] using h
    | _ => simp [toJson] at h

end Step

/-- The JSON of a target tells the redacted target. -/
theorem PlanTarget.redact_eq_of_targetJson {t t' : PlanTarget}
    (h : Plan.targetJson t = Plan.targetJson t') : t.redact = t'.redact := by
  obtain ⟨dependsOn, steps⟩ := t
  obtain ⟨dependsOn', steps'⟩ := t'
  obtain ⟨hdeps, hsteps⟩ : dependsOn = dependsOn' ∧
      steps.map Step.toJson = steps'.map Step.toJson := by
    simpa [Plan.targetJson] using h
  rw [redact, redact, hdeps, map_eq_of_map (fun _ _ => Step.redact_eq_of_toJson) hsteps]

namespace Plan

/-- The JSON of a plan tells the redacted plan. -/
theorem toJson_eq_iff {p q : Plan} : p.toJson = q.toJson ↔ p.redact = q.redact := by
  constructor
  · intro h
    have htargets : p.targets.entries.map (fun e => (e.1, targetJson e.2)) =
        q.targets.entries.map fun e => (e.1, targetJson e.2) := by
      simpa [toJson] using h
    have hentry (e e' : String × PlanTarget)
        (he : (e.1, targetJson e.2) = (e'.1, targetJson e'.2)) :
        (e.1, e.2.redact) = (e'.1, e'.2.redact) := by
      obtain ⟨hname, hjson⟩ := Prod.mk.inj he
      rw [hname, PlanTarget.redact_eq_of_targetJson hjson]
    have hlisting : (p.targets.map fun _ t => t.redact) = q.targets.map fun _ t => t.redact :=
      Listing.eq_of_entries (map_eq_of_map hentry htargets)
    rw [redact, redact, hlisting]
  · intro h
    rw [← p.toJson_redact, h, q.toJson_redact]

/-- Fingerprints distinguish plans: the bytes of which they are hashes are the same for two plans
exactly if the plans are the same, in the order of their targets too, once a marker stands in the
place of each password that is present. -/
theorem fingerprintText_eq_iff (p q : Plan) :
    p.fingerprintText.toUTF8 = q.fingerprintText.toUTF8 ↔ p.redact = q.redact := by
  have hbytes : p.fingerprintText.toUTF8 = q.fingerprintText.toUTF8 ↔
      p.toJson.compact = q.toJson.compact := by
    rw [String.toUTF8_eq_toByteArray, String.toUTF8_eq_toByteArray, String.toByteArray_inj,
      fingerprintText, fingerprintText, String.ofList_inj]
  rw [hbytes, ← toJson_eq_iff]
  exact ⟨Json.compact_inj, congrArg Json.compact⟩

end Plan

end Rollout
