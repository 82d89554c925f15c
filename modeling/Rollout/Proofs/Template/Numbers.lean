import Rollout.Proofs.Plan.Correspondence
import Rollout.Proofs.Text.Blank
import Rollout.Proofs.Text.Numeral

/-!
# Numbers from templates

A template is read as a number by the text that it expands to, without the blank characters at
either end: it gives a number exactly if what is left is a numeral of that number within the limits
of the type, and otherwise fails with the text as it was before (`expandAs_cases`). So the
retentions of a distributor and the ports of mirroring are the numbers that the manifest writes,
never wrapped and never cut (`expandAs_exact`).
-/

namespace Rollout

open Text

namespace Template

variable {α : Type} {reading : Reading α} {Writes : List Char → α → Prop}

/-- A template that expands is read as a value exactly if the stripped text writes the value, and
fails with the text as it is otherwise. -/
theorem expandAs_cases (reading : Reading α)
    (hread : ∀ {cs a}, reading.read? cs = some a ↔ Writes cs a) {t : Template} {params : Params}
    {v : String} {w : List Char} (hv : t.expand params = .ok v) (hw : Stripped v.toList w) :
    (∀ a, t.expandAs reading params = .ok a ↔ Writes w a) ∧
      ((¬ ∃ a, Writes w a) →
        t.expandAs reading params = .error (.conversion t.text v reading.typeName)) := by
  rw [stripped_iff] at hw
  subst hw
  simp only [expandAs, hv, ← hread]
  cases reading.read? (trimChars v.toList) with
  | none => simp
  | some b => simp

theorem expandAs_of_error {t : Template} {params : Params} {e : PlanError}
    (h : t.expand params = .error e) : t.expandAs reading params = .error e := by
  rw [expandAs, h]

/-- A template writes a value if the stripped text that it expands to does. -/
def Gives (Writes : List Char → α → Prop) (params : Params) (t : Template) (a : α) : Prop :=
  ∃ v w, t.expand params = .ok v ∧ Stripped v.toList w ∧ Writes w a

theorem gives_of_readAs (hread : ∀ {cs a}, reading.read? cs = some a ↔ Writes cs a) {t : Template}
    {params : Params} {a : α} (h : t.ReadAs params.get? reading a) : t.Gives Writes params a := by
  obtain ⟨v, hv, ha⟩ := h
  exact ⟨v, _, hv, stripped_trimChars v.toList, hread.1 ha⟩

/-- An optional template comes to what it gives, and to nothing if it is absent. -/
theorem rel_gives (hread : ∀ {cs a}, reading.read? cs = some a ↔ Writes cs a) {params : Params}
    {o : Option Template} {r : Option α} (h : Option.Rel (ReadAs params.get? reading) o r) :
    Option.Rel (Gives Writes params) o r := by
  cases h with
  | none => exact .none
  | some h => exact .some (gives_of_readAs hread h)

/-- The numbers of a step of a distributor are those that its templates give. -/
theorem rel_retentions {op : Operation.Distributor} {site : Site} {s : Step.Distributor}
    (h : op.step site = .ok s) :
    Option.Rel (Gives IsInt32 site.params) op.minRetention s.minRetention ∧
      Option.Rel (Gives IsInt32 site.params) op.maxRetention s.maxRetention ∧
      Option.Rel (Gives IsInt32 site.params) op.historyRetention s.historyRetention := by
  have hs := Operation.Distributor.step_eq_ok_iff.1 h
  exact ⟨rel_gives int32?_eq_some_iff hs.minRetention, rel_gives int32?_eq_some_iff hs.maxRetention,
    rel_gives int32?_eq_some_iff hs.historyRetention⟩

/-- The endpoints of mirroring listen on the port that its template gives, or on the default one. -/
theorem port_of_mem_steps {op : Operation.Mirroring} {site : Site} {steps : List Step}
    (h : op.steps site = .ok steps) {s : Step.MirroringEndpoint}
    (hs : .mirroringEndpoint s ∈ steps) :
    (op.port = none ∧ s.port = defaultMirroringPort) ∨
      ∃ t, op.port = some t ∧ t.Gives IsUInt16 site.params s.port := by
  obtain ⟨x, hx, rfl⟩ := Operation.Mirroring.steps_eq_ok_iff.1 h
  have hsame : s.port = x.port := by
    simp only [Operation.Mirroring.Sides.steps, List.mem_cons, Step.mirroringEndpoint.injEq,
      reduceCtorEq, List.not_mem_nil, or_false] at hs
    rcases hs with rfl | rfl <;> rfl
  have hport := hx.port
  rw [← hsame] at hport
  generalize op.port = o at hport
  generalize s.port = port at hport
  cases hport with
  | absent => exact .inl ⟨rfl, rfl⟩
  | given h => exact .inr ⟨_, rfl, gives_of_readAs uint16?_eq_some_iff h⟩

/-- A template is read as a number exactly at the limits of the type. Let it expand to `v`, and let
`w` be `v` without the blank characters at either end. Then it is read as the number of 32 bits that
`w` writes with an optional sign, or as the number of 16 bits that `w` writes with an optional plus
sign, whatever leading zeros there are; if `w` writes no such number the reading fails, with the
template, `v` as it is, and the type. A template that does not expand fails with its own error. So
every retention of a distributor and every port of mirroring is the number that the manifest writes,
within the limits. -/
theorem expandAs_exact (params : Params) :
    (∀ (t : Template) (e : PlanError), t.expand params = .error e →
      t.expandAs .int32 params = .error e ∧ t.expandAs .uint16 params = .error e) ∧
    (∀ (t : Template) (v : String) (w : List Char), t.expand params = .ok v →
      Stripped v.toList w →
        (∀ n, t.expandAs .int32 params = .ok n ↔ IsInt32 w n) ∧
        ((¬ ∃ n, IsInt32 w n) →
          t.expandAs .int32 params = .error (.conversion t.text v "i32")) ∧
        (∀ n, t.expandAs .uint16 params = .ok n ↔ IsUInt16 w n) ∧
        ((¬ ∃ n, IsUInt16 w n) →
          t.expandAs .uint16 params = .error (.conversion t.text v "u16"))) ∧
    ∀ base instanceName : String,
      (∀ (op : Operation.Distributor) (s : Step.Distributor),
        op.step ⟨params, base, instanceName⟩ = .ok s →
          Option.Rel (Gives IsInt32 params) op.minRetention s.minRetention ∧
          Option.Rel (Gives IsInt32 params) op.maxRetention s.maxRetention ∧
          Option.Rel (Gives IsInt32 params) op.historyRetention s.historyRetention) ∧
      ∀ (op : Operation.Mirroring) (steps : List Step),
        op.steps ⟨params, base, instanceName⟩ = .ok steps →
          ∀ s, .mirroringEndpoint s ∈ steps →
            (op.port = none ∧ s.port = defaultMirroringPort) ∨
              ∃ t, op.port = some t ∧ t.Gives IsUInt16 params s.port := by
  refine ⟨fun t e h => ⟨expandAs_of_error h, expandAs_of_error h⟩, fun t v w hv hw => ?_,
    fun base instanceName => ⟨fun op s h => rel_retentions h, fun op steps h s hs =>
      port_of_mem_steps h hs⟩⟩
  obtain ⟨hint, hnoInt⟩ := expandAs_cases .int32 int32?_eq_some_iff hv hw
  obtain ⟨huint, hnoUint⟩ := expandAs_cases .uint16 uint16?_eq_some_iff hv hw
  exact ⟨hint, hnoInt, huint, hnoUint⟩

/-- A reference to a parameter with blank characters around it. -/
def Sample.limit : Template :=
  ⟨" \x7b\x7bparams.limit\x7d\x7d\n"⟩

/-- A distributor that keeps its history for the referenced number of hours. -/
def Sample.keeper : Operation.Distributor :=
  ⟨none, none, none, none, some Sample.limit, none⟩

/-- A mirror whose endpoints listen on the referenced port. -/
def Sample.mirror : Operation.Mirroring :=
  ⟨⟨"Sales"⟩, ⟨"SQL02"⟩, some Sample.limit, none, none⟩

/-- The greatest number of 16 bits, with a sign and leading zeros. -/
def Sample.greatest : Params :=
  .ofList [("limit", "+0065535")]

/-- The number below the least one of 32 bits is refused with the text around it, and so is a name
without a value; the greatest number of 16 bits is read in spite of its sign and its zeros. -/
theorem expandAs_exact_sample :
    Sample.limit.expandAs .int32 .empty =
      .error (.missingReference Sample.limit.text "limit") ∧
    Sample.limit.expandAs .int32 (.ofList [("limit", "-2147483649")]) =
      .error (.conversion Sample.limit.text " -2147483649\n" "i32") ∧
    Sample.limit.expandAs .uint16 Sample.greatest = .ok 65535 ∧
    (∃ s, Sample.keeper.step ⟨Sample.greatest, ".", "SQL01"⟩ = .ok s ∧
      Option.Rel (Gives IsInt32 Sample.greatest) (some Sample.limit) s.historyRetention) ∧
    ∃ steps, Sample.mirror.steps ⟨Sample.greatest, ".", "SQL01"⟩ = .ok steps ∧
      .mirroringEndpoint ⟨"SQL02", 65535⟩ ∈ steps ∧
      Sample.limit.Gives IsUInt16 Sample.greatest 65535 := by
  obtain ⟨hmissing, -, -⟩ := expandAs_exact .empty
  obtain ⟨-, hbelow, -⟩ := expandAs_exact (.ofList [("limit", "-2147483649")])
  obtain ⟨-, hwithin, hsteps⟩ := expandAs_exact Sample.greatest
  obtain ⟨hkeeper, hmirror⟩ := hsteps "." "SQL01"
  refine ⟨(hmissing _ _ (by decide +kernel)).1, ?_, ?_, ?_, ?_⟩
  · refine (hbelow Sample.limit _ _ (by decide +kernel) (stripped_trimChars _)).2.1 ?_
    rintro ⟨n, hn⟩
    have hnone : int32? (trimChars " -2147483649\n".toList) = none := by decide
    cases hnone.symm.trans (int32?_eq_some_iff.2 hn)
  · refine ((hwithin _ " +0065535\n" _ (by decide +kernel) (stripped_trimChars _)).2.2.1 _).2 ?_
    exact uint16?_eq_some_iff.1 (by decide)
  · have hstep : Sample.keeper.step ⟨Sample.greatest, ".", "SQL01"⟩ =
        .ok ⟨"SQL01", none, none, none, none, some 65535, none⟩ := by decide +kernel
    exact ⟨_, hstep, (hkeeper _ _ hstep).2.2⟩
  · have hstep : Sample.mirror.steps ⟨Sample.greatest, ".", "SQL01"⟩ =
        .ok [.mirroringEndpoint ⟨"SQL01", 65535⟩, .mirroringEndpoint ⟨"SQL02", 65535⟩,
          .mirroringPartner ⟨"SQL02", "Sales", "TCP://SQL01:65535"⟩,
          .mirroringPartner ⟨"SQL01", "Sales", "TCP://SQL02:65535"⟩] := by decide +kernel
    refine ⟨_, hstep, by simp, ?_⟩
    rcases hmirror _ _ hstep ⟨"SQL02", 65535⟩ (by simp) with ⟨hno, -⟩ | ⟨t, ht, hgives⟩
    · cases hno
    · cases ht
      exact hgives

end Template

end Rollout
