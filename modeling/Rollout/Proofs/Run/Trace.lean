import Mathlib.Data.List.Basic
import Rollout.Run.Work

/-!
# What an activity does while nobody cancels

A trace of an activity lists the round trips that it asks for, each with some answer, and the result
to which the answers lead; no answer tells of a cancellation. The traces of what is put together
from two activities are put together from theirs (`Trace.of_bind`), and in a world without
cancellations an activity that is alone goes along the trace whose answers the world gives
(`exists_trace`).
-/

namespace Rollout

variable {ε ε' α β : Type}

/-- A world in which nothing is cancelled: neither as a round trip is sent, nor while it is under
way, and no answer tells of a cancellation. -/
structure World.Undisturbed (world : World) : Prop where
  cancels : ∀ es e, (world.reply es e).cancels = false
  pauses : ∀ es e, ∀ cancels ∈ (world.reply es e).pauses, cancels = false
  answer : ∀ es e, (world.reply es e).answer ≠ .error .cancelled

/-- Whether round trips that are sent one after the other are answered as a world answers them,
given the ones before. -/
def World.Answers (world : World) (target : String) : List Entry → List (Trip × Answer) → Prop
  | _, [] => True
  | es, (trip, answer) :: r =>
    (world.reply es ⟨target, trip⟩).answer = answer ∧ world.Answers target (⟨target, trip⟩ :: es) r

/-- The entries of round trips for a target, the latest first. -/
def entriesOf (target : String) (l : List (Trip × Answer)) : List Entry :=
  (l.map fun p => ⟨target, p.1⟩).reverse

namespace Activity

/-- The round trips for which an activity asks, with their answers, and what it comes to. -/
inductive Trace : Activity ε α → List (Trip × Answer) → Except ε α → Prop where
  | done (value : α) : Trace (.done value) [] (.ok value)
  | fail (error : ε) : Trace (.fail error) [] (.error error)
  | look {next : Bool → Activity ε α} {l : List (Trip × Answer)} {r : Except ε α}
    (h : Trace (next false) l r) : Trace (.look next) l r
  | ask {trip : Trip} {next : Answer → Activity ε α} {answer : Answer}
    {l : List (Trip × Answer)} {r : Except ε α} (ha : answer ≠ .error .cancelled)
    (h : Trace (next answer) l r) : Trace (.ask trip next) ((trip, answer) :: l) r

namespace Trace

variable {l : List (Trip × Answer)}

theorem of_ofResult {result r : Except ε α} (h : (Activity.ofResult result).Trace l r) :
    l = [] ∧ r = result := by
  cases result <;> cases h <;> exact ⟨rfl, rfl⟩

/-- One round trip whose answer is the result, up to a function. -/
theorem of_ask_ofResult {trip : Trip} {f : Answer → Except ε α} {r : Except ε α}
    (h : (Activity.ask trip fun answer => .ofResult (f answer)).Trace l r) :
    ∃ answer, answer ≠ .error .cancelled ∧ l = [(trip, answer)] ∧ r = f answer := by
  cases h with
  | ask ha h =>
    obtain ⟨rfl, rfl⟩ := of_ofResult h
    exact ⟨_, ha, rfl, rfl⟩

/-- One activity after the other ends with the failure of the first, or goes on with the second. -/
theorem of_bind {a : Activity ε α} {f : α → Activity ε β} {r : Except ε β}
    (h : (a >>= f).Trace l r) : (∃ e, r = .error e ∧ a.Trace l (.error e)) ∨
      ∃ v before after, l = before ++ after ∧ a.Trace before (.ok v) ∧ (f v).Trace after r := by
  change (a.bind f).Trace l r at h
  induction a generalizing l with
  | done v => exact .inr ⟨v, [], l, rfl, .done v, h⟩
  | fail e =>
    cases h
    exact .inl ⟨e, rfl, .fail e⟩
  | look next ih =>
    cases h with
    | look h =>
      exact (ih false h).imp (fun ⟨e, hr, ht⟩ => ⟨e, hr, .look ht⟩)
        fun ⟨v, before, after, hl, hv, ht⟩ => ⟨v, before, after, hl, .look hv, ht⟩
  | ask trip next ih =>
    cases h with
    | @ask _ _ answer l r ha h =>
      refine (ih answer h).imp (fun ⟨e, hr, ht⟩ => ⟨e, hr, .ask ha ht⟩) ?_
      rintro ⟨v, before, after, rfl, hv, ht⟩
      exact ⟨v, (trip, answer) :: before, after, rfl, .ask ha hv, ht⟩

/-- An activity whose result is turned into another one asks for the same round trips. -/
theorem of_mapResult {a : Activity ε α} {f : Except ε α → Except ε' β} {r : Except ε' β}
    (h : (a.mapResult f).Trace l r) : ∃ r', a.Trace l r' ∧ r = f r' := by
  induction a generalizing l with
  | done v =>
    obtain ⟨rfl, rfl⟩ := of_ofResult h
    exact ⟨_, .done v, rfl⟩
  | fail e =>
    obtain ⟨rfl, rfl⟩ := of_ofResult h
    exact ⟨_, .fail e, rfl⟩
  | look next ih =>
    cases h with
    | look h =>
      obtain ⟨r', ht, hr⟩ := ih false h
      exact ⟨r', .look ht, hr⟩
  | ask trip next ih =>
    cases h with
    | @ask _ _ answer l r ha h =>
      obtain ⟨r', ht, hr⟩ := ih answer h
      exact ⟨r', .ask ha ht, hr⟩

end Trace

end Activity

/-- Turns in which nobody cancels do not change a journal that is not cancelled. -/
theorem Journal.foldl_pause {pauses : List Bool} (h : ∀ cancels ∈ pauses, cancels = false)
    (es : List Entry) : pauses.foldl Journal.pause ⟨es, false⟩ = ⟨es, false⟩ := by
  induction pauses with
  | nil => rfl
  | cons cancels r ih =>
    obtain ⟨rfl, hr⟩ := List.forall_mem_cons.1 h
    exact ih hr

namespace Activity

/-- Where nothing is cancelled, an activity that is alone goes along a trace of it with the answers
of the world. -/
theorem exists_trace {world : World} (hw : world.Undisturbed) (target : String)
    (a : Activity ε α) (es : List Entry) : ∃ l r, a.Trace l r ∧ world.Answers target es l ∧
      a.finish world target ⟨es, false⟩ = (⟨entriesOf target l ++ es, false⟩, r) := by
  induction a generalizing es with
  | done v => exact ⟨[], .ok v, .done v, trivial, rfl⟩
  | fail e => exact ⟨[], .error e, .fail e, trivial, rfl⟩
  | look next ih =>
    obtain ⟨l, r, ht, ha, hf⟩ := ih false es
    exact ⟨l, r, .look ht, ha, hf⟩
  | ask trip next ih =>
    obtain ⟨l, r, ht, ha, hf⟩ :=
      ih (world.reply es ⟨target, trip⟩).answer (⟨target, trip⟩ :: es)
    refine ⟨(trip, (world.reply es ⟨target, trip⟩).answer) :: l, r,
      .ask (hw.answer es ⟨target, trip⟩) ht, ⟨rfl, ha⟩, ?_⟩
    have hsent : (Journal.mk es false).record ⟨target, trip⟩ (world.reply es ⟨target, trip⟩) =
        ⟨⟨target, trip⟩ :: es, false⟩ := by
      rw [Journal.record, hw.cancels]
      rfl
    have hentries : entriesOf target ((trip, (world.reply es ⟨target, trip⟩).answer) :: l) ++ es =
        entriesOf target l ++ ⟨target, trip⟩ :: es := by
      simp [entriesOf]
    rw [hentries, ← hf, finish]
    simp only [hsent, Journal.foldl_pause (hw.pauses es ⟨target, trip⟩), Bool.and_false,
      Bool.false_eq_true, if_false]

end Activity

end Rollout
