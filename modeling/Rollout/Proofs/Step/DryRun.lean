import Rollout.Proofs.Step.Course

/-!
# What a dry run of a step shows

A dry run goes where every round trip succeeds at once and brings no rows (`World.obliging`), and
records the statements that are sent. A step sends the same in every world that obliges it: one in
which no round trip fails, no subscription lacks an article, and nobody cancels (`World.Obliges`).
For the round trips of a step depend on the answers only by their failures and by the articles that
are missing (`Step.recites`).
-/

namespace Rollout

variable {ε ε' α β : Type}

/-- A round trip is obliged by an answer that is a success and, if it brings the articles of a
subscription, tells of none that is missing. -/
def Trip.ObligedBy (trip : Trip) (answer : Answer) : Prop :=
  ∃ rows, answer = .ok rows ∧ ∀ instanceName database, ∀ s : Step.PullSubscription,
    trip = .query instanceName database s.articlesQuery → Step.missingArticles rows = []

/-- A world in which every round trip is obliged and nobody cancels, however long the answers
take. -/
structure World.Obliges (world : World) : Prop where
  cancels : ∀ es e, (world.reply es e).cancels = false
  pauses : ∀ es e, ∀ cancels ∈ (world.reply es e).pauses, cancels = false
  obliged : ∀ es, ∀ e : Entry, e.trip.ObligedBy (world.reply es e).answer

namespace Trip.ObligedBy

variable {trip : Trip} {answer : Answer}

/-- An answer that obliges is not the failure for a cancellation. -/
theorem ne_cancelled (h : trip.ObligedBy answer) : answer ≠ .error .cancelled := by
  obtain ⟨rows, rfl, -⟩ := h
  exact nofun

/-- No rows tell of no article. -/
theorem nil (trip : Trip) : trip.ObligedBy (.ok []) :=
  ⟨[], rfl, fun _ _ _ _ => rfl⟩

end Trip.ObligedBy

namespace World

/-- The world of a dry run obliges. -/
theorem obliges_obliging : obliging.Obliges where
  cancels _ _ := rfl
  pauses _ _ _ h := absurd h List.not_mem_nil
  obliged _ e := .nil e.trip

/-- A world that obliges does not cancel. -/
theorem Obliges.undisturbed {world : World} (h : world.Obliges) : world.Undisturbed where
  cancels := h.cancels
  pauses := h.pauses
  answer es e := (h.obliged es e).ne_cancelled

/-- The answers of a world that obliges are such answers. -/
theorem Obliges.of_answers {world : World} (h : world.Obliges) {target : String}
    {es : List Entry} {l : List (Trip × Answer)} (ha : world.Answers target es l) :
    ∀ p ∈ l, p.1.ObligedBy p.2 := by
  induction l generalizing es with
  | nil => exact fun _ hp => absurd hp List.not_mem_nil
  | cons p r ih =>
    obtain ⟨hp, hr⟩ := ha
    exact List.forall_mem_cons.2 ⟨hp ▸ h.obliged es ⟨target, p.1⟩, ih hr⟩

end World

namespace Activity

/-- An activity that sends some round trips, one after the other, and succeeds, whatever answers
oblige it. -/
def Recites (a : Activity ε α) (trips : List Trip) : Prop :=
  ∀ ⦃l r⦄, a.Trace l r → (∀ p ∈ l, p.1.ObligedBy p.2) → l.map Prod.fst = trips ∧ ∃ v, r = .ok v

/-- Every activity can be obliged. -/
theorem exists_trace_obliged (a : Activity ε α) :
    ∃ l r, a.Trace l r ∧ ∀ p ∈ l, p.1.ObligedBy p.2 := by
  induction a with
  | done v => exact ⟨[], _, .done v, fun _ hp => absurd hp List.not_mem_nil⟩
  | fail e => exact ⟨[], _, .fail e, fun _ hp => absurd hp List.not_mem_nil⟩
  | look next ih =>
    obtain ⟨l, r, ht, hl⟩ := ih false
    exact ⟨l, r, .look ht, hl⟩
  | ask trip next ih =>
    obtain ⟨l, r, ht, hl⟩ := ih (.ok [])
    have ho := Trip.ObligedBy.nil trip
    exact ⟨(trip, .ok []) :: l, r, .ask ho.ne_cancelled ht, List.forall_mem_cons.2 ⟨ho, hl⟩⟩

namespace Recites

variable {trips trips' : List Trip}

/-- An activity at its end recites nothing. -/
theorem done (v : α) : (Activity.done v : Activity ε α).Recites [] := by
  intro l r ht _
  cases ht
  exact ⟨rfl, v, rfl⟩

/-- An activity that has come to its end has nothing to send. -/
theorem of_done {v : α} (h : (Activity.done v : Activity ε α).Recites trips) : trips = [] :=
  (h (.done v) fun _ hp => absurd hp List.not_mem_nil).1.symm

/-- An activity that fails recites nothing, for it does not succeed. -/
theorem not_fail (e : ε) : ¬ (Activity.fail e : Activity ε α).Recites trips := by
  intro h
  obtain ⟨-, v, hv⟩ := h (.fail e) fun _ hp => absurd hp List.not_mem_nil
  cases hv

/-- Nobody cancels, so it does not matter what would follow a cancellation. -/
theorem look {next : Bool → Activity ε α} :
    (Activity.look next).Recites trips ↔ (next false).Recites trips := by
  refine ⟨fun h l r ht hl => h (.look ht) hl, fun h l r ht hl => ?_⟩
  cases ht with
  | look ht => exact h ht hl

/-- What an activity asks for comes first, and whatever answer obliges it the rest follows. -/
theorem of_ask {trip : Trip} {next : Answer → Activity ε α}
    (h : (Activity.ask trip next).Recites trips) :
    ∃ rest, trips = trip :: rest ∧
      ∀ answer, trip.ObligedBy answer → (next answer).Recites rest := by
  obtain ⟨l, r, ht, hl⟩ := exists_trace_obliged (Activity.ask trip next)
  obtain ⟨hfirst, -⟩ := h ht hl
  cases ht with
  | ask _ ht =>
    refine ⟨_, hfirst.symm, fun answer ha l' r' ht' hl' => ?_⟩
    obtain ⟨hrest, hr⟩ := h (.ask ha.ne_cancelled ht') (List.forall_mem_cons.2 ⟨ha, hl'⟩)
    exact ⟨(List.cons.inj (hrest.trans hfirst.symm)).2, hr⟩

/-- One activity after the other recites what both of them recite. -/
theorem bind {a : Activity ε α} {f : α → Activity ε β} (ha : a.Recites trips)
    (hf : ∀ v, (f v).Recites trips') : (a >>= f).Recites (trips ++ trips') := by
  intro l r ht hl
  rcases ht.of_bind with ⟨e, rfl, he⟩ | ⟨v, before, after, rfl, hv, hafter⟩
  · obtain ⟨-, v, hv⟩ := ha he hl
    cases hv
  · obtain ⟨hbefore, hafter'⟩ := List.forall_mem_append.1 hl
    obtain ⟨rfl, -⟩ := ha hv hbefore
    obtain ⟨rfl, hr⟩ := hf v hafter hafter'
    exact ⟨List.map_append, hr⟩

/-- A success that is turned into another one recites the same round trips. -/
theorem mapResult {a : Activity ε α} {f : Except ε α → Except ε' β} (h : a.Recites trips)
    (hf : ∀ v, ∃ w, f (.ok v) = .ok w) : (a.mapResult f).Recites trips := by
  intro l r ht hl
  obtain ⟨r', ht', rfl⟩ := ht.of_mapResult
  obtain ⟨rfl, v, rfl⟩ := h ht' hl
  exact ⟨rfl, hf v⟩

/-- In a world that obliges, an activity that is alone sends what it recites, and succeeds. -/
theorem finish {a : Activity ε α} (h : a.Recites trips) {world : World} (hw : world.Obliges)
    (target : String) {j : Journal} (hj : j.cancelled = false) :
    ∃ v, a.finish world target j = (⟨(trips.map (Entry.mk target)).reverse ++ j.entries, false⟩,
      .ok v) := by
  obtain ⟨es, cancelled⟩ := j
  obtain rfl : cancelled = false := hj
  obtain ⟨l, r, ht, ha, hfinish⟩ := exists_trace hw.undisturbed target a es
  obtain ⟨rfl, v, rfl⟩ := h ht (hw.of_answers ha)
  refine ⟨v, hfinish.trans ?_⟩
  rw [List.map_map]
  rfl

end Recites

end Activity

open Activity

/-- The round trips of a target after some others are added to them. -/
theorem Journal.trips_append (target : String) (trips : List Trip) (j : Journal) :
    (Journal.mk ((trips.map (Entry.mk target)).reverse ++ j.entries) false).trips =
      j.trips ++ trips := by
  simp [Journal.trips, Function.comp_def]

namespace Step

/-- A step whose scripts can all be read. -/
def Readable (files : Files) (s : Step) : Prop :=
  ∀ path ∈ s.scriptPaths, ∃ text, files path = .ok text

/-- A dry run of a step: what it sends, and what it comes to. -/
def dryRun (files : Files) (target : String) (s : Step) : Journal × Except StepError Unit :=
  (s.activity files).finish .obliging target (Journal.fresh false)

variable {files : Files} {s : Step} {texts : List String} {rows : List Row}

/-- The sequence of a step depends on the rows of a query only by the articles that are missing. -/
theorem legs_of_obliged {sent : List (Leg × Answer)} {result : Except StepError Unit}
    (hc : Course rows (s.legs texts rows) sent result)
    (hall : sent.map Prod.fst = s.legs texts rows)
    (ho : ∀ p ∈ sent, p.1.trip.ObligedBy p.2) : s.legs texts rows = s.legs texts [] := by
  cases s with
  | pullSubscription s =>
    -- the query for the articles was sent, and has brought the rows
    have hmem : Leg.query s.publisherInstance s.publisherDatabaseName s.articlesQuery ∈
        sent.map Prod.fst := by
      rw [hall]
      simp [legs]
    obtain ⟨⟨leg, answer⟩, hp, rfl⟩ := List.mem_map.1 hmem
    obtain ⟨brought, rfl, hnone⟩ := ho _ hp
    obtain rfl : brought = rows := hc.brings _ hp _ _ _ rfl _ rfl
    have hmissing : missingArticles brought = missingArticles [] := hnone _ _ s rfl
    rw [legs, legs, hmissing]
  | _ => rfl

/-- A step whose scripts can be read sends its full sequence, whatever answers oblige it. -/
theorem recites_legs (h : readAll files s.scriptPaths = .ok texts) :
    (s.activity files).Recites ((s.legs texts []).map Leg.trip) := by
  intro l r ht hl
  obtain ⟨sent, rows, rfl, hc : Course rows (s.legs texts rows) sent _⟩ := takesBy_activity h ht
  have ho : ∀ p ∈ sent, p.1.trip.ObligedBy p.2 := fun p hp =>
    hl (Leg.asSent p) (List.mem_map_of_mem hp)
  rcases hc.ends with ⟨hr, hall, -⟩ | ⟨before, leg, e, hsent, -⟩
  · refine ⟨?_, ?_⟩
    · rw [← legs_of_obliged hc hall ho, ← hall, List.map_map, List.map_map]
      rfl
    · cases r with
      | ok v => exact ⟨v, rfl⟩
      | error e => cases hr
  · -- nothing that was sent has failed
    obtain ⟨rows, hok, -⟩ := ho (leg, .error e) (by simp [hsent])
    cases hok

/-- A step whose scripts can be read sends in every world that obliges it what it sends in a dry
run, and succeeds. -/
theorem recites (h : s.Readable files) (target : String) :
    (s.activity files).Recites (s.dryRun files target).1.trips := by
  rcases readAll_cases files s.scriptPaths with ⟨texts, hread, -⟩ | ⟨path, -, hfirst, -⟩
  · have hr := recites_legs hread
    obtain ⟨v, hdry⟩ := hr.finish World.obliges_obliging target (j := Journal.fresh false) rfl
    rwa [dryRun, hdry, Journal.trips_append]
  · exact absurd h hfirst.not_forall

end Step

end Rollout
