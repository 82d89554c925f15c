import Rollout.Proofs.Plan.Counting

/-!
# The rounds of the ordering

Before the first selected target comes, the dependencies of all are gone through: each that is
selected is counted for the target that names it, and noted for itself with that target (`Notes`).
Counts and notes keep in step from entry to entry (`Notes.Of.add`). Then the targets come in rounds,
one in each: the first of the queue is taken, the targets that are noted for it count down, and
those that count nothing more go to the end of the queue.

At every point every selected target counts its selected dependencies that have not come, as often
as it names them. So nothing is counted below zero, no target is queued twice, and the rounds end
after as many as there are selected targets at most (`rounds_keep_counts`).
-/

namespace Rollout.Plan

/-- What is noted before the first target comes: how many dependencies each target counts, and
which targets name a dependency, each as often as it names it. -/
structure Notes where
  counts : Listing Nat
  dependents : Listing (List String)

namespace Notes

/-- Nothing is counted for any target and no target is noted for any. -/
def blank (members : List String) : Notes :=
  ⟨.ofList (members.map (·, 0)), .ofList (members.map (·, []))⟩

/-- A dependency of a target is counted for it and noted for the dependency, unless the dependency
is none of the targets. -/
def add (target : String) (notes : Notes) (d : String) : Notes :=
  match notes.dependents.get? d with
  | none => notes
  | some names =>
    ⟨notes.counts.put target ((notes.counts.get? target).getD 0 + 1),
      notes.dependents.put d (names ++ [target])⟩

/-- The targets that are noted for a dependency. -/
def dependentsOf (notes : Notes) (d : String) : List String :=
  (notes.dependents.get? d).getD []

end Notes

/-- The notes on targets and their dependencies, added to others; a name that is no target of the
plan is an error. -/
def noteAll (p : Plan) (notes : Notes) : List String → Except PlanError Notes
  | [] => .ok notes
  | name :: r =>
    if p.has name then noteAll p ((p.dependencies name).foldl (Notes.add name) notes) r
    else .error (.unknownTarget name)

/-- The notes on selected targets, which are gone through in any order, each once. -/
def notesOf (p : Plan) (v : Shuffles) (selected : List String) : Except PlanError Notes :=
  let members := v.edges.apply selected.dedup
  p.noteAll (.blank members) members

/-- The targets that count nothing stand in the queue in the order of the plan. -/
def startOf (p : Plan) (v : Shuffles) (notes : Notes) : Counting :=
  ⟨p.placed ((v.counts.apply notes.counts.names).filter fun t => notes.counts.get? t = some 0), [],
    notes.counts⟩

/-- A round: the first target of the queue comes, and at its end those are put that count nothing
more. There is no result if a count would fall below zero. -/
def round (p : Plan) (notes : Notes) : Counting → Option Counting
  | ⟨[], came, counts⟩ => some ⟨[], came, counts⟩
  | ⟨name :: queue, came, counts⟩ =>
    (lower (notes.dependentsOf name) counts).map fun (freed, counts) =>
      ⟨queue ++ p.placed freed, name :: came, counts⟩

/-- A number of rounds from the beginning. -/
def rounds (p : Plan) (v : Shuffles) (notes : Notes) : Nat → Option Counting
  | 0 => some (p.startOf v notes)
  | k + 1 => (p.rounds v notes k).bind (p.round notes)

variable {p : Plan} {members visited selected : List String} {v : Shuffles} {notes : Notes}

/-! ## Counts and notes keep in step -/

theorem degree_concat (edges : List (String × String)) (d t n : String) :
    degree (edges ++ [(d, t)]) n = degree edges n + if t = n then 1 else 0 := by
  simp [degree, List.countP_singleton]

theorem dependents_concat (edges : List (String × String)) (d t n : String) :
    dependents (edges ++ [(d, t)]) n = dependents edges n ++ if d = n then [t] else [] := by
  by_cases h : d = n <;> simp [dependents, h]

/-- The same value for every target. -/
theorem listing_const {α : Type} (hn : members.Nodup) (a : α) :
    (Listing.ofList (members.map (·, a))).names = members ∧ ∀ t,
      (Listing.ofList (members.map (·, a))).get? t = if t ∈ members then some a else none := by
  have hentries : (Listing.ofList (members.map (·, a))).entries = members.map (·, a) :=
    Listing.entries_ofList (by simpa [Function.comp_def] using hn)
  have hnames : (Listing.ofList (members.map (·, a))).names = members := by
    simp [Listing.names, hentries, Function.comp_def]
  refine ⟨hnames, fun t => ?_⟩
  split
  · next ht =>
    rw [Listing.get?_eq_some_iff, hentries]
    exact List.mem_map.2 ⟨t, ht, rfl⟩
  · next ht => rwa [← Option.not_isSome_iff_eq_none, Listing.isSome_get?, hnames]

/-- The notes are those on some dependencies among targets, each with the target that names it. -/
structure Notes.Of (members : List String) (edges : List (String × String)) (notes : Notes) :
    Prop where
  names : notes.counts.names = members
  counts : ∀ t ∈ members, notes.counts.get? t = some (degree edges t)
  dependents : ∀ d, notes.dependents.get? d =
    if d ∈ members then some (Plan.dependents edges d) else none

namespace Notes.Of

variable {edges : List (String × String)}

/-- Nothing is noted at first. -/
theorem blank (hn : members.Nodup) : (Notes.blank members).Of members [] where
  names := (listing_const hn 0).1
  counts t ht := ((listing_const hn 0).2 t).trans (if_pos ht)
  dependents d := (listing_const hn []).2 d

/-- A dependency on one of the targets is counted and noted with the others. -/
theorem add {target : String} (ht : target ∈ members) (h : notes.Of members edges) (d : String) :
    (notes.add target d).Of members
      (edges ++ ([d].filter (· ∈ members)).map fun d => (d, target)) := by
  unfold Notes.add
  rw [h.dependents]
  by_cases hd : d ∈ members
  · have hnames : target ∈ notes.counts.names := h.names ▸ ht
    simp only [hd, if_true, List.filter_cons_of_pos, List.filter_nil, List.map_cons, List.map_nil,
      decide_true]
    refine ⟨(Listing.names_put_of_mem hnames _).trans h.names, fun t htm => ?_, fun n => ?_⟩
    · rw [Listing.get?_put, degree_concat, h.counts target ht]
      split
      · next heq => rw [← heq, Option.getD_some]
      · rw [h.counts t htm, Nat.add_zero]
    · rw [Listing.get?_put, dependents_concat]
      split
      · next heq => rw [← heq, if_pos hd]
      · rw [h.dependents, List.append_nil]
  · simp only [hd, if_false, List.filter_cons_of_neg, List.filter_nil, List.map_nil,
      List.append_nil, decide_false, Bool.false_eq_true, not_false_eq_true]
    exact h

/-- All dependencies of a target are counted and noted with the others. -/
theorem addAll {target : String} (ht : target ∈ members) (deps : List String)
    (h : notes.Of members edges) :
    (deps.foldl (Notes.add target) notes).Of members
      (edges ++ (deps.filter (· ∈ members)).map fun d => (d, target)) := by
  induction deps generalizing notes edges with
  | nil => simpa using h
  | cons d r ih =>
    have hr := ih (h.add ht d)
    rw [List.append_assoc, ← List.map_append, ← List.filter_append] at hr
    exact hr

/-- The notes on targets and their dependencies, added to others. -/
theorem noteAll {l : List String} (hl : l ⊆ members) {notes' : Notes}
    (h : notes.Of members edges) (hall : p.noteAll notes l = .ok notes') :
    notes'.Of members (edges ++ l.flatMap fun t =>
      ((p.dependencies t).filter (· ∈ members)).map fun d => (d, t)) := by
  induction l generalizing notes edges with
  | nil =>
    cases hall
    simpa using h
  | cons t r ih =>
    obtain ⟨ht, hr⟩ := List.cons_subset.1 hl
    rw [Plan.noteAll] at hall
    split at hall
    · have hrest := ih hr (h.addAll ht (p.dependencies t)) hall
      rw [List.append_assoc] at hrest
      exact hrest
    · cases hall

end Notes.Of

/-- Targets of the plan are noted, and the first name that is none is refused. -/
theorem noteAll_cases (p : Plan) (notes : Notes) (l : List String) :
    ((∃ notes', p.noteAll notes l = .ok notes') ∧ ∀ n ∈ l, p.has n = true) ∨
      ∃ n, First (p.has · = true) l n ∧ p.noteAll notes l = .error (.unknownTarget n) := by
  induction l generalizing notes with
  | nil => exact .inl ⟨⟨notes, rfl⟩, nofun⟩
  | cons n r ih =>
    rw [noteAll]
    cases hn : p.has n with
    | false => exact .inr ⟨n, .here (by simp [hn]), rfl⟩
    | true => exact First.outcome_cons hn (ih ((p.dependencies n).foldl (Notes.add n) notes))

/-! ## A round keeps the counts -/

/-- Whatever was queued stays in its place behind what was queued before, be it still in the queue
or not. -/
theorem isPrefix_of_round {c c' : Counting} (h : p.round notes c = some c') :
    c.came.reverse ++ c.queue <+: c'.came.reverse ++ c'.queue := by
  obtain ⟨queue, came, counts⟩ := c
  cases queue with
  | nil =>
    cases h
    exact List.prefix_rfl
  | cons name queue =>
    obtain ⟨⟨freed, counts'⟩, -, rfl⟩ := Option.map_eq_some_iff.1 h
    exact ⟨p.placed freed, by simp⟩

/-- The targets that have come stay. -/
theorem length_came_le (p : Plan) (s : Sorting) : s.came.length ≤ (p.sort s).came.length := by
  fun_induction Plan.sort p s with
  | case1 => exact Nat.le_refl _
  | case2 _ _ _ _ _ ih => exact Nat.le_of_succ_le ih

/-- An ordering has ended if and only if no more targets come. -/
theorem ready_eq_nil_iff (p : Plan) (s : Sorting) :
    s.ready = [] ↔ (p.sort s).came.length ≤ s.came.length := by
  obtain ⟨ready, came, waiting⟩ := s
  cases ready with
  | nil => simp [Plan.sort]
  | cons name ready =>
    rw [Plan.sort]
    refine iff_of_false (List.cons_ne_nil _ _)
      (Nat.not_le.2 (Nat.lt_of_lt_of_le ?_ (p.length_came_le _)))
    exact Nat.lt_succ_self came.length

section Rounds

variable (hp : visited.Perm members) (hn : members.Nodup)
  (hnotes : notes.Of visited (p.edges visited))

include hp hn hnotes

/-- A round lets the first of the ready targets come, as the ordering does. -/
theorem round_of_tracks {c : Counting} {name : String}
    {ready came : List String} {waiting : List (String × Nat)}
    (h : c.Tracks p members ⟨name :: ready, came, waiting⟩) :
    ∃ c', p.round notes c = some c' ∧
      c'.Tracks p members
        ⟨ready ++ ((p.relieve name waiting).filter isFree).map Prod.fst, name :: came,
          (p.relieve name waiting).filter (!isFree ·)⟩ := by
  obtain ⟨freed, counts', hlower, hstep⟩ := h.step hp hn
  have hname : name ∈ visited := hp.mem_iff.2 (h.valid.ready_fresh hn).1
  have hdependents : notes.dependentsOf name = dependents (p.edges visited) name := by
    rw [Notes.dependentsOf, hnotes.dependents, if_pos hname, Option.getD_some]
  refine ⟨_, ?_, hstep⟩
  rw [h.eq, round, hdependents, hlower, Option.map_some]

/-- At first the queue holds the targets that the ordering starts with. -/
theorem tracks_startOf (hm : members.Sublist p.names) :
    (p.startOf v notes).Tracks p members (p.sortingOf members) := by
  refine ⟨.sortingOf p members, .sortingOf hm, ?_, rfl, counts_start hp hn hnotes.counts⟩
  have hnames : (v.counts.apply notes.counts.names).Perm visited :=
    hnotes.names ▸ v.counts.perm _
  have hfree : ∀ t ∈ v.counts.apply notes.counts.names,
      decide (notes.counts.get? t = some 0) = decide (degree (p.edges visited) t = 0) :=
    fun t ht => by simp only [hnotes.counts t (hnames.mem_iff.1 ht), Option.some.injEq]
  rw [startOf, List.filter_congr hfree]
  exact placed_eq ((sublist_counted p members isFree).trans hm) (perm_ready hp hn hnames)

/-- The rounds keep in step with the ordering, and in each of them a target comes until the queue is
empty. -/
theorem exists_rounds (hm : members.Sublist p.names) (k : Nat) :
    ∃ c s, p.rounds v notes k = some c ∧ c.Tracks p members s ∧
      p.sort s = p.sort (p.sortingOf members) ∧
      (c.came.length = k ∨ c.queue = [] ∧ c.came.length ≤ k) := by
  induction k with
  | zero => exact ⟨_, _, rfl, tracks_startOf hp hn hnotes hm, rfl, .inl rfl⟩
  | succ k ih =>
    obtain ⟨c, s, hc, htracks, hsort, hlength⟩ := ih
    rw [rounds, hc, Option.bind_some]
    obtain ⟨ready, came, waiting⟩ := s
    cases ready with
    | nil =>
      -- nothing is ready, so the round changes nothing
      refine ⟨c, _, ?_, htracks, hsort, .inr ⟨htracks.queue, ?_⟩⟩
      · rw [htracks.eq, round]
      · omega
    | cons name ready =>
      have hk : c.came.length = k := hlength.resolve_right fun h => by
        cases htracks.queue.symm.trans h.1
      obtain ⟨c', hround, hstep⟩ := round_of_tracks hp hn hnotes htracks
      refine ⟨c', _, hround, hstep, ?_, .inl ?_⟩
      · rw [← hsort, Plan.sort]
      · rw [hstep.came, List.length_cons, ← hk, htracks.came]

/-- Until the ordering ends the counts stay true, and nothing is queued twice. -/
theorem exists_last_round (hm : members.Sublist p.names) :
    ∃ n ≤ members.length,
      (∀ k, ∃ c, p.rounds v notes k = some c ∧ Counts p members c.came c.counts ∧
        (c.came.reverse ++ c.queue).Nodup ∧ (c.queue = [] ↔ n ≤ k)) ∧
      ∀ c, p.rounds v notes n = some c → c.came = (p.sort (p.sortingOf members)).came := by
  have hrounds := exists_rounds (v := v) hp hn hnotes hm
  obtain ⟨hv, hr⟩ := (Sorting.Valid.sortingOf p members).sort hn
  generalize p.sort (p.sortingOf members) = ended at hv hr hrounds ⊢
  have hle : ended.came.length ≤ members.length := by
    have hlength := hv.parts.length_eq
    rw [List.length_append] at hlength
    omega
  have hempty {c : Counting} {s : Sorting} {k : Nat} (ht : c.Tracks p members s)
      (hsort : p.sort s = ended) (hk : c.came.length = k ∨ c.queue = [] ∧ c.came.length ≤ k) :
      c.queue = [] ↔ ended.came.length ≤ k := by
    have hready := ready_eq_nil_iff p s
    rw [hsort, ← ht.queue, ← ht.came] at hready
    rcases hk with rfl | ⟨hq, hk⟩
    · exact hready
    · exact iff_of_true hq (Nat.le_trans (hready.1 hq) hk)
  refine ⟨ended.came.length, hle, fun k => ?_, fun c hc => ?_⟩
  · obtain ⟨c, s, hc, ht, hsort, hk⟩ := hrounds k
    refine ⟨c, hc, ht.came ▸ ht.counts, ?_, hempty ht hsort hk⟩
    have hall : (s.came ++ (s.ready ++ s.waiting.map Prod.fst)).Nodup :=
      ht.valid.parts.nodup_iff.2 hn
    rw [← List.append_assoc] at hall
    rw [ht.came, ht.queue, ((List.reverse_perm s.came).append_right s.ready).nodup_iff]
    exact (List.nodup_append.1 hall).1
  · obtain ⟨c', s, hc', ht, hsort, hk⟩ := hrounds ended.came.length
    cases hc.symm.trans hc'
    -- nothing is ready any more, so the ordering has ended with this state
    have hnil : s.ready = [] := ht.queue ▸ (hempty ht hsort hk).2 (Nat.le_refl _)
    obtain ⟨ready, came, waiting⟩ := s
    cases hnil
    rw [ht.came, ← hsort, Plan.sort]

end Rounds

/-- An order of execution holds the targets that came, if they are all. -/
theorem order_eq_ok_iff_came (hs : ∀ name ∈ selected, p.has name = true) {came order : List String}
    (hcame : came = (p.sort (p.sortingOf (p.names.filter (· ∈ selected)))).came) :
    p.order selected = .ok order ↔
      came.length = (p.names.filter (· ∈ selected)).length ∧ came.reverse = order := by
  have hn : (p.names.filter (· ∈ selected)).Nodup := p.nodup_names.filter _
  have horder := order_of_has hs rfl
  obtain ⟨hv, hr⟩ := (Sorting.Valid.sortingOf p (p.names.filter (· ∈ selected))).sort hn
  generalize p.sort (p.sortingOf (p.names.filter (· ∈ selected))) = ended at *
  have hlength := hv.parts.length_eq
  rw [hr, List.nil_append, List.length_append] at hlength
  subst hcame
  rw [horder]
  split
  · next hw =>
    rw [hw] at hlength
    simp [← hlength]
  · next hw =>
    have hpos := List.length_pos_of_ne_nil hw
    simp
    omega

/-- The counts stay true through all rounds of the ordering. There are rounds if and only if the
selected names are targets. At every point each selected target counts its dependencies that are
selected and have not come, as often as it names them, and no round fails by counting below zero.
What was ever queued, the targets that came and then the queue, grows at its end only and holds no
target twice. The queue is empty after a number of rounds that is no larger than that of the
selected targets, not before and ever after; and the targets have come by then in their order of
execution, if there is one. -/
theorem rounds_keep_counts (p : Plan) (v : Shuffles) (selected : List String) :
    ((∃ notes, p.notesOf v selected = .ok notes) ↔ ∀ name ∈ selected, p.has name = true) ∧
    ∀ notes, p.notesOf v selected = .ok notes → ∃ n ≤ selected.dedup.length,
      (∀ k, ∃ c, p.rounds v notes k = some c ∧
        (∀ t ∈ selected, c.counts.get? t =
          some ((p.dependencies t).countP fun d => d ∈ selected ∧ d ∉ c.came)) ∧
        (c.came.reverse ++ c.queue).Nodup ∧
        (∀ c', p.rounds v notes (k + 1) = some c' →
          c.came.reverse ++ c.queue <+: c'.came.reverse ++ c'.queue) ∧
        (c.queue = [] ↔ n ≤ k)) ∧
      ∀ c, p.rounds v notes n = some c → ∀ order,
        p.order selected = .ok order ↔
          c.came.length = selected.dedup.length ∧ c.came.reverse = order := by
  have hok : (∃ notes, p.notesOf v selected = .ok notes) ↔
      ∀ name ∈ selected, p.has name = true := by
    rw [notesOf, First.exists_ok_iff (noteAll_cases p _ _)]
    exact forall_congr' fun n => by rw [(v.edges.perm _).mem_iff, List.mem_dedup]
  refine ⟨hok, fun notes h => ?_⟩
  have hs := hok.1 ⟨notes, h⟩
  have hp := perm_selected hs v.edges
  have hn : (p.names.filter (· ∈ selected)).Nodup := p.nodup_names.filter _
  have hnotes := (Notes.Of.blank (hp.nodup_iff.2 hn)).noteAll (List.Subset.refl _) h
  obtain ⟨n, hle, hrounds, hlast⟩ := exists_last_round (v := v) hp hn hnotes List.filter_sublist
  have hlength : (p.names.filter (· ∈ selected)).length = selected.dedup.length :=
    hp.symm.length_eq.trans (v.edges.perm _).length_eq
  rw [← hlength]
  refine ⟨n, hle, fun k => ?_, fun c hc order => order_eq_ok_iff_came hs (hlast c hc)⟩
  obtain ⟨c, hc, hcounts, hnodup, hempty⟩ := hrounds k
  refine ⟨c, hc, fun t ht => ?_, hnodup, fun c' hc' => ?_, hempty⟩
  · have hmem (d : String) : d ∈ p.names.filter (· ∈ selected) ↔ d ∈ selected :=
      mem_filter_names_iff hs
    rw [hcounts t ((hmem t).2 ht)]
    simp only [hmem]
  · rw [rounds, hc, Option.bind_some] at hc'
    exact isPrefix_of_round hc'

/-- Targets of which one depends on itself, with dependencies that are named twice. -/
def Sample.knotted : Plan :=
  ⟨.ofList
    [("top", ⟨["middle", "side", "middle"], []⟩), ("side", ⟨["ground"], []⟩),
      ("middle", ⟨["ground", "outside", "ground"], []⟩), ("ground", ⟨[], []⟩),
      ("knot", ⟨["ground", "knot", "ground"], []⟩), ("outside", ⟨["ground"], []⟩)]⟩

/-- The notes on all targets of the sample but one. -/
def Sample.knots : Notes where
  counts := .ofList [("ground", 0), ("side", 1), ("middle", 2), ("knot", 3), ("top", 3)]
  dependents := .ofList
    [("ground", ["side", "middle", "middle", "knot", "knot"]), ("side", ["top"]),
      ("middle", ["top", "top"]), ("knot", ["knot"]), ("top", [])]

/-- In the sample the target that depends on itself counts itself when the ground has come, and the
rounds end without it. -/
theorem rounds_keep_counts_sample :
    Sample.knotted.notesOf Sample.backward ["top", "ground", "knot", "middle", "side", "ground"] =
      .ok Sample.knots ∧
    ∃ c, Sample.knotted.rounds Sample.backward Sample.knots 1 = some c ∧
      c.came = ["ground"] ∧ c.queue = ["side", "middle"] ∧ c.counts.get? "knot" = some 1 ∧
      ∃ n ≤ 5, ∀ k, ∃ c, Sample.knotted.rounds Sample.backward Sample.knots k = some c ∧
        (c.queue = [] ↔ n ≤ k) := by
  have h : Sample.knotted.notesOf Sample.backward
      ["top", "ground", "knot", "middle", "side", "ground"] = .ok Sample.knots := by rfl
  have hround : Sample.knotted.rounds Sample.backward Sample.knots 1 =
      some ⟨["side", "middle"], ["ground"], .ofList
        [("ground", 0), ("side", 0), ("middle", 0), ("knot", 1), ("top", 3)]⟩ := by cbv
  obtain ⟨n, hle, hrounds, -⟩ := (rounds_keep_counts _ _ _).2 _ h
  obtain ⟨c, hc, hcounts, -⟩ := hrounds 1
  cases hround.symm.trans hc
  refine ⟨h, _, hround, rfl, rfl, hcounts "knot" (by decide), n, hle, fun k => ?_⟩
  obtain ⟨c, hc, -, -, -, hempty⟩ := hrounds k
  exact ⟨c, hc, hempty⟩

end Rollout.Plan
