import Mathlib.Data.List.Forall2
import Rollout.Yaml.Reading

/-!
# What readers accept

A document by itself says what a node stands for, which entries or items it has and which word a key
is (`standsFor?`, `entriesOf`, `itemsOf`, `word?`), whatever a reader has read before. A reader that
accepts a node (`Accepts`) accepts what it reads of it: a list its items (`accepts_items`), a
listing its values (`accepts_listing`), and a record the values of its fields, where every key names
a field and no field is given twice (`given_of_record`).
-/

namespace Rollout.Yaml

/-- A reader that goes on after another one yields something only if both do. -/
theorem Read.ok_of_bind {α β : Type} {x : Read α} {f : α → Read β} {s : Nat} {r : β × Nat}
    (h : (x >>= f) s = .ok r) : ∃ a s', x s = .ok (a, s') ∧ f a s' = .ok r := by
  change (x s >>= fun p => f p.1 p.2) = .ok r at h
  cases hx : x s with
  | error c => rw [hx] at h; cases h
  | ok p => exact ⟨p.1, p.2, rfl, by rwa [hx] at h⟩

namespace Document

variable {α : Type} {d : Document}

/-- The node that a node stands for: an alias for the node that it refers to, any other node for
itself. -/
def standsFor? (d : Document) : Node → Option Node
  | .alias number => d.anchored.lookup number
  | n => some n

/-- The word that a scalar is, as written. -/
def word? (d : Document) (n : Node) : Option String :=
  match d.standsFor? n with
  | some (.scalar _ text _) => some text
  | _ => none

/-- The entries of a mapping; other nodes have none. -/
def entriesOf (d : Document) (n : Node) : List (Node × Node) :=
  match d.standsFor? n with
  | some (.mapping _ es) => es
  | _ => []

/-- The items of a sequence; other nodes have none. -/
def itemsOf (d : Document) (n : Node) : List Node :=
  match d.standsFor? n with
  | some (.sequence _ nodes) => nodes
  | _ => []

/-- A reader yields something for a node after some number of aliases. -/
def Accepts (read : Node → Read α) (n : Node) : Prop :=
  ∃ followed r, read n followed = .ok r

/-- A reader finds the node that a node stands for. -/
theorem standsFor?_of_target {n n' : Node} {s s' : Nat} (h : d.target n s = .ok (n', s')) :
    d.standsFor? n = some n' := by
  match n, h with
  | .alias number, h =>
    simp only [target] at h
    split at h
    · cases h
    · split at h
      all_goals first | cases h; assumption | cases h
  | .scalar .., h => cases h; rfl
  | .sequence .., h => cases h; rfl
  | .mapping .., h => cases h; rfl

theorem word?_of_text {n : Node} {w : String} {s s' : Nat} (h : d.text n s = .ok (w, s')) :
    d.word? n = some w := by
  obtain ⟨n', s₁, ht, h⟩ := Read.ok_of_bind h
  rw [word?, standsFor?_of_target ht]
  cases n' <;> cases h
  rfl

theorem entriesOf_of_entries {n : Node} {es : List (Node × Node)} {s s' : Nat}
    (h : d.entries n s = .ok (es, s')) : d.entriesOf n = es := by
  obtain ⟨n', s₁, ht, h⟩ := Read.ok_of_bind h
  rw [entriesOf, standsFor?_of_target ht]
  match n', h with
  | .mapping .., h => cases h; rfl
  | .scalar tag text plain, h =>
    -- an empty scalar has no entries, and any other one is refused
    simp only at h
    split at h <;> cases h
    rfl
  | .sequence .., h => cases h

/-- A reader of a scalar finds what it is resolved as. -/
theorem resolve_of_scalar {tag : Option String} {text : String} {plain : Bool} {v : Scalar}
    {s s' : Nat} (h : scalar tag text plain s = .ok (v, s')) :
    Scalar.resolve tag text plain = some v := by
  rw [scalar] at h
  cases hv : Scalar.resolve tag text plain with
  | none => rw [hv] at h; cases h
  | some v' => rw [hv] at h; cases h; rfl

/-- A reader that is applied to nodes one after the other accepts each of them. -/
theorem accepts_of_mapM {read : Node → Read α} {nodes : List Node} {s : Nat} {r : List α × Nat}
    (h : nodes.mapM read s = .ok r) : ∀ x ∈ nodes, Accepts read x := by
  induction nodes generalizing s r with
  | nil => simp
  | cons n more ih =>
    rw [List.mapM_cons] at h
    obtain ⟨a, s₁, ha, h⟩ := Read.ok_of_bind h
    obtain ⟨as, s₂, has, -⟩ := Read.ok_of_bind h
    intro x hx
    rcases List.mem_cons.1 hx with rfl | hx
    · exact ⟨s, _, ha⟩
    · exact ih has x hx

/-- A reader of a list accepts its items. -/
theorem accepts_items {depth : Nat} {read : Nat → Node → Read α} {n : Node}
    (h : Accepts (d.items depth read) n) :
    ∀ x ∈ d.itemsOf n, ∃ depth', Accepts (read depth') x := by
  obtain ⟨s, r, h⟩ := h
  obtain ⟨n', s₁, ht, h⟩ := Read.ok_of_bind h
  rw [itemsOf, standsFor?_of_target ht]
  match n', depth, h with
  | .sequence tag nodes, depth + 1, h => exact fun x hx => ⟨depth, accepts_of_mapM h x hx⟩
  | .sequence _ _, 0, h => cases h
  | .scalar .., _, _ => simp
  | .mapping .., _, _ => simp
  | .alias _, _, _ => simp
  | .broken, _, _ => simp

/-- A reader of entries onto a listing accepts their values. -/
theorem accepts_of_listEntries {read : Node → Read α} {es : List (Node × Node)} {l : Listing α}
    {s : Nat} {r : Listing α × Nat} (h : listEntries d read es l s = .ok r) :
    ∀ e ∈ es, Accepts read e.2 := by
  induction es generalizing l s r with
  | nil => simp
  | cons e more ih =>
    obtain ⟨name, s₁, -, h⟩ := Read.ok_of_bind h
    obtain ⟨a, s₂, ha, h⟩ := Read.ok_of_bind h
    intro x hx
    rcases List.mem_cons.1 hx with rfl | hx
    · exact ⟨s₁, _, ha⟩
    · exact ih h x hx

/-- A reader of a listing accepts its values. -/
theorem accepts_listing {depth : Nat} {read : Nat → Node → Read α} {n : Node}
    (h : Accepts (d.listing depth read) n) :
    ∀ e ∈ d.entriesOf n, ∃ depth', Accepts (read depth') e.2 := by
  obtain ⟨s, r, h⟩ := h
  obtain ⟨es, s₁, hes, h⟩ := Read.ok_of_bind h
  rw [entriesOf_of_entries hes]
  cases es with
  | nil => simp
  | cons e more =>
    cases depth with
    | zero => cases h
    | succ depth => exact fun x hx => ⟨depth, accepts_of_listEntries h x hx⟩

/-- An entry gives a field of a record: its key is a name of the field, and the reader of the field
accepts its value. -/
def Gives {σ : Type} (d : Document) (fields : List (RecordField σ)) (e : Node × Node)
    (f : RecordField σ) : Prop :=
  ((d.word? e.1).bind fun w => fields.find? (·.goesBy w)) = some f ∧
    ∃ s, Accepts (fun n => f.read n s) e.2

/-- A reader of the entries of a record accepts those that give its fields, none of them twice and
none that was given before. -/
theorem given_of_recordEntries {σ : Type} {fields : List (RecordField σ)} {es : List (Node × Node)}
    {before : List String} {a : σ} {s : Nat} {r : σ × Nat}
    (h : d.recordEntries fields es before a s = .ok r) :
    ∃ given, List.Forall₂ (d.Gives fields) es given ∧ (given.map (·.name)).Nodup ∧
      ∀ f ∈ given, f.name ∉ before := by
  induction es generalizing before a s r with
  | nil => exact ⟨[], .nil, by simp, by simp⟩
  | cons e more ih =>
    obtain ⟨w, s₁, hw, h⟩ := Read.ok_of_bind h
    cases hf : fields.find? (·.goesBy w) with
    | none => simp only [hf] at h; cases h
    | some f =>
      by_cases hfresh : f.name ∈ before
      · simp only [hf, List.contains_iff_mem.2 hfresh, if_true] at h
        cases h
      · have hnew : before.contains f.name = false := by simpa using hfresh
        simp only [hf, hnew, Bool.false_eq_true, if_false] at h
        obtain ⟨a', s₂, ha, h⟩ := Read.ok_of_bind h
        obtain ⟨given, hgiven, hnodup, hbefore⟩ := ih h
        refine ⟨f :: given, .cons ⟨?_, a, s₁, _, ha⟩ hgiven, ?_, fun g hg => ?_⟩
        · rw [word?_of_text hw, Option.bind_some, hf]
        · refine List.nodup_cons.2 ⟨fun hm => ?_, hnodup⟩
          obtain ⟨g, hg, he⟩ := List.mem_map.1 hm
          exact hbefore g hg (he ▸ List.mem_cons_self)
        · rcases List.mem_cons.1 hg with rfl | hg
          · exact hfresh
          · exact fun hm => hbefore g hg (List.mem_cons_of_mem _ hm)

/-- A reader of a record accepts entries that give its fields, none of them twice. -/
theorem given_of_record {σ : Type} {depth : Nat} {fields : Nat → List (RecordField σ)} {empty : σ}
    {n : Node} (h : Accepts (d.record depth fields empty) n) :
    ∃ depth' given, List.Forall₂ (d.Gives (fields depth')) (d.entriesOf n) given ∧
      (given.map (·.name)).Nodup := by
  obtain ⟨s, r, h⟩ := h
  obtain ⟨es, s₁, hes, h⟩ := Read.ok_of_bind h
  rw [entriesOf_of_entries hes]
  cases es with
  | nil => exact ⟨0, [], .nil, by simp⟩
  | cons e more =>
    cases depth with
    | zero => cases h
    | succ depth =>
      obtain ⟨given, hgiven, hnodup, -⟩ := given_of_recordEntries h
      exact ⟨depth, given, hgiven, hnodup⟩

/-- A reader of a record accepts the value of an entry as that of the field that its key names. -/
theorem accepts_of_record {σ : Type} {depth : Nat} {fields : Nat → List (RecordField σ)}
    {empty : σ} {n : Node} (h : Accepts (d.record depth fields empty) n) {e : Node × Node}
    (he : e ∈ d.entriesOf n) : ∃ depth' f, d.Gives (fields depth') e f := by
  obtain ⟨depth', given, hgiven, -⟩ := given_of_record h
  generalize d.entriesOf n = es at he hgiven
  induction hgiven with
  | nil => cases he
  | cons hf _ ih =>
    rcases List.mem_cons.1 he with rfl | he
    · exact ⟨depth', _, hf⟩
    · exact ih he

end Document

end Rollout.Yaml
