import Mathlib.Data.List.Basic

/-!
# The first that fails

The first member of a list that does not have a property. A search that stops at it goes past
members that all have the property, so it fails in a list put together of two exactly where it fails
in the first of them, or else in the second. A computation that goes through a list and stops at the
first such member is described by one disjunction, from which it can be read when it comes to a
result (`First.exists_ok_iff`) and for whom it fails (`First.eq_error_iff`).
-/

namespace Rollout

variable {α : Type*} {P Q : α → Prop} {l r : List α} {a b : α}

/-- `First P l a` says that `a` is the first member of `l` that does not have the property `P`. -/
inductive First (P : α → Prop) : List α → α → Prop
  | here {a : α} {r : List α} (h : ¬ P a) : First P (a :: r) a
  | there {a b : α} {r : List α} (h : P a) (hr : First P r b) : First P (a :: r) b

namespace First

theorem not_nil : ¬ First P [] a :=
  nofun

/-- The first that fails is the one in front, or else the first of those behind it. -/
theorem cons_iff : First P (a :: r) b ↔ ¬ P a ∧ b = a ∨ P a ∧ First P r b := by
  constructor
  · intro h
    cases h with
    | here h => exact .inl ⟨h, rfl⟩
    | there h hr => exact .inr ⟨h, hr⟩
  · rintro (⟨h, rfl⟩ | ⟨h, hr⟩)
    · exact .here h
    · exact .there h hr

/-- The first that fails is a member of the list. -/
theorem mem (h : First P l a) : a ∈ l := by
  induction h with
  | here _ => exact List.mem_cons_self
  | there _ _ ih => exact List.mem_cons_of_mem _ ih

/-- The first that fails does not have the property. -/
theorem not_of (h : First P l a) : ¬ P a := by
  induction h with
  | here h => exact h
  | there _ _ ih => exact ih

/-- There is no first member that fails where all have the property. -/
theorem not_forall (h : First P l a) : ¬ ∀ x ∈ l, P x :=
  fun hall => h.not_of (hall a h.mem)

/-- Only one member is the first that fails. -/
theorem unique (ha : First P l a) (hb : First P l b) : a = b := by
  induction ha with
  | here h =>
    cases hb with
    | here _ => rfl
    | there h' _ => exact absurd h' h
  | there h _ ih =>
    cases hb with
    | here h' => exact absurd h h'
    | there _ hr => exact ih hr

/-- What stands behind the first that fails does not matter. -/
theorem append_left (h : First P l a) (r : List α) : First P (l ++ r) a := by
  induction h with
  | here h => exact .here h
  | there h _ ih => exact .there h ih

/-- Members that have the property may stand in front of the first that fails. -/
theorem append_right (hl : ∀ x ∈ l, P x) (h : First P r a) : First P (l ++ r) a := by
  induction l with
  | nil => exact h
  | cons x l ih =>
    obtain ⟨hx, hl⟩ := List.forall_mem_cons.1 hl
    exact .there hx (ih hl)

/-- Properties that agree on a list fail first at the same member. -/
theorem congr (hPQ : ∀ x ∈ l, P x ↔ Q x) (h : First P l a) : First Q l a := by
  induction h with
  | here h => exact .here fun hQ => h ((hPQ _ List.mem_cons_self).2 hQ)
  | there h _ ih =>
    obtain ⟨hx, hr⟩ := List.forall_mem_cons.1 hPQ
    exact .there (hx.1 h) (ih hr)

/-- A search for a member that fails finds the first one. -/
theorem find?_eq_some {q : α → Bool} (h : First (q · = true) l a) : l.find? (!q ·) = some a := by
  induction h with
  | here h => exact List.find?_cons_of_pos (by simpa using h)
  | there h _ ih => exact (List.find?_cons_of_neg (by simpa using h)).trans ih

/-- Either all members have a property, or there is a first one that does not. -/
theorem forall_or_exists (P : α → Prop) (l : List α) : (∀ x ∈ l, P x) ∨ ∃ a, First P l a := by
  induction l with
  | nil => exact .inl fun _ h => absurd h List.not_mem_nil
  | cons x r ih =>
    by_cases hx : P x
    · rcases ih with hr | ⟨a, ha⟩
      · exact .inl (List.forall_mem_cons.2 ⟨hx, hr⟩)
      · exact .inr ⟨a, .there hx ha⟩
    · exact .inr ⟨x, .here hx⟩

section Outcome

/-- Whatever holds when all members have a property, or else of the first that does not, is the same
for a list with one more member in front that has it. -/
theorem outcome_cons {A : Prop} {C : α → Prop} (ha : P a)
    (h : (A ∧ ∀ x ∈ r, P x) ∨ ∃ x, First P r x ∧ C x) :
    (A ∧ ∀ x ∈ a :: r, P x) ∨ ∃ x, First P (a :: r) x ∧ C x := by
  rcases h with ⟨hA, hall⟩ | ⟨x, hx, hC⟩
  · exact .inl ⟨hA, List.forall_mem_cons.2 ⟨ha, hall⟩⟩
  · exact .inr ⟨x, .there ha hx, hC⟩

variable {ε β : Type*} {x : Except ε β} {f : α → ε}

/-- A result that is there if all members have a property, and otherwise fails for the first that
does not, is there exactly if all have it. -/
theorem exists_ok_iff
    (h : ((∃ b, x = .ok b) ∧ ∀ a ∈ l, P a) ∨ ∃ a, First P l a ∧ x = .error (f a)) :
    (∃ b, x = .ok b) ↔ ∀ a ∈ l, P a := by
  rcases h with ⟨hok, hall⟩ | ⟨a, ha, he⟩
  · exact ⟨fun _ => hall, fun _ => hok⟩
  · refine ⟨fun ⟨b, hok⟩ => ?_, fun hall => absurd hall ha.not_forall⟩
    cases he.symm.trans hok

/-- And it fails exactly for the first member that does not have the property. -/
theorem eq_error_iff
    (h : ((∃ b, x = .ok b) ∧ ∀ a ∈ l, P a) ∨ ∃ a, First P l a ∧ x = .error (f a)) {e : ε} :
    x = .error e ↔ ∃ a, First P l a ∧ e = f a := by
  rcases h with ⟨⟨b, hok⟩, hall⟩ | ⟨a, ha, he⟩
  · refine ⟨fun he => ?_, fun ⟨a, ha, _⟩ => absurd hall ha.not_forall⟩
    cases hok.symm.trans he
  · refine ⟨fun he' => ⟨a, ha, ?_⟩, fun ⟨b, hb, heq⟩ => ?_⟩
    · cases he.symm.trans he'
      rfl
    · rw [heq, hb.unique ha]
      exact he

end Outcome

end First

end Rollout
