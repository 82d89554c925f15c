import Rollout.Listing

/-!
# What listings hold

A listing is determined by what is listed under each name and by the order of the names. These are
the lemmas by which the theory reads listings: membership of an entry is a look-up, and a list of
pairs with distinct names is its own listing.
-/

namespace Rollout

variable {α β : Type}

/-- A name has a value in a list of pairs if and only if some pair has the name. -/
theorem isSome_lookPair (name : String) (l : List (String × α)) :
    (lookPair name l).isSome ↔ name ∈ l.map Prod.fst := by
  induction l with
  | nil => simp [lookPair]
  | cons p r ih =>
    by_cases h : p.1 = name
    · simp [lookPair, h]
    · simp only [lookPair, h, if_false, ih, List.map_cons, List.mem_cons, Ne.symm h, false_or]

/-- Where names are distinct, the value that stands under a name is that of the pair with it. -/
theorem lookPair_eq_some_iff {l : List (String × α)} (hd : (l.map Prod.fst).Nodup) (name : String)
    (value : α) : lookPair name l = some value ↔ (name, value) ∈ l := by
  induction l with
  | nil => simp [lookPair]
  | cons p r ih =>
    obtain ⟨n, v⟩ := p
    obtain ⟨hn, hr⟩ := List.nodup_cons.1 hd
    by_cases h : n = name
    · subst h
      have : (n, value) ∉ r := fun hm => hn (List.mem_map.2 ⟨_, hm, rfl⟩)
      simp [lookPair, this, eq_comm]
    · simp [lookPair, h, ih hr, Ne.symm h]

theorem lookPair_map (f : String → α → β) (name : String) (l : List (String × α)) :
    lookPair name (l.map fun p => (p.1, f p.1 p.2)) = (lookPair name l).map (f name) := by
  induction l with
  | nil => rfl
  | cons p r ih =>
    by_cases h : p.1 = name
    · simp [lookPair, h]
    · simp [lookPair, h, ih]

/-- Putting a value under a new name appends it. -/
theorem putPair_of_notMem {name : String} {l : List (String × α)} (h : name ∉ l.map Prod.fst)
    (value : α) : putPair name value l = l ++ [(name, value)] := by
  induction l with
  | nil => rfl
  | cons p r ih =>
    simp only [List.map_cons, List.mem_cons, not_or] at h
    simp [putPair, Ne.symm h.1, ih h.2]

/-- Values may be changed before or after one is put under a name. -/
theorem map_putPair (f : String → α → β) (name : String) (value : α) (l : List (String × α)) :
    (putPair name value l).map (fun p => (p.1, f p.1 p.2)) =
      putPair name (f name value) (l.map fun p => (p.1, f p.1 p.2)) := by
  induction l with
  | nil => rfl
  | cons p r ih =>
    by_cases h : p.1 = name
    · simp [putPair, h]
    · simp [putPair, h, ih]

namespace Listing

/-- A listing is determined by its entries. -/
theorem eq_of_entries {l l' : Listing α} (h : l.entries = l'.entries) : l = l' := by
  cases l
  cases l'
  cases h
  rfl

/-- Values may be changed before or after they are listed. -/
theorem map_ofList (f : String → α → β) (pairs : List (String × α)) :
    (ofList pairs).map f = ofList (pairs.map fun p => (p.1, f p.1 p.2)) := by
  have key (l : Listing α) : (pairs.foldl (fun l p => l.put p.1 p.2) l).map f =
      (pairs.map fun p => (p.1, f p.1 p.2)).foldl (fun l p => l.put p.1 p.2) (l.map f) := by
    induction pairs generalizing l with
    | nil => rfl
    | cons p r ih =>
      have hput : (l.put p.1 p.2).map f = (l.map f).put p.1 (f p.1 p.2) :=
        eq_of_entries (map_putPair f p.1 p.2 l.entries)
      rw [List.foldl_cons, ih, hput, List.map_cons, List.foldl_cons]
  exact key empty

/-- A name is listed if and only if it has a value. -/
theorem isSome_get? (l : Listing α) (name : String) : (l.get? name).isSome ↔ name ∈ l.names :=
  isSome_lookPair name l.entries

theorem has_iff (l : Listing α) (name : String) : l.has name = true ↔ name ∈ l.names :=
  l.isSome_get? name

/-- A value stands under a name if and only if the two make an entry. -/
theorem get?_eq_some_iff (l : Listing α) (name : String) (value : α) :
    l.get? name = some value ↔ (name, value) ∈ l.entries :=
  lookPair_eq_some_iff l.distinct name value

@[simp] theorem get?_map (f : String → α → β) (l : Listing α) (name : String) :
    (l.map f).get? name = (l.get? name).map (f name) :=
  lookPair_map f name l.entries

/-- A value put under a listed name keeps the names. -/
theorem names_put_of_mem {l : Listing α} {name : String} (h : name ∈ l.names) (value : α) :
    (l.put name value).names = l.names := by
  rw [names_put, if_pos h]

/-- Pairs put after a listing whose names they do not share follow its entries. -/
theorem entries_foldl_put (pairs : List (String × α)) (l : Listing α)
    (h : (l.names ++ pairs.map Prod.fst).Nodup) :
    (pairs.foldl (fun l p => l.put p.1 p.2) l).entries = l.entries ++ pairs := by
  induction pairs generalizing l with
  | nil => simp
  | cons p r ih =>
    -- the first pair has a new name, so it is appended, and its name joins those before
    have hp : p.1 ∉ l.names := fun hm =>
      (List.nodup_append.1 h).2.2 _ hm _ (by simp) rfl
    have he : (l.put p.1 p.2).entries = l.entries ++ [p] := putPair_of_notMem hp p.2
    have hn : (l.put p.1 p.2).names = l.names ++ [p.1] := by simp [names, he]
    calc ((p :: r).foldl (fun l p => l.put p.1 p.2) l).entries
        = (l.put p.1 p.2).entries ++ r := ih _ (by simpa [hn] using h)
      _ = l.entries ++ ([p] ++ r) := by rw [he, List.append_assoc]

/-- Pairs with distinct names are the entries of their listing. -/
theorem entries_ofList {pairs : List (String × α)} (h : (pairs.map Prod.fst).Nodup) :
    (ofList pairs).entries = pairs := by
  have := entries_foldl_put pairs empty h
  simpa [ofList, empty] using this

end Listing

end Rollout
