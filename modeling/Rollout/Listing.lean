/-!
# Listings

A listing maps names to values and remembers the order in which the names first came. Putting a
value under a name that is already listed replaces the value and keeps the name's place.
-/

namespace Rollout

/-- Pairs of names and values with a value put under a name. -/
def putPair {α : Type} (name : String) (value : α) : List (String × α) → List (String × α)
  | [] => [(name, value)]
  | (n, v) :: r => if n = name then (n, value) :: r else (n, v) :: putPair name value r

/-- The first value that stands under a name. -/
def lookPair {α : Type} (name : String) : List (String × α) → Option α
  | [] => none
  | (n, v) :: r => if n = name then some v else lookPair name r

/-- A name that is put where it stands already keeps its place, and another one comes last. -/
theorem names_putPair {α : Type} (name : String) (value : α) (l : List (String × α)) :
    (putPair name value l).map Prod.fst =
      if name ∈ l.map Prod.fst then l.map Prod.fst else l.map Prod.fst ++ [name] := by
  induction l with
  | nil => simp [putPair]
  | cons p r ih =>
    by_cases h : p.1 = name
    · simp [putPair, h]
    · simp only [putPair, h, if_false, List.map_cons, ih, List.mem_cons, Ne.symm h, false_or]
      split <;> simp

/-- A name has the value that was put last under it. -/
theorem lookPair_putPair {α : Type} (name other : String) (value : α) (l : List (String × α)) :
    lookPair other (putPair name value l) =
      if name = other then some value else lookPair other l := by
  induction l with
  | nil => simp [putPair, lookPair]
  | cons p r ih =>
    obtain ⟨n, v⟩ := p
    by_cases h : n = name
    · by_cases ho : name = other <;> simp [putPair, lookPair, h, ho]
    · by_cases ho : n = other
      · have hno : ¬ name = other := fun e => h (ho.trans e.symm)
        rw [putPair, if_neg h, lookPair, lookPair, if_pos ho, if_pos ho, if_neg hno]
      · simp [putPair, lookPair, h, ho, ih]

/-- Names with their values, each name once, in the order in which the names first came. -/
structure Listing (α : Type) where
  entries : List (String × α)
  distinct : (entries.map Prod.fst).Nodup

namespace Listing

variable {α β : Type}

/-- The listing of no names. -/
def empty : Listing α :=
  ⟨[], List.nodup_nil⟩

instance : Inhabited (Listing α) :=
  ⟨empty⟩

/-- The listed names in order. -/
def names (l : Listing α) : List String :=
  l.entries.map Prod.fst

/-- The value listed under a name. -/
def get? (l : Listing α) (name : String) : Option α :=
  lookPair name l.entries

/-- Whether a name is listed. -/
def has (l : Listing α) (name : String) : Bool :=
  (l.get? name).isSome

/-- The number of listed names. -/
def size (l : Listing α) : Nat :=
  l.entries.length

/-- The listing with a value put under a name. -/
def put (l : Listing α) (name : String) (value : α) : Listing α where
  entries := putPair name value l.entries
  distinct := by
    rw [names_putPair]
    split
    · exact l.distinct
    · rename_i h
      refine List.nodup_append.2 ⟨l.distinct, by simp, ?_⟩
      intro a ha b hb e
      simp only [List.mem_singleton] at hb
      exact h (hb ▸ e ▸ ha)

/-- The listing that puts pairs one after the other, so that the last value of a name counts. -/
def ofList (pairs : List (String × α)) : Listing α :=
  pairs.foldl (fun l p => l.put p.1 p.2) empty

/-- The listing with every value changed and every name kept. -/
def map (f : String → α → β) (l : Listing α) : Listing β where
  entries := l.entries.map fun p => (p.1, f p.1 p.2)
  distinct := by
    have : (l.entries.map fun p => (p.1, f p.1 p.2)).map Prod.fst = l.entries.map Prod.fst := by
      simp [List.map_map, Function.comp_def]
    rw [this]
    exact l.distinct

@[simp] theorem get?_empty (name : String) : (empty : Listing α).get? name = none :=
  rfl

/-- The value that was put last under a name is the one that it has. -/
@[simp] theorem get?_put (l : Listing α) (name other : String) (value : α) :
    (l.put name value).get? other = if name = other then some value else l.get? other :=
  lookPair_putPair name other value l.entries

/-- A name that is there keeps its place, and a new one comes last. -/
theorem names_put (l : Listing α) (name : String) (value : α) :
    (l.put name value).names = if name ∈ l.names then l.names else l.names ++ [name] :=
  names_putPair name value l.entries

@[simp] theorem names_map (f : String → α → β) (l : Listing α) : (l.map f).names = l.names := by
  simp [names, map, List.map_map, Function.comp_def]

end Listing

end Rollout
