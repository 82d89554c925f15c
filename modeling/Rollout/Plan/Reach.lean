/-!
# What can be reached

The nodes of a finite graph that can be reached from some of them, in the order in which a search
in depth first comes to them.
-/

namespace Rollout

/-- The nodes still to be found. -/
def unseen (nodes seen : List String) : List String :=
  nodes.filter (· ∉ seen)

/-- A name that was seen is taken from the unseen ones. -/
theorem unseen_cons (nodes seen : List String) (name : String) :
    unseen nodes (name :: seen) = (unseen nodes seen).filter (· ≠ name) := by
  simp only [unseen, List.filter_filter]
  congr 1
  funext x
  simp [List.mem_cons, not_or]

/-- A name that is seen for the first time is one unseen name less. -/
theorem length_unseen_cons {nodes seen : List String} {name : String} (h : name ∈ nodes)
    (hs : name ∉ seen) : (unseen nodes (name :: seen)).length < (unseen nodes seen).length := by
  rw [unseen_cons, List.length_filter_lt_length_iff_exists]
  exact ⟨name, by simp [unseen, h, hs], by simp⟩

/-- Goes on from the nodes on a stack, its first one first; `next` gives the neighbours of a node,
of which the last one is visited first, and `seen` holds the visited nodes, the latest first. -/
def search (nodes : List String) (next : String → List String) (seen : List String) :
    List String → List String
  | [] => seen.reverse
  | name :: stack =>
    if _h : name ∈ nodes ∧ name ∉ seen then
      search nodes next (name :: seen) ((next name).reverse ++ stack)
    else search nodes next seen stack
termination_by stack => ((unseen nodes seen).length, stack.length)
decreasing_by
  · exact Prod.Lex.left _ _ (length_unseen_cons _h.1 _h.2)
  · exact Prod.Lex.right _ (by simp)

/-- The nodes that can be reached from some, these included, in the order of the search. -/
def reach (nodes : List String) (next : String → List String) (starts : List String) :
    List String :=
  search nodes next [] starts.reverse

end Rollout
