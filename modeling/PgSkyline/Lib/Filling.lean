import Mathlib.Data.List.Basic
import Mathlib.Order.MinMax

/-!
# Filling containers in order

Entries are put into a container as long as it has room.  An entry that finds no room
begins the next container.  How the entries are distributed follows from their order
and from what it means to have room.
-/

namespace Filling

universe u

variable {α : Type u} (room : List α → Prop) [DecidablePred room]

/-- Distribute the entries, beginning with a container that holds `current`. -/
def fill : List α → List α → List (List α)
  | current, [] => [current]
  | current, entry :: rest =>
      if room current then fill (current ++ [entry]) rest else current :: fill [entry] rest

/-- Every entry of the container found room in it. -/
def Grown (container : List α) : Prop :=
  ∀ before entry, before ++ [entry] <+: container → room before

variable {room}

omit [DecidablePred room] in
theorem grown_nil : Grown room [] := by
  intro before entry isPrefix
  have empty := List.prefix_nil.mp isPrefix
  simp at empty

omit [DecidablePred room] in
theorem Grown.snoc {container : List α} (grown : Grown room container) (free : room container)
    (entry : α) : Grown room (container ++ [entry]) := by
  intro before entry' isPrefix
  rcases List.prefix_concat_iff.mp isPrefix with whole | inside
  · rw [(List.append_inj' whole rfl).1]
    exact free
  · exact grown before entry' inside

/-- Entries that find room end up in the current container. -/
theorem fill_of_grown {current rest : List α} (grown : Grown room (current ++ rest))
    (later : List α) : fill room current (rest ++ later) = fill room (current ++ rest) later := by
  induction rest generalizing current with
  | nil => simp
  | cons entry rest ih =>
      have free : room current := grown current entry ⟨rest, by simp⟩
      have same : current ++ entry :: rest = current ++ [entry] ++ rest := by simp
      rw [same] at grown ⊢
      rw [List.cons_append, fill, if_pos free, ih grown]

/-- Containers that were filled one after the other are those that `fill` makes. -/
theorem fill_flatten (free : room []) {full : List (List α)} {current : List α}
    (filled : ∀ container ∈ full, Grown room container ∧ ¬ room container)
    (grown : Grown room current) (begun : current ≠ [] ∨ full = []) :
    fill room [] (full.flatten ++ current) = full ++ [current] := by
  induction full with
  | nil =>
      have filling : fill room [] (current ++ []) = fill room ([] ++ current) [] :=
        fill_of_grown grown []
      simpa [fill] using filling
  | cons container full ih =>
      rcases filled container List.mem_cons_self with ⟨containerGrown, noRoom⟩
      have filled' : ∀ container ∈ full, Grown room container ∧ ¬ room container :=
        fun other mem => filled other (List.mem_cons_of_mem _ mem)
      have current_ne : current ≠ [] := begun.resolve_right (List.cons_ne_nil _ _)
      have rest_ne : full.flatten ++ current ≠ [] := by simp [current_ne]
      rcases List.exists_cons_of_ne_nil rest_ne with ⟨entry, rest, restEq⟩
      have restFilled := ih filled' (Or.inl current_ne)
      rw [restEq, fill, if_pos free, List.nil_append] at restFilled
      have moved : fill room [] (container ++ (full.flatten ++ current)) =
          fill room container (full.flatten ++ current) :=
        fill_of_grown containerGrown _
      rw [List.flatten_cons, List.append_assoc, moved, restEq, fill, if_neg noRoom, restFilled,
        List.cons_append]

theorem fill_congr {room' : List α → Prop} [DecidablePred room']
    (same : ∀ container, room container ↔ room' container) (current entries : List α) :
    fill room current entries = fill room' current entries := by
  induction entries generalizing current with
  | nil => rfl
  | cons entry rest ih =>
      simp only [fill, same, ih]

/-! ## Containers of bounded length -/

theorem length_fill_of_bounded {bound : Nat} (positive : 0 < bound) (current entries : List α)
    (fits : current.length ≤ bound) :
    (fill (fun container => container.length < bound) current entries).length =
      1 + (current.length + entries.length - bound + (bound - 1)) / bound := by
  induction entries generalizing current with
  | nil =>
      have nothing : (current.length + ([] : List α).length - bound + (bound - 1)) / bound = 0 := by
        apply Nat.div_eq_of_lt
        simp only [List.length_nil]
        omega
      rw [fill, nothing]
      rfl
  | cons entry rest ih =>
      rw [fill]
      split
      · rename_i free
        have longer : (current ++ [entry]).length = current.length + 1 := by simp
        rw [ih _ (longer ▸ free), longer, List.length_cons]
        congr 3
        omega
      · rename_i noRoom
        have full : current.length = bound := Nat.le_antisymm fits (Nat.not_lt.mp noRoom)
        have next : current.length + (entry :: rest).length - bound + (bound - 1) =
            ([entry].length + rest.length - bound + (bound - 1)) + bound ∨
            ([entry].length + rest.length < bound ∧
              current.length + (entry :: rest).length - bound + (bound - 1) =
                rest.length + bound) := by
          simp only [List.length_cons, List.length_nil]
          omega
        rw [List.length_cons, ih [entry] (Nat.succ_le_of_lt positive)]
        rcases next with more | ⟨few, last⟩
        · rw [more, Nat.add_div_right _ positive]
          omega
        · have nothing : ([entry].length + rest.length - bound + (bound - 1)) / bound = 0 := by
            apply Nat.div_eq_of_lt
            omega
          have nothing' : rest.length / bound = 0 := by
            apply Nat.div_eq_of_lt
            simp only [List.length_cons, List.length_nil] at few
            omega
          rw [last, Nat.add_div_right _ positive, nothing, nothing']

/-- With room for `bound` entries each, the number of containers is the number of
entries divided by the bound, rounded up. -/
theorem length_fill_nil {bound : Nat} (positive : 0 < bound) (entries : List α) :
    (fill (fun container => container.length < bound) [] entries).length =
      max 1 ((entries.length + (bound - 1)) / bound) := by
  rw [length_fill_of_bounded positive [] entries (Nat.zero_le _), List.length_nil, Nat.zero_add]
  rcases Nat.lt_or_ge entries.length bound with few | many
  · have nothing : (entries.length - bound + (bound - 1)) / bound = 0 := by
      apply Nat.div_eq_of_lt
      omega
    have atMostOne : (entries.length + (bound - 1)) / bound ≤ 1 := by
      rw [Nat.div_le_iff_le_mul_add_pred positive]
      omega
    rw [nothing, max_eq_left atMostOne]
  · have split : entries.length + (bound - 1) = (entries.length - bound + (bound - 1)) + bound := by
      omega
    rw [split, Nat.add_div_right _ positive, Nat.add_comm,
      max_eq_right (Nat.le_add_left 1 _)]

end Filling
