import Mathlib.Data.List.Sort
import Mathlib.Data.List.TakeWhile
import Mathlib.Order.Lattice

/-!
# Rankings of arrivals

Entries arrive one after the other and are ranked from the highest rank down;
among entries of one rank the earlier arrival comes first.  So a ranking is a
stable sort, a new arrival goes behind the entries of at least its rank, and what
is left of a ranking is the ranking of some of the arrivals.
-/

namespace Ranking

universe u v

variable {α : Type u}

/-- Where an ordered insertion puts an entry. -/
theorem orderedInsert_append {r : α → α → Prop} [DecidableRel r] {a : α} {front back : List α}
    (before : ∀ b ∈ front, ¬ r a b) (behind : ∀ b ∈ back, r a b) :
    (front ++ back).orderedInsert r a = front ++ a :: back := by
  induction front with
  | nil =>
      cases back with
      | nil => rfl
      | cons b back => exact if_pos (behind b List.mem_cons_self)
  | cons c front ih =>
      rw [List.cons_append, List.orderedInsert_cons, if_neg (before c List.mem_cons_self),
        ih fun b mem => before b (List.mem_cons_of_mem c mem)]
      rfl

variable {R : Type v} [LinearOrder R] (rank : α → R)

/-- The entries from the highest rank down, in the order of arrival within a rank. -/
def ranking (arrivals : List α) : List α :=
  arrivals.insertionSort fun a b => rank b ≤ rank a

variable {rank}

theorem pairwise_ranking (arrivals : List α) :
    (ranking rank arrivals).Pairwise fun a b => rank b ≤ rank a := by
  have total : Std.Total fun a b => rank b ≤ rank a := ⟨fun a b => le_total (rank b) (rank a)⟩
  have trans : IsTrans α fun a b => rank b ≤ rank a :=
    ⟨fun _ _ _ first second => second.trans first⟩
  exact List.pairwise_insertionSort _ arrivals

/-- It does not matter whether the first or the last arrival is inserted first. -/
theorem orderedInsert_comm (first last : α) (entries : List α) :
    (entries.orderedInsert (fun a b => rank b < rank a) last).orderedInsert
        (fun a b => rank b ≤ rank a) first =
      (entries.orderedInsert (fun a b => rank b ≤ rank a) first).orderedInsert
        (fun a b => rank b < rank a) last := by
  induction entries with
  | nil =>
      by_cases lower : rank last ≤ rank first
      · simp [lower, not_lt.mpr lower]
      · simp [lower, not_le.mp lower]
  | cons b entries ih =>
      by_cases belowLast : rank b < rank last
      · by_cases lower : rank last ≤ rank first
        · simp [belowLast, lower, not_lt.mpr lower, (belowLast.trans_le lower).le]
        · by_cases belowFirst : rank b ≤ rank first
          · simp [belowLast, lower, not_le.mp lower, belowFirst]
          · simp [belowLast, lower, belowFirst]
      · by_cases belowFirst : rank b ≤ rank first
        · have lower := (not_lt.mp belowLast).trans belowFirst
          simp [belowLast, belowFirst, not_lt.mpr lower]
        · simp [belowLast, belowFirst, ih]

/-- A new arrival goes before the entries of smaller rank. -/
theorem ranking_concat (arrivals : List α) (a : α) :
    ranking rank (arrivals ++ [a]) =
      (ranking rank arrivals).orderedInsert (fun a b => rank b < rank a) a := by
  induction arrivals with
  | nil => rfl
  | cons first arrivals ih =>
      calc
        ranking rank (first :: arrivals ++ [a]) =
            (ranking rank (arrivals ++ [a])).orderedInsert (fun a b => rank b ≤ rank a) first := rfl
        _ = ((ranking rank arrivals).orderedInsert (fun a b => rank b < rank a) a).orderedInsert
            (fun a b => rank b ≤ rank a) first := by rw [ih]
        _ = (ranking rank (first :: arrivals)).orderedInsert (fun a b => rank b < rank a) a :=
          orderedInsert_comm first a _

/-- The place of a new arrival in a ranking. -/
theorem ranking_concat_of_split {arrivals : List α} {a : α} {front back : List α}
    (split : ranking rank arrivals = front ++ back) (before : ∀ b ∈ front, rank a ≤ rank b)
    (behind : ∀ b ∈ back, rank b < rank a) :
    ranking rank (arrivals ++ [a]) = front ++ a :: back := by
  rw [ranking_concat, split]
  exact orderedInsert_append (fun b mem => not_lt.mpr (before b mem)) behind

/-- What is left of a ranking ranks some of the arrivals. -/
theorem exists_ranking_of_sublist {arrivals left : List α}
    (sub : left.Sublist (ranking rank arrivals)) :
    ∃ kept, kept.Sublist arrivals ∧ left = ranking rank kept := by
  induction arrivals generalizing left with
  | nil => exact ⟨[], List.Sublist.refl _, List.eq_nil_of_sublist_nil sub⟩
  | cons first arrivals ih =>
      have ordered := @pairwise_ranking α R _ rank (first :: arrivals)
      have split := List.insertionSort_cons_eq_take_drop (fun a b => rank b ≤ rank a) first arrivals
      have whole := List.takeWhile_append_dropWhile
        (p := fun b => decide ¬ rank b ≤ rank first) (l := ranking rank arrivals)
      change ranking rank (first :: arrivals) = _ at split
      rw [split] at sub ordered
      have above : ∀ b ∈ (ranking rank arrivals).takeWhile fun b => ¬ rank b ≤ rank first,
          ¬ rank b ≤ rank first := by
        intro b mem
        have passed := List.mem_takeWhile_imp mem
        exact of_decide_eq_true passed
      rcases List.sublist_append_iff.mp sub with ⟨front, back, rfl, frontSub, backSub⟩
      cases backSub with
      | cons _ backSub =>
          rcases ih (whole ▸ frontSub.append backSub) with ⟨kept, keptSub, same⟩
          exact ⟨kept, keptSub.cons first, same⟩
      | @cons_cons back _ _ backSub =>
          rcases ih (whole ▸ frontSub.append backSub) with ⟨kept, keptSub, same⟩
          refine ⟨first :: kept, keptSub.cons_cons first, ?_⟩
          have below := (List.pairwise_cons.mp (List.pairwise_append.mp ordered).2.1).1
          calc
            front ++ first :: back =
                (front ++ back).orderedInsert (fun a b => rank b ≤ rank a) first :=
              (orderedInsert_append (fun b mem => above b (frontSub.subset mem))
                fun b mem => below b (backSub.subset mem)).symm
            _ = ranking rank (first :: kept) := by rw [same]; rfl

end Ranking
