import PgSkyline.Lib.Covering

/-!
# Elimination scans

A candidate is compared with the incumbents one after the other.  An incumbent
may stop the candidate, which ends the scan, or be evicted by it; a candidate
that passes all incumbents has survived.
-/

namespace Elimination

open Covering

universe u

variable {α : Type u} (stops evicts : α → Bool)

/-- Scan the incumbents.  The answer says whether the candidate survived and
which incumbents are left. -/
def scan : List α → Bool × List α
  | [] => (true, [])
  | x :: rest =>
      if stops x then (false, x :: rest)
      else
        let (survived, kept) := scan rest
        (survived, if evicts x then kept else x :: kept)

@[simp]
theorem scan_nil : scan stops evicts [] = (true, []) :=
  rfl

theorem scan_cons_of_stops {x : α} (rest : List α) (stop : stops x = true) :
    scan stops evicts (x :: rest) = (false, x :: rest) := by
  simp [scan, stop]

theorem scan_cons_of_evicts {x : α} (rest : List α) (pass : stops x = false)
    (evict : evicts x = true) :
    scan stops evicts (x :: rest) = scan stops evicts rest := by
  simp [scan, pass, evict]

theorem scan_cons_of_passes {x : α} (rest : List α) (pass : stops x = false)
    (stay : evicts x = false) :
    scan stops evicts (x :: rest) =
      ((scan stops evicts rest).1, x :: (scan stops evicts rest).2) := by
  simp [scan, pass, stay]

variable {stops evicts}

/-- An induction principle that follows the three ways past an incumbent. -/
theorem scan_induction {motive : List α → Bool × List α → Prop}
    (nil : motive [] (true, []))
    (stop : ∀ x rest, stops x = true → motive (x :: rest) (false, x :: rest))
    (evict : ∀ x rest, stops x = false → evicts x = true →
      motive rest (scan stops evicts rest) → motive (x :: rest) (scan stops evicts rest))
    (pass : ∀ x rest, stops x = false → evicts x = false →
      motive rest (scan stops evicts rest) →
      motive (x :: rest) ((scan stops evicts rest).1, x :: (scan stops evicts rest).2))
    (incumbents : List α) : motive incumbents (scan stops evicts incumbents) := by
  induction incumbents with
  | nil => exact nil
  | cons x rest ih =>
      cases stopped : stops x with
      | true =>
          rw [scan_cons_of_stops _ _ rest stopped]
          exact stop x rest stopped
      | false =>
          cases evicted : evicts x with
          | true =>
              rw [scan_cons_of_evicts _ _ rest stopped evicted]
              exact evict x rest stopped evicted ih
          | false =>
              rw [scan_cons_of_passes _ _ rest stopped evicted]
              exact pass x rest stopped evicted ih

theorem scan_sublist (incumbents : List α) :
    (scan stops evicts incumbents).2.Sublist incumbents := by
  refine scan_induction (motive := fun whole result => result.2.Sublist whole)
    (List.Sublist.refl _) ?_ ?_ ?_ incumbents
  · exact fun x rest _ => List.Sublist.refl _
  · exact fun x rest _ _ ih => ih.cons x
  · exact fun x rest _ _ ih => ih.cons_cons x

/-- What a scan takes away was evicted. -/
theorem scan_split (incumbents : List α) :
    ∃ gone, incumbents.Perm ((scan stops evicts incumbents).2 ++ gone) ∧
      ∀ x ∈ gone, evicts x = true := by
  refine scan_induction (motive := fun whole result =>
    ∃ gone, whole.Perm (result.2 ++ gone) ∧ ∀ x ∈ gone, evicts x = true)
    ⟨[], by simp⟩ ?_ ?_ ?_ incumbents
  · exact fun x rest _ => ⟨[], by simp⟩
  · rintro x rest _ evicted ⟨gone, split, all⟩
    refine ⟨x :: gone, (split.cons x).trans List.perm_middle.symm, ?_⟩
    rintro y (_ | ⟨_, goneMem⟩)
    · exact evicted
    · exact all y goneMem
  · rintro x rest _ _ ⟨gone, split, all⟩
    exact ⟨gone, split.cons x, all⟩

/-- A stopped candidate was stopped by an incumbent that is left. -/
theorem scan_stopped {incumbents : List α} (stopped : (scan stops evicts incumbents).1 = false) :
    ∃ x ∈ (scan stops evicts incumbents).2, stops x = true := by
  revert stopped
  refine scan_induction (motive := fun _ result =>
    result.1 = false → ∃ x ∈ result.2, stops x = true) (by simp) ?_ ?_ ?_ incumbents
  · exact fun x rest stop _ => ⟨x, List.mem_cons_self, stop⟩
  · exact fun x rest _ _ ih => ih
  · intro x rest _ _ ih stopped
    obtain ⟨y, keptMem, stop⟩ := ih stopped
    exact ⟨y, List.mem_cons_of_mem x keptMem, stop⟩

/-- The incumbents left by a survivor neither stop it nor are evicted by it. -/
theorem scan_survived {incumbents : List α} (survived : (scan stops evicts incumbents).1 = true) :
    ∀ x ∈ (scan stops evicts incumbents).2, stops x = false ∧ evicts x = false := by
  revert survived
  refine scan_induction (motive := fun _ result =>
    result.1 = true → ∀ x ∈ result.2, stops x = false ∧ evicts x = false) (by simp) ?_ ?_ ?_
    incumbents
  · exact fun x rest _ contra => absurd contra (by simp)
  · exact fun x rest _ _ ih => ih
  · rintro x rest pass stay ih survived y (_ | ⟨_, keptMem⟩)
    · exact ⟨pass, stay⟩
    · exact ih survived y keptMem

/-! ## Scans and covers -/

section Covers

variable {β : Type u} {r : β → β → Prop} [IsTrans β r] (value : α → β)

/-- Evicting the incumbents that the candidate beats keeps the cover. -/
theorem covers_scan {candidate : β} {incumbents : List α} {others whole : List β}
    (evicted : ∀ x, evicts x = true → r candidate (value x))
    (covers : Covers r (candidate :: (incumbents.map value ++ others)) whole) :
    Covers r (candidate :: ((scan stops evicts incumbents).2.map value ++ others)) whole := by
  obtain ⟨gone, split, all⟩ := @scan_split α stops evicts incumbents
  have arranged : (candidate :: (incumbents.map value ++ others)).Perm
      (gone.map value ++
        (candidate :: ((scan stops evicts incumbents).2.map value ++ others))) := by
    have mapped : (incumbents.map value).Perm
        (gone.map value ++ (scan stops evicts incumbents).2.map value) := by
      rw [← List.map_append]
      exact (split.trans List.perm_append_comm).map value
    refine ((mapped.append_right others).cons candidate).trans ?_
    rw [List.append_assoc]
    exact List.perm_middle.symm
  refine (covers.perm arranged).drop_all fun y goneMem => ?_
  obtain ⟨x, xMem, rfl⟩ := List.mem_map.mp goneMem
  exact ⟨candidate, List.mem_cons_self, evicted x (all x xMem)⟩

/-- A stopped candidate may be dropped as well. -/
theorem covers_scan_of_stopped {candidate : β} {incumbents : List α} {others whole : List β}
    (evicted : ∀ x, evicts x = true → r candidate (value x))
    (beaten : ∀ x, stops x = true → r (value x) candidate)
    (stopped : (scan stops evicts incumbents).1 = false)
    (covers : Covers r (candidate :: (incumbents.map value ++ others)) whole) :
    Covers r ((scan stops evicts incumbents).2.map value ++ others) whole := by
  obtain ⟨x, keptMem, stop⟩ := scan_stopped stopped
  refine (covers_scan value evicted covers).drop ?_ (beaten x stop)
  exact List.mem_append_left others (List.mem_map_of_mem keptMem)

end Covers

end Elimination
