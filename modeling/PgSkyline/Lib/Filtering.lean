import Mathlib.Data.List.Destutter
import PgSkyline.Lib.Covering

/-!
# Online filters

An online filter reads a list once and emits or drops each member at once.  It
is sound for a relation if it drops a member only when a member it emitted before
beats it.

The smallest such filter compares each member with the member it emitted last.
Its results are apart as soon as the list is ordered in a way that lets the last
result stand for all earlier members.
-/

namespace Covering

universe u

variable {α : Type u} {r : α → α → Prop}

/-- After the results `emitted` the filter reads `input` and emits `out`. -/
inductive Filters (r : α → α → Prop) : List α → List α → List α → Prop
  | nil (emitted : List α) : Filters r emitted [] []
  | keep {emitted rest out : List α} (x : α) :
      Filters r (emitted ++ [x]) rest out → Filters r emitted (x :: rest) (x :: out)
  | drop {emitted rest out : List α} {x : α} (beaten : ∃ k ∈ emitted, r k x) :
      Filters r emitted rest out → Filters r emitted (x :: rest) out

namespace Filters

variable {emitted input out : List α}

theorem sublist (filters : Filters r emitted input out) : out.Sublist input := by
  induction filters with
  | nil => exact List.Sublist.refl _
  | keep x _ ih => exact ih.cons_cons x
  | drop _ _ ih => exact ih.cons _

/-- The filter goes on and emits one more member. -/
theorem snoc_keep (filters : Filters r emitted input out) (x : α) :
    Filters r emitted (input ++ [x]) (out ++ [x]) := by
  induction filters with
  | nil emitted => exact .keep x (.nil _)
  | keep y _ ih => exact .keep y ih
  | drop beaten _ ih => exact .drop beaten ih

/-- The filter goes on and drops one more member. -/
theorem snoc_drop (filters : Filters r emitted input out) {x : α}
    (beaten : ∃ k ∈ emitted ++ out, r k x) : Filters r emitted (input ++ [x]) out := by
  induction filters with
  | nil emitted =>
      rw [List.append_nil] at beaten
      exact .drop beaten (.nil _)
  | keep y _ ih =>
      apply Filters.keep y
      apply ih
      simpa using beaten
  | drop beatenFirst _ ih => exact .drop beatenFirst (ih beaten)

theorem covers_emitted (filters : Filters r emitted input out) :
    ∃ gone, input.Perm (out ++ gone) ∧ ∀ x ∈ gone, ∃ k ∈ emitted ++ out, r k x := by
  induction filters with
  | nil => exact ⟨[], by simp, by simp⟩
  | keep x _ ih =>
      rcases ih with ⟨gone, split, beaten⟩
      refine ⟨gone, split.cons x, ?_⟩
      simpa using beaten
  | @drop emitted rest out x beatenFirst _ ih =>
      rcases ih with ⟨gone, split, beaten⟩
      refine ⟨x :: gone, (split.cons x).trans List.perm_middle.symm, ?_⟩
      intro y goneMem
      rcases List.mem_cons.mp goneMem with rfl | goneMem
      · rcases beatenFirst with ⟨k, emittedMem, beats⟩
        exact ⟨k, List.mem_append_left _ emittedMem, beats⟩
      · exact beaten y goneMem

/-- From the start, the results of the filter cover its input. -/
theorem covers (filters : Filters r [] input out) : Covers r out input :=
  filters.covers_emitted

end Filters

/-! ## Comparing with the last result -/

section LastKept

variable [DecidableRel r]

/-- The filter that drops what its last result beats. -/
def lastKept (r : α → α → Prop) [DecidableRel r] (input : List α) : List α :=
  input.destutter fun last x => ¬ r last x

theorem filters_destutter' {emitted : List α} {last : α} (emittedMem : last ∈ emitted)
    (rest : List α) :
    ∃ out, rest.destutter' (fun last x => ¬ r last x) last = last :: out ∧
      Filters r emitted rest out := by
  induction rest generalizing emitted last with
  | nil => exact ⟨[], rfl, .nil emitted⟩
  | cons x rest ih =>
      by_cases beaten : r last x
      · rcases ih emittedMem with ⟨out, kept, filters⟩
        refine ⟨out, ?_, .drop ⟨last, emittedMem, beaten⟩ filters⟩
        rw [List.destutter'_cons_neg _ (not_not_intro beaten), kept]
      · have newMem : x ∈ emitted ++ [x] := List.mem_append_right _ List.mem_cons_self
        rcases ih newMem with ⟨out, kept, filters⟩
        refine ⟨x :: out, ?_, .keep x filters⟩
        rw [List.destutter'_cons_pos _ beaten, kept]

theorem filters_lastKept (input : List α) : Filters r [] input (lastKept r input) := by
  cases input with
  | nil => exact .nil []
  | cons x rest =>
      have newMem : x ∈ ([] ++ [x] : List α) := List.mem_cons_self
      rcases @filters_destutter' _ r _ _ _ newMem rest with ⟨out, kept, filters⟩
      rw [lastKept, List.destutter_cons', kept]
      exact .keep x filters

/-- Behind the member `p` the last result is `p`, or it beats `p`. -/
def StandsFor (r : α → α → Prop) (last p : α) : Prop :=
  last = p ∨ r last p

/-- A member that no stand-in of its predecessor beats is emitted. -/
theorem mem_lastKept {done rest : List α} {p x : α}
    (unbeaten : ∀ last, StandsFor r last p → ¬ r last x) :
    x ∈ lastKept r (done ++ p :: x :: rest) := by
  have fromLast : ∀ last, StandsFor r last p →
      x ∈ (x :: rest).destutter' (fun last x => ¬ r last x) last := by
    intro last standsFor
    rw [List.destutter'_cons_pos _ (unbeaten last standsFor)]
    exact List.mem_cons_of_mem _ (List.mem_destutter' _ _ x)
  have behind : ∀ last, x ∈ (p :: x :: rest).destutter' (fun last x => ¬ r last x) last := by
    intro last
    by_cases beaten : r last p
    · rw [List.destutter'_cons_neg _ (not_not_intro beaten)]
      exact fromLast last (Or.inr beaten)
    · rw [List.destutter'_cons_pos _ beaten]
      exact List.mem_cons_of_mem _ (fromLast p (Or.inl rfl))
  cases done with
  | nil => exact fromLast p (Or.inl rfl)
  | cons first done =>
      rw [lastKept, List.cons_append, List.destutter_cons']
      induction done generalizing first with
      | nil => exact behind first
      | cons y done ih =>
          by_cases beaten : r first y
          · rw [List.cons_append, List.destutter'_cons_neg _ (not_not_intro beaten)]
            exact ih first
          · rw [List.cons_append, List.destutter'_cons_pos _ beaten]
            exact List.mem_cons_of_mem _ (ih y)

/-- Whatever an earlier member beats, the last result beats: `x` precedes the last
result `last`, which precedes `y`, and `p` is the predecessor of `y`. -/
def Relays (r before : α → α → Prop) (input : List α) : Prop :=
  ∀ done p y rest, input = done ++ p :: y :: rest → ∀ last, StandsFor r last p →
    before last y → ∀ x ∈ done ++ [p], before x last → ¬ r x last → r x y → r last y

variable [IsTrans α r] {before : α → α → Prop} {input : List α}

/-- What is emitted behind the last result is not beaten by anything before. -/
theorem unbeaten_of_destutter' (relays : Relays r before input)
    (ordered : input.Pairwise before) {rest done out : List α} {p last : α}
    (inputEq : input = done ++ p :: rest) (lastMem : last ∈ done ++ [p])
    (standsFor : StandsFor r last p)
    (linked : ∀ x ∈ done ++ [p], StandsFor r last x ∨ (before x last ∧ ¬ r x last))
    (kept : rest.destutter' (fun last x => ¬ r last x) last = last :: out) :
    (∀ x ∈ done ++ [p], ∀ y ∈ out, ¬ r x y) ∧ out.Pairwise fun x y => ¬ r x y := by
  induction rest generalizing done p last out with
  | nil =>
      cases kept
      exact ⟨by simp, List.Pairwise.nil⟩
  | cons y rest ih =>
      have inputEq' : input = (done ++ [p]) ++ y :: rest := by simpa using inputEq
      have ordered' := inputEq' ▸ ordered
      have beforeNext : ∀ x ∈ done ++ [p], before x y := fun x doneMem =>
        (List.pairwise_append.mp ordered').2.2 x doneMem y List.mem_cons_self
      by_cases beaten : r last y
      · rw [List.destutter'_cons_neg _ (not_not_intro beaten)] at kept
        have after := ih inputEq' (List.mem_append_left _ lastMem) (Or.inr beaten)
          (fun x doneMem => by
            rcases List.mem_append.mp doneMem with old | new
            · exact linked x old
            · rw [List.mem_singleton.mp new]
              exact Or.inl (Or.inr beaten))
          kept
        exact ⟨fun x doneMem => after.1 x (List.mem_append_left _ doneMem), after.2⟩
      · rw [List.destutter'_cons_pos _ beaten, List.cons.injEq] at kept
        -- Nothing read so far beats the new result.
        have unbeaten : ∀ x ∈ done ++ [p], ¬ r x y := by
          intro x doneMem beats
          apply beaten
          rcases linked x doneMem with (rfl | lastBeats) | ⟨beforeLast, notBeats⟩
          · exact beats
          · exact IsTrans.trans _ _ _ lastBeats beats
          · exact relays done p y rest inputEq last standsFor (beforeNext last lastMem) x doneMem
              beforeLast notBeats beats
        rcases @filters_destutter' _ r _ _ _ (List.mem_singleton_self y) rest with
          ⟨later, keptLater, _⟩
        have after := ih inputEq' (List.mem_append_right _ (List.mem_singleton_self y))
          (Or.inl rfl)
          (fun x doneMem => by
            rcases List.mem_append.mp doneMem with old | new
            · exact Or.inr ⟨beforeNext x old, unbeaten x old⟩
            · exact Or.inl (Or.inl (List.mem_singleton.mp new).symm))
          keptLater
        rw [← kept.2, keptLater]
        constructor
        · intro x doneMem z outMem
          rcases List.mem_cons.mp outMem with rfl | laterMem
          · exact unbeaten x doneMem
          · exact after.1 x (List.mem_append_left _ doneMem) z laterMem
        · rw [List.pairwise_cons]
          exact ⟨after.1 y (List.mem_append_right _ (List.mem_singleton_self y)), after.2⟩

/-- On an ordered list that relays, no result beats a later one. -/
theorem pairwise_lastKept (relays : Relays r before input) (ordered : input.Pairwise before) :
    (lastKept r input).Pairwise fun x y => ¬ r x y := by
  cases input with
  | nil => exact List.Pairwise.nil
  | cons x rest =>
      rcases @filters_destutter' _ r _ _ _ (List.mem_singleton_self x) rest with ⟨out, kept, _⟩
      have after := @unbeaten_of_destutter' _ _ _ _ _ _ relays ordered rest [] out x x rfl
        List.mem_cons_self (Or.inl rfl) (by simp [StandsFor]) kept
      rw [lastKept, List.destutter_cons', kept, List.pairwise_cons]
      exact ⟨after.1 x List.mem_cons_self, after.2⟩

end LastKept

end Covering
