import PgSkyline.Lib.Elimination
import PgSkyline.Window.Core

/-!
# The time stamp discipline of block nested loop

A window tuple carries the number of tuples that had overflowed when it was
stored.  While the pass reads its source, the stamps below the read position
belong to tuples stored in this pass, the others to tuples of the pass before.

* A tuple of this pass has met everything that overflowed after it.
* A tuple of the pass before has met everything that overflowed in this pass and
  the whole source, except for the next `timestamp - timestampIn` tuples.

So a tuple whose stamp equals the read position has met everything and may be
returned.  The discipline works for any transitive elimination relation.
-/

namespace PgSkyline.BlockNestedLoop

open Covering Elimination

variable {T R : Type}

/-- The stamps lie in the ranges that their passes allow. -/
structure Timed (slots : List (TupleWindowSlot T R)) (pending overflow : List T)
    (timestampIn : Nat) : Prop where
  overflow_le : overflow.length ≤ timestampIn
  ofLastPass : ∀ slot ∈ slots, timestampIn ≤ slot.timestamp →
    slot.timestamp ≤ timestampIn + pending.length
  ofThisPass : ∀ slot ∈ slots, slot.timestamp < timestampIn → slot.timestamp ≤ overflow.length

/-- The comparisons made so far: no two tuples that met beat each other.  `sent`
are the tuples returned, which have met everything. -/
structure Compared (r : T → T → Prop) (sent : List T) (slots : List (TupleWindowSlot T R))
    (pending overflow : List T) (timestampIn : Nat) : Prop where
  sentApart : sent.Pairwise (Apart r)
  restApart : ∀ x ∈ sent, ∀ y ∈ tuplesOf slots ++ (pending ++ overflow), Apart r x y
  slotsApart : (tuplesOf slots).Pairwise (Apart r)
  ofLastPass : ∀ slot ∈ slots, timestampIn ≤ slot.timestamp →
    ∀ y ∈ pending.drop (slot.timestamp - timestampIn) ++ overflow, Apart r slot.tuple y
  ofThisPass : ∀ slot ∈ slots, slot.timestamp < timestampIn →
    ∀ y ∈ overflow.drop slot.timestamp, Apart r slot.tuple y

/-- Nothing is lost: what a pass still holds and what was returned covers the
input. -/
def HeldCovers (r : T → T → Prop) (input sent : List T) (slots : List (TupleWindowSlot T R))
    (pending overflow : List T) : Prop :=
  Covers r (tuplesOf slots ++ (pending ++ (overflow ++ sent))) input

/-! ## Stamps -/

section Timed

variable {slots kept : List (TupleWindowSlot T R)} {pending overflow : List T} {x : T}
variable {timestampIn : Nat}

theorem timed_init (input : List T) : Timed ([] : List (TupleWindowSlot T R)) input [] 0 :=
  ⟨Nat.le_refl 0, by simp, by simp⟩

/-- One tuple of the source was read and did not overflow. -/
theorem Timed.read (timed : Timed slots (x :: pending) overflow timestampIn)
    (notNow : ∀ slot ∈ slots, slot.timestamp ≠ timestampIn) (sub : ∀ slot ∈ kept, slot ∈ slots) :
    Timed kept pending overflow (timestampIn + 1) where
  overflow_le := Nat.le_succ_of_le timed.overflow_le
  ofLastPass slot keptMem late := by
    have bound := timed.ofLastPass slot (sub slot keptMem) (Nat.le_of_succ_le late)
    simp only [List.length_cons] at bound
    omega
  ofThisPass slot keptMem early := by
    have different := notNow slot (sub slot keptMem)
    exact timed.ofThisPass slot (sub slot keptMem) (by omega)

/-- The tuple that was read goes to the window. -/
theorem Timed.store (timed : Timed slots pending overflow (timestampIn + 1))
    (room : overflow.length ≤ timestampIn) {stored : List (TupleWindowSlot T R)}
    {new : TupleWindowSlot T R} (stamp : new.timestamp = overflow.length)
    (added : stored.Perm (new :: slots)) :
    Timed stored pending overflow (timestampIn + 1) where
  overflow_le := timed.overflow_le
  ofLastPass slot storedMem late := by
    rcases List.mem_cons.mp (added.mem_iff.mp storedMem) with rfl | slotMem
    · omega
    · exact timed.ofLastPass slot slotMem late
  ofThisPass slot storedMem early := by
    rcases List.mem_cons.mp (added.mem_iff.mp storedMem) with rfl | slotMem
    · omega
    · exact timed.ofThisPass slot slotMem early

/-- The tuple that was read overflows. -/
theorem Timed.spill (timed : Timed slots pending overflow (timestampIn + 1))
    (room : overflow.length ≤ timestampIn) (x : T) :
    Timed slots pending (overflow ++ [x]) (timestampIn + 1) where
  overflow_le := by simpa using room
  ofLastPass := timed.ofLastPass
  ofThisPass slot slotMem early := by
    have bound := timed.ofThisPass slot slotMem early
    simp only [List.length_append]
    omega

theorem Timed.sublist (timed : Timed slots pending overflow timestampIn)
    (sub : ∀ slot ∈ kept, slot ∈ slots) : Timed kept pending overflow timestampIn where
  overflow_le := timed.overflow_le
  ofLastPass slot keptMem := timed.ofLastPass slot (sub slot keptMem)
  ofThisPass slot keptMem := timed.ofThisPass slot (sub slot keptMem)

/-- At the end of the source all stamps belong to this pass. -/
theorem Timed.lt_of_end (timed : Timed slots [] overflow timestampIn)
    (notNow : ∀ slot ∈ slots, slot.timestamp ≠ timestampIn) :
    ∀ slot ∈ slots, slot.timestamp < timestampIn := by
  intro slot slotMem
  by_contra late
  have bound := timed.ofLastPass slot slotMem (Nat.le_of_not_lt late)
  have different := notNow slot slotMem
  simp only [List.length_nil, Nat.add_zero] at bound
  omega

/-- The overflow becomes the source of the next pass. -/
theorem Timed.switch (timed : Timed slots [] overflow timestampIn)
    (notNow : ∀ slot ∈ slots, slot.timestamp ≠ timestampIn) : Timed slots overflow [] 0 where
  overflow_le := Nat.le_refl 0
  ofLastPass slot slotMem _ := by
    have bound := timed.ofThisPass slot slotMem (timed.lt_of_end notNow slot slotMem)
    simpa using bound
  ofThisPass slot _ early := absurd early (Nat.not_lt_zero _)

end Timed

/-! ## Comparisons -/

section Compared

variable {r : T → T → Prop} {sent pending overflow : List T} {x : T}
variable {slots kept : List (TupleWindowSlot T R)} {timestampIn : Nat}

theorem compared_init (r : T → T → Prop) (input : List T) :
    Compared r [] ([] : List (TupleWindowSlot T R)) input [] 0 :=
  ⟨List.Pairwise.nil, by simp, List.Pairwise.nil, by simp, by simp⟩

/-- One tuple of the source was read, and some window tuples were evicted. -/
theorem Compared.read (compared : Compared r sent slots (x :: pending) overflow timestampIn)
    (notNow : ∀ slot ∈ slots, slot.timestamp ≠ timestampIn) (sub : kept.Sublist slots) :
    Compared r sent kept pending overflow (timestampIn + 1) where
  sentApart := compared.sentApart
  restApart y sentMem z zMem := by
    refine compared.restApart y sentMem z ?_
    rcases List.mem_append.mp zMem with keptMem | restMem
    · exact List.mem_append_left _ ((sub.map _).subset keptMem)
    · exact List.mem_append_right _ (List.mem_cons_of_mem x restMem)
  slotsApart := compared.slotsApart.sublist (sub.map _)
  ofLastPass slot keptMem late := by
    have old := compared.ofLastPass slot (sub.subset keptMem) (Nat.le_of_succ_le late)
    have shift : slot.timestamp - timestampIn = (slot.timestamp - (timestampIn + 1)) + 1 := by omega
    rwa [shift, List.drop_succ_cons] at old
  ofThisPass slot keptMem early := by
    have different := notNow slot (sub.subset keptMem)
    exact compared.ofThisPass slot (sub.subset keptMem) (by omega)

/-- The tuple that was read goes to the window. -/
theorem Compared.store (compared : Compared r sent slots pending overflow timestampIn)
    {stored : List (TupleWindowSlot T R)} {new : TupleWindowSlot T R}
    (stamp : new.timestamp = overflow.length) (room : overflow.length < timestampIn)
    (sentMet : ∀ y ∈ sent, Apart r y new.tuple)
    (slotsMet : ∀ slot ∈ slots, Apart r slot.tuple new.tuple)
    (added : stored.Perm (new :: slots)) :
    Compared r sent stored pending overflow timestampIn where
  sentApart := compared.sentApart
  restApart y sentMem z zMem := by
    rcases List.mem_append.mp zMem with storedMem | restMem
    · obtain ⟨slot, slotMem, rfl⟩ := List.mem_map.mp storedMem
      rcases List.mem_cons.mp (added.mem_iff.mp slotMem) with rfl | oldMem
      · exact sentMet y sentMem
      · exact compared.restApart y sentMem _
          (List.mem_append_left _ (List.mem_map_of_mem oldMem))
    · exact compared.restApart y sentMem z (List.mem_append_right _ restMem)
  slotsApart := by
    refine ((added.map TupleWindowSlot.tuple).pairwise_iff Apart.symm).mpr ?_
    refine List.pairwise_cons.mpr ⟨fun y yMem => ?_, compared.slotsApart⟩
    obtain ⟨slot, slotMem, rfl⟩ := List.mem_map.mp yMem
    exact (slotsMet slot slotMem).symm
  ofLastPass slot storedMem late := by
    rcases List.mem_cons.mp (added.mem_iff.mp storedMem) with rfl | oldMem
    · omega
    · exact compared.ofLastPass slot oldMem late
  ofThisPass slot storedMem early := by
    rcases List.mem_cons.mp (added.mem_iff.mp storedMem) with rfl | oldMem
    · simp [stamp]
    · exact compared.ofThisPass slot oldMem early

/-- The tuple that was read overflows. -/
theorem Compared.spill (compared : Compared r sent slots pending overflow timestampIn)
    (stamps : ∀ slot ∈ slots, slot.timestamp < timestampIn → slot.timestamp ≤ overflow.length)
    (sentMet : ∀ y ∈ sent, Apart r y x) (slotsMet : ∀ slot ∈ slots, Apart r slot.tuple x) :
    Compared r sent slots pending (overflow ++ [x]) timestampIn where
  sentApart := compared.sentApart
  restApart y sentMem z zMem := by
    rw [← List.append_assoc, ← List.append_assoc] at zMem
    rcases List.mem_append.mp zMem with heldMem | new
    · exact compared.restApart y sentMem z (by rwa [List.append_assoc] at heldMem)
    · rw [List.mem_singleton.mp new]
      exact sentMet y sentMem
  slotsApart := compared.slotsApart
  ofLastPass slot slotMem late y yMem := by
    rw [← List.append_assoc] at yMem
    rcases List.mem_append.mp yMem with heldMem | new
    · exact compared.ofLastPass slot slotMem late y heldMem
    · rw [List.mem_singleton.mp new]
      exact slotsMet slot slotMem
  ofThisPass slot slotMem early y yMem := by
    rw [List.drop_append_of_le_length (stamps slot slotMem early)] at yMem
    rcases List.mem_append.mp yMem with heldMem | new
    · exact compared.ofThisPass slot slotMem early y heldMem
    · rw [List.mem_singleton.mp new]
      exact slotsMet slot slotMem

/-- A window tuple that has met everything is returned. -/
theorem Compared.emit (compared : Compared r sent slots pending overflow timestampIn)
    {slot : TupleWindowSlot T R} (split : slots.Perm (slot :: kept))
    (met : ∀ y ∈ pending ++ overflow, Apart r slot.tuple y) :
    Compared r (sent ++ [slot.tuple]) kept pending overflow timestampIn := by
  have slotMem : slot ∈ slots := split.mem_iff.mpr List.mem_cons_self
  have sub : ∀ other ∈ kept, other ∈ slots :=
    fun other keptMem => split.mem_iff.mpr (List.mem_cons_of_mem slot keptMem)
  have slotsApart : (tuplesOf (slot :: kept)).Pairwise (Apart r) :=
    ((split.map TupleWindowSlot.tuple).pairwise_iff Apart.symm).mp compared.slotsApart
  obtain ⟨slotApart, keptApart⟩ := List.pairwise_cons.mp slotsApart
  refine ⟨?_, ?_, keptApart, ?_, ?_⟩
  · refine List.pairwise_append.mpr ⟨compared.sentApart, List.pairwise_singleton _ _, ?_⟩
    intro y sentMem z zMem
    rw [List.mem_singleton.mp zMem]
    exact compared.restApart y sentMem _ (List.mem_append_left _ (List.mem_map_of_mem slotMem))
  · intro y yMem z zMem
    rcases List.mem_append.mp yMem with sentMem | new
    · refine compared.restApart y sentMem z ?_
      rcases List.mem_append.mp zMem with keptMem | restMem
      · obtain ⟨other, otherMem, rfl⟩ := List.mem_map.mp keptMem
        exact List.mem_append_left _ (List.mem_map_of_mem (sub other otherMem))
      · exact List.mem_append_right _ restMem
    · rw [List.mem_singleton.mp new]
      rcases List.mem_append.mp zMem with keptMem | restMem
      · exact slotApart z keptMem
      · exact met z restMem
  · exact fun other keptMem => compared.ofLastPass other (sub other keptMem)
  · exact fun other keptMem => compared.ofThisPass other (sub other keptMem)

/-- The overflow becomes the source of the next pass. -/
theorem Compared.switch (compared : Compared r sent slots [] overflow timestampIn)
    (early : ∀ slot ∈ slots, slot.timestamp < timestampIn) :
    Compared r sent slots overflow [] 0 where
  sentApart := compared.sentApart
  restApart y sentMem z zMem := compared.restApart y sentMem z (by simpa using zMem)
  slotsApart := compared.slotsApart
  ofLastPass slot slotMem _ y yMem :=
    compared.ofThisPass slot slotMem (early slot slotMem) y (by simpa using yMem)
  ofThisPass slot _ contra := absurd contra (Nat.not_lt_zero _)

end Compared

/-! ## Covers -/

section HeldCovers

variable {r : T → T → Prop} {input sent pending overflow : List T} {x : T}
variable {slots kept : List (TupleWindowSlot T R)}

theorem heldCovers_init (r : T → T → Prop) (input : List T) :
    HeldCovers r input [] ([] : List (TupleWindowSlot T R)) input [] := by
  simpa [HeldCovers] using Covers.refl r input

/-- The next tuple of the source as the candidate of a scan. -/
theorem HeldCovers.candidate (covers : HeldCovers r input sent slots (x :: pending) overflow) :
    Covers r (x :: (tuplesOf slots ++ (pending ++ (overflow ++ sent)))) input :=
  covers.perm List.perm_middle

theorem heldCovers_store {stored : List (TupleWindowSlot T R)} {new : TupleWindowSlot T R}
    (added : stored.Perm (new :: kept))
    (covers : Covers r (new.tuple :: (tuplesOf kept ++ (pending ++ (overflow ++ sent)))) input) :
    HeldCovers r input sent stored pending overflow :=
  covers.perm ((added.map TupleWindowSlot.tuple).symm.append_right _)

theorem heldCovers_spill
    (covers : Covers r (x :: (tuplesOf kept ++ (pending ++ (overflow ++ sent)))) input) :
    HeldCovers r input sent kept pending (overflow ++ [x]) := by
  refine covers.perm ?_
  have moved : (x :: (tuplesOf kept ++ pending ++ overflow ++ sent)).Perm
      (tuplesOf kept ++ pending ++ overflow ++ x :: sent) := List.perm_middle.symm
  simpa only [List.append_assoc, List.cons_append, List.nil_append] using moved

theorem HeldCovers.emit (covers : HeldCovers r input sent slots pending overflow)
    {slot : TupleWindowSlot T R} (split : slots.Perm (slot :: kept)) :
    HeldCovers r input (sent ++ [slot.tuple]) kept pending overflow := by
  refine covers.perm (((split.map TupleWindowSlot.tuple).append_right _).trans ?_)
  have moved : (slot.tuple :: (tuplesOf kept ++ pending ++ overflow ++ sent)).Perm
      (tuplesOf kept ++ pending ++ overflow ++ sent ++ [slot.tuple]) :=
    (List.perm_append_singleton _ _).symm
  simpa only [List.append_assoc, List.map_cons, List.cons_append] using moved

theorem HeldCovers.switch (covers : HeldCovers r input sent slots [] overflow) :
    HeldCovers r input sent slots overflow [] :=
  covers

end HeldCovers

end PgSkyline.BlockNestedLoop
