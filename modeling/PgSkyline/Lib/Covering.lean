import Mathlib.Data.List.Perm.Basic
import Mathlib.Data.List.Count
import Mathlib.Data.List.Pairwise
import Mathlib.Order.Defs.Unbundled

/-!
# Covering a list by the members that survive elimination

An elimination procedure shortens a list by dropping members that some other
member beats.  What is left *covers* the original list: the original splits, as
a multiset, into the kept members and members beaten by a kept one.

For a transitive relation covering survives further eliminations, so a single
invariant serves any interleaving of comparisons.  Once no two kept members beat
each other, the kept members are exactly the unbeaten members of the original
list (strict reading), or one representative of each class of its minimal
members (reflexive reading).
-/

namespace Covering

universe u

variable {α : Type u} {r : α → α → Prop}

/-- `whole` splits into `kept` and members beaten by a member of `kept`. -/
def Covers (r : α → α → Prop) (kept whole : List α) : Prop :=
  ∃ gone, whole.Perm (kept ++ gone) ∧ ∀ x ∈ gone, ∃ k ∈ kept, r k x

/-- Neither of the two members beats the other. -/
def Apart (r : α → α → Prop) (x y : α) : Prop :=
  ¬ r x y ∧ ¬ r y x

theorem Apart.symm {x y : α} (apart : Apart r x y) : Apart r y x :=
  ⟨apart.2, apart.1⟩

instance : Std.Symm (Apart r) :=
  ⟨fun _ _ => Apart.symm⟩

theorem Covers.refl (r : α → α → Prop) (whole : List α) : Covers r whole whole :=
  ⟨[], by simp, by simp⟩

theorem Covers.perm {kept kept' whole : List α} (covers : Covers r kept whole)
    (same : kept.Perm kept') : Covers r kept' whole := by
  obtain ⟨gone, split, beaten⟩ := covers
  refine ⟨gone, split.trans (same.append_right gone), ?_⟩
  intro x goneMem
  obtain ⟨k, keptMem, beats⟩ := beaten x goneMem
  exact ⟨k, same.mem_iff.mp keptMem, beats⟩

/-- Every member of a covered list is kept or beaten by a kept member. -/
theorem Covers.mem_or_beaten {kept whole : List α} (covers : Covers r kept whole)
    {x : α} (wholeMem : x ∈ whole) : x ∈ kept ∨ ∃ k ∈ kept, r k x := by
  obtain ⟨gone, split, beaten⟩ := covers
  rcases List.mem_append.mp (split.mem_iff.mp wholeMem) with keptMem | goneMem
  · exact Or.inl keptMem
  · exact Or.inr (beaten x goneMem)

theorem Covers.mem_of_kept {kept whole : List α} (covers : Covers r kept whole)
    {x : α} (keptMem : x ∈ kept) : x ∈ whole := by
  obtain ⟨gone, split, _⟩ := covers
  exact split.mem_iff.mpr (List.mem_append_left gone keptMem)

/-- Dropping a member that another kept member beats keeps the cover: whatever
the dropped member accounted for is beaten by its own victor. -/
theorem Covers.drop [IsTrans α r] {x : α} {kept whole : List α}
    (covers : Covers r (x :: kept) whole) {k : α} (keptMem : k ∈ kept)
    (beats : r k x) : Covers r kept whole := by
  obtain ⟨gone, split, beaten⟩ := covers
  refine ⟨x :: gone, ?_, ?_⟩
  · exact split.trans (@List.perm_middle α x kept gone).symm
  · intro y goneMem
    rcases List.mem_cons.mp goneMem with rfl | goneMem
    · exact ⟨k, keptMem, beats⟩
    · obtain ⟨victor, victorMem, victorBeats⟩ := beaten y goneMem
      rcases List.mem_cons.mp victorMem with rfl | victorMem
      · exact ⟨k, keptMem, IsTrans.trans _ _ _ beats victorBeats⟩
      · exact ⟨victor, victorMem, victorBeats⟩

/-- Dropping several members, each beaten by one that stays. -/
theorem Covers.drop_all [IsTrans α r] {dropped kept whole : List α}
    (covers : Covers r (dropped ++ kept) whole)
    (beaten : ∀ x ∈ dropped, ∃ k ∈ kept, r k x) : Covers r kept whole := by
  induction dropped with
  | nil => exact covers
  | cons x rest ih =>
      obtain ⟨k, keptMem, beats⟩ := beaten x List.mem_cons_self
      apply ih
      · exact covers.drop (List.mem_append_right rest keptMem) beats
      · exact fun y restMem => beaten y (List.mem_cons_of_mem x restMem)

/-! ## Strict reading: the unbeaten members -/

/-- The kept members beat what the whole list beats. -/
theorem Covers.unbeaten_iff [IsTrans α r] {kept whole : List α} (covers : Covers r kept whole)
    (x : α) : (∀ y ∈ kept, ¬ r y x) ↔ ∀ y ∈ whole, ¬ r y x := by
  constructor
  · intro unbeaten y wholeMem beats
    rcases covers.mem_or_beaten wholeMem with yKept | ⟨victor, victorMem, victorBeats⟩
    · exact unbeaten y yKept beats
    · exact unbeaten victor victorMem (IsTrans.trans _ _ _ victorBeats beats)
  · intro unbeaten y keptMem
    exact unbeaten y (covers.mem_of_kept keptMem)

/-- Nothing that was dropped is unbeaten. -/
theorem Covers.perm_filter {kept whole : List α} (covers : Covers r kept whole)
    (unbeaten : α → Bool) (unbeaten_iff : ∀ x, unbeaten x = true ↔ ∀ y ∈ whole, ¬ r y x) :
    (kept.filter unbeaten).Perm (whole.filter unbeaten) := by
  rcases covers with ⟨gone, split, beaten⟩
  have goneBeaten : ∀ x ∈ gone, unbeaten x ≠ true := by
    intro x goneMem isUnbeaten
    rcases beaten x goneMem with ⟨k, keptMem, beats⟩
    have wholeMem : k ∈ whole := split.mem_iff.mpr (List.mem_append_left gone keptMem)
    exact (unbeaten_iff x).mp isUnbeaten k wholeMem beats
  have filtered : (kept ++ gone).filter unbeaten = kept.filter unbeaten := by
    rw [List.filter_append, List.filter_eq_nil_iff.mpr goneBeaten, List.append_nil]
  calc
    kept.filter unbeaten = (kept ++ gone).filter unbeaten := filtered.symm
    _ |>.Perm (whole.filter unbeaten) := (split.filter unbeaten).symm

/-- If the relation is irreflexive and the kept members are apart, the kept
members are the unbeaten members of the whole list, with multiplicity. -/
theorem Covers.perm_filter_unbeaten [IsTrans α r] (irrefl : ∀ x, ¬ r x x)
    {kept whole : List α} (covers : Covers r kept whole)
    (apart : kept.Pairwise (Apart r)) (unbeaten : α → Bool)
    (unbeaten_iff : ∀ x, unbeaten x = true ↔ ∀ y ∈ whole, ¬ r y x) :
    kept.Perm (whole.filter unbeaten) := by
  have keptUnbeaten : ∀ k ∈ kept, unbeaten k = true := by
    intro k keptMem
    rw [unbeaten_iff, ← covers.unbeaten_iff]
    intro y yMem
    by_cases same : y = k
    · subst y
      exact irrefl k
    · exact (apart.forall yMem keptMem same).1
  rw [← List.filter_eq_self.mpr keptUnbeaten]
  exact covers.perm_filter unbeaten unbeaten_iff

/-! ## Reflexive reading: representatives of the minimal classes -/

/-- If the kept members are apart, a kept member is minimal in the whole list. -/
theorem Covers.minimal_of_kept [IsTrans α r] (refl : ∀ x, r x x)
    {kept whole : List α} (covers : Covers r kept whole)
    (apart : kept.Pairwise (Apart r)) {k y : α} (keptMem : k ∈ kept)
    (wholeMem : y ∈ whole) (below : r y k) : r k y := by
  have victor : ∃ k' ∈ kept, r k' y := by
    rcases covers.mem_or_beaten wholeMem with yKept | beaten
    · exact ⟨y, yKept, refl y⟩
    · exact beaten
  obtain ⟨k', keptMem', below'⟩ := victor
  by_cases same : k' = k
  · exact same ▸ below'
  · have notBelow := (apart.forall keptMem' keptMem same).1
    exact absurd (IsTrans.trans _ _ _ below' below) notBelow

/-- At most one member of a list that is pairwise apart satisfies a predicate
that relates any two members satisfying it. -/
theorem countP_le_one_of_apart {kept : List α} (apart : kept.Pairwise (Apart r))
    (p : α → Bool) (related : ∀ x y, p x = true → p y = true → r x y) :
    kept.countP p ≤ 1 := by
  induction apart with
  | nil => simp
  | @cons x rest apartFirst _ ih =>
      by_cases first : p x = true
      · have restNone : rest.countP p = 0 := by
          refine List.countP_eq_zero.mpr fun y restMem second => ?_
          exact (apartFirst y restMem).1 (related x y first second)
        simp [first, restNone]
      · simpa [first] using ih

/-- If the kept members are apart, each minimal member of the whole list has
exactly one equivalent kept member. -/
theorem Covers.countP_equivalent_eq_one [IsTrans α r] (refl : ∀ x, r x x)
    {kept whole : List α} (covers : Covers r kept whole)
    (apart : kept.Pairwise (Apart r)) {x : α} (wholeMem : x ∈ whole)
    (minimal : ∀ y ∈ whole, r y x → r x y) (equivalent : α → Bool)
    (equivalent_iff : ∀ y, equivalent y = true ↔ r x y ∧ r y x) :
    kept.countP equivalent = 1 := by
  have victor : ∃ k ∈ kept, r k x := by
    rcases covers.mem_or_beaten wholeMem with xKept | beaten
    · exact ⟨x, xKept, refl x⟩
    · exact beaten
  obtain ⟨k, keptMem, below⟩ := victor
  have above := minimal k (covers.mem_of_kept keptMem) below
  have positive : 0 < kept.countP equivalent :=
    List.countP_pos_iff.mpr ⟨k, keptMem, (equivalent_iff k).mpr ⟨above, below⟩⟩
  have atMostOne : kept.countP equivalent ≤ 1 := by
    refine countP_le_one_of_apart apart equivalent fun y z first second => ?_
    exact IsTrans.trans _ _ _ ((equivalent_iff y).mp first).2 ((equivalent_iff z).mp second).1
  omega

end Covering
