import PgSkyline.Lib.Lockstep
import PgSkyline.Window.Pointers
import Mathlib.Data.List.InsertIdx

/-!
# The ring represents the list of slots

A window with pointers represents a window with positions if its ring holds the
slots of the list in their order and both cursors lead to the addresses at the
positions.  Every operation keeps this, and fails with a fault exactly if the
operation on the list does.
-/

namespace PgSkyline.LinkedWindow

open Ring

/-! ## Addresses at positions -/

section Addresses

variable {nil : Nat} {ring front back : List Nat}

/-- The address at a position of a ring; the sentinel is behind the last cell. -/
def addressAt (nil : Nat) (ring : List Nat) (pos : Nat) : Option Nat :=
  (ring ++ [nil])[pos]?

theorem addressAt_length (nil : Nat) (ring : List Nat) :
    addressAt nil ring ring.length = some nil :=
  List.getElem?_concat_length

theorem addressAt_append (nil : Nat) (front back : List Nat) :
    addressAt nil (front ++ back) front.length = some (back.headD nil) := by
  rw [addressAt, List.append_assoc, List.getElem?_append_right (Nat.le_refl _), Nat.sub_self]
  cases back with
  | nil => rfl
  | cons a back => rfl

theorem lt_of_addressAt {pos address : Nat} (found : addressAt nil ring pos = some address) :
    pos < ring.length + 1 := by
  rcases List.getElem?_eq_some_iff.mp found with ⟨inside, _⟩
  rwa [List.length_append, List.length_singleton] at inside

theorem mem_of_addressAt {pos address : Nat} (found : addressAt nil ring pos = some address) :
    address ∈ nil :: ring :=
  (List.perm_append_singleton nil ring).mem_iff.mp (List.mem_of_getElem? found)

private theorem exists_split_of_addressAt {pos address : Nat}
    (found : addressAt nil ring pos = some address) :
    ∃ front back, ring = front ++ back ∧ front.length = pos ∧ address = back.headD nil := by
  have inside := lt_of_addressAt found
  have length : (ring.take pos).length = pos :=
    List.length_take_of_le (Nat.le_of_lt_succ inside)
  have split := List.take_append_drop pos ring
  refine ⟨ring.take pos, ring.drop pos, split.symm, length, ?_⟩
  have same := addressAt_append nil (ring.take pos) (ring.drop pos)
  rw [split, length, found] at same
  exact Option.some.inj same

/-- The addresses of a ring are different. -/
theorem addressAt_inj (nodup : (nil :: ring).Nodup) {pos pos' address : Nat}
    (found : addressAt nil ring pos = some address)
    (found' : addressAt nil ring pos' = some address) : pos = pos' := by
  have inside := lt_of_addressAt found
  have rotated := (List.perm_append_singleton nil ring).nodup_iff.mpr nodup
  rw [← List.length_singleton (a := nil), ← List.length_append] at inside
  exact (List.getElem?_inj inside rotated).mp (found.trans found'.symm)

/-- Where a pointer leads after a cell was linked out. -/
theorem addressAt_remove {a pos address : Nat} (nodup : (nil :: (front ++ a :: back)).Nodup)
    (found : addressAt nil (front ++ a :: back) pos = some address) :
    addressAt nil (front ++ back) (positionAfterRemove front.length pos) =
      some (if address = a then back.headD nil else address) := by
  have removed := addressAt_append nil front (a :: back)
  rw [List.headD_cons] at removed
  by_cases same : address = a
  · rw [same] at found
    rw [addressAt_inj nodup found removed, positionAfterRemove, if_neg (Nat.lt_irrefl _),
      if_pos same]
    exact addressAt_append nil front back
  · rw [if_neg same, positionAfterRemove]
    rw [addressAt, List.append_assoc] at found ⊢
    rcases Nat.lt_trichotomy pos front.length with before | equal | behind
    · rw [if_neg (Nat.lt_asymm before), List.getElem?_append_left before]
      rwa [List.getElem?_append_left before] at found
    · rw [equal, ← List.append_assoc, ← addressAt, removed] at found
      exact absurd (Option.some.inj found).symm same
    · rw [if_pos behind, List.getElem?_append_right (Nat.le_sub_one_of_lt behind)]
      rw [List.getElem?_append_right (Nat.le_of_lt behind), List.cons_append,
        List.getElem?_cons, if_neg (Nat.sub_ne_zero_of_lt behind)] at found
      rwa [Nat.sub_right_comm]

/-- A pointer leads to the same address after a cell was linked in. -/
theorem addressAt_insert {pos address : Nat} (new : Nat)
    (found : addressAt nil (front ++ back) pos = some address) :
    addressAt nil (front ++ new :: back) (positionAfterInsert front.length pos) =
      some address := by
  rw [positionAfterInsert]
  rw [addressAt, List.append_assoc] at found ⊢
  rcases Nat.lt_or_ge pos front.length with before | behind
  · rw [if_neg (Nat.not_le_of_lt before), List.getElem?_append_left before]
    rwa [List.getElem?_append_left before] at found
  · rw [if_pos behind, List.getElem?_append_right (Nat.le_succ_of_le behind),
      Nat.succ_sub behind, List.cons_append, List.getElem?_cons_succ]
    rwa [List.getElem?_append_right behind] at found

end Addresses

/-! ## Representation -/

variable {T R : Type}

/-- The slot in memory that stands for a slot of the list. -/
def stored (slot : TupleWindowSlot T R) : TupleWindowSlot (Option T) R :=
  ⟨some slot.tuple, slot.timestamp, slot.rank⟩

/-- A cursor leads to the address at its position, or to a freed chunk. -/
def CursorAt (slots : HandleTable (Cell (TupleWindowSlot (Option T) R))) (nil : Nat)
    (ring : List Nat) (pointer : Nat) : Option Nat → Prop
  | some pos => addressAt nil ring pos = some pointer
  | none => Freed slots pointer

structure Represents (ring : List Nat) (state : LinkedWindow T R)
    (window : TupleWindowState T R) : Prop where
  isRing : IsRing state.slots state.nil ring
  values : ring.map (valueOf state.slots) = window.slots.map fun slot => some (stored slot)
  current : addressAt state.nil ring window.current = some state.current
  rankinsert : CursorAt state.slots state.nil ring state.rankinsert window.rankinsert
  availMem : state.availMem = window.availMem
  availSlots : state.availSlots = window.availSlots
  maxKBytes : state.maxKBytes = window.maxKBytes
  maxSlots : state.maxSlots = window.maxSlots
  policy : state.policy = window.policy
  insertrank : state.insertrank = window.insertrank

/-- The window with pointers represents the window with positions. -/
def Represented (state : LinkedWindow T R) (window : TupleWindowState T R) : Prop :=
  ∃ ring, Represents ring state window

variable {ring : List Nat} {state : LinkedWindow T R} {window : TupleWindowState T R}

theorem represents_begin (negDblMax dblMax : R) (maxKBytes maxSlots : Int)
    (policy : TupleWindowPolicy) :
    Represents (T := T) [] (begin negDblMax dblMax maxKBytes maxSlots policy)
      (TupleWindowState.begin negDblMax maxKBytes maxSlots policy) where
  isRing := isRing_nil rfl rfl
  values := rfl
  current := rfl
  rankinsert := rfl
  availMem := rfl
  availSlots := rfl
  maxKBytes := rfl
  maxSlots := rfl
  policy := rfl
  insertrank := rfl

namespace Represents

theorem length_eq (represents : Represents ring state window) :
    ring.length = window.slots.length := by
  have lengths := congrArg List.length represents.values
  rwa [List.length_map, List.length_map] at lengths

/-- The chunk that stands for a slot of the list. -/
theorem exists_chunk (represents : Represents ring state window)
    {done rest : List (TupleWindowSlot T R)} {slot : TupleWindowSlot T R}
    (split : window.slots = done ++ slot :: rest) :
    ∃ front a back chunk, ring = front ++ a :: back ∧ front.length = done.length ∧
      front.map (valueOf state.slots) = done.map (fun slot => some (stored slot)) ∧
      back.map (valueOf state.slots) = rest.map (fun slot => some (stored slot)) ∧
      state.slots.read a = some chunk ∧ chunk.value = stored slot ∧
      chunk.next = back.headD state.nil := by
  have values := represents.values
  rw [split, List.map_append, List.map_cons] at values
  rcases List.map_eq_append_iff.mp values with ⟨front, tail, rfl, frontValues, tailValues⟩
  rcases List.map_eq_cons_iff.mp tailValues with ⟨a, back, rfl, value, backValues⟩
  rcases Option.map_eq_some_iff.mp value with ⟨chunk, found, chunkValue⟩
  have next := represents.isRing.nextOf_cell
  rw [nextOf, found, Option.map_some, Option.some.injEq] at next
  have lengths := congrArg List.length frontValues
  rw [List.length_map, List.length_map] at lengths
  exact ⟨front, a, back, chunk, rfl, lengths, frontValues, backValues, found, chunkValue, next⟩

/-- A pointer leads to the sentinel exactly if its position is behind the last
slot. -/
theorem eq_nil_iff (represents : Represents ring state window) {pos address : Nat}
    (found : addressAt state.nil ring pos = some address) :
    address = state.nil ↔ pos = window.slots.length := by
  rw [← represents.length_eq]
  constructor
  · rintro rfl
    exact addressAt_inj represents.isRing.nodup found (addressAt_length state.nil ring)
  · rintro rfl
    rw [addressAt_length, Option.some.injEq] at found
    exact found.symm

theorem atEof_eq (represents : Represents ring state window) :
    atEof state = TupleWindowState.atEof window := by
  rw [Bool.eq_iff_iff, atEof, TupleWindowState.atEof, beq_iff_eq, beq_iff_eq]
  exact represents.eq_nil_iff represents.current

theorem hasFreespace_eq (represents : Represents ring state window) :
    hasFreespace state = TupleWindowState.hasFreespace window := by
  rw [hasFreespace, TupleWindowState.hasFreespace, represents.availSlots, represents.availMem]

/-- A position in the window splits its slots. -/
theorem exists_split (represents : Represents ring state window) {pos address : Nat}
    (found : addressAt state.nil ring pos = some address) (notNil : address ≠ state.nil) :
    ∃ done slot rest, window.slots = done ++ slot :: rest ∧ pos = done.length := by
  have below := lt_of_addressAt found
  rw [represents.length_eq] at below
  have inside : pos < window.slots.length :=
    Nat.lt_of_le_of_ne (Nat.le_of_lt_succ below)
      fun atEnd => notNil ((represents.eq_nil_iff found).mpr atEnd)
  exact exists_split_at inside

/-- The chunk at a position in the window. -/
theorem exists_chunk_at (represents : Represents ring state window) {pos a : Nat}
    (found : addressAt state.nil ring pos = some a) (notNil : a ≠ state.nil) :
    ∃ slot chunk, window.slots[pos]? = some slot ∧ state.slots.read a = some chunk ∧
      chunk.value = stored slot ∧ addressAt state.nil ring (pos + 1) = some chunk.next := by
  rcases represents.exists_split found notNil with ⟨done, slot, rest, split, length⟩
  rcases represents.exists_chunk split with
    ⟨front, b, back, chunk, rfl, lengths, _, _, read, value, next⟩
  have behind := addressAt_append state.nil (front ++ [b]) back
  rw [List.append_assoc, List.length_append, List.length_singleton, ← next, lengths] at behind
  rw [length, ← lengths, addressAt_append, List.headD_cons, Option.some.injEq] at found
  subst b
  refine ⟨slot, chunk, ?_, read, value, length ▸ behind⟩
  rw [split, length, List.getElem?_append_right (Nat.le_refl _), Nat.sub_self]
  rfl

/-- The rank cursor is the other cursor exactly if it has the same position. -/
theorem current_eq_rankinsert_iff (represents : Represents ring state window) :
    state.current = state.rankinsert ↔ window.rankinsert = some window.current := by
  have here := represents.current
  have cursor := represents.rankinsert
  cases position : window.rankinsert with
  | none =>
      rw [position] at cursor
      constructor
      · intro same
        rw [← same] at cursor
        have live := represents.isRing.not_freed (mem_of_addressAt here)
        exact absurd cursor live
      · exact fun impossible => by cases impossible
  | some pos =>
      rw [position] at cursor
      rw [Option.some.injEq]
      constructor
      · intro same
        rw [← same] at cursor
        exact addressAt_inj represents.isRing.nodup cursor here
      · rintro rfl
        exact Option.some.inj (here.symm.trans cursor)

end Represents

/-- A cursor after a chunk was linked out and freed. -/
theorem CursorAt.remove {slots slots' : HandleTable (Cell (TupleWindowSlot (Option T) R))}
    {nil a pointer : Nat} {front back : List Nat} {cursor : Option Nat}
    (at_ : CursorAt slots nil (front ++ a :: back) pointer cursor)
    (isRing : IsRing slots nil (front ++ a :: back))
    (values : ∀ b, valueOf slots' b = if b = a then none else valueOf slots b)
    (length : slots'.cells.length = slots.cells.length) :
    CursorAt slots' nil (front ++ back) (if pointer = a then back.headD nil else pointer)
      (cursor.map (positionAfterRemove front.length)) := by
  cases cursor with
  | some pos => exact addressAt_remove isRing.nodup at_
  | none =>
      have other : pointer ≠ a := by
        rintro rfl
        exact isRing.not_freed
          (List.mem_cons_of_mem nil (List.mem_append_right front List.mem_cons_self)) at_
      rw [if_neg other]
      constructor
      · rw [length]
        exact at_.1
      · rw [values, if_neg other]
        exact at_.2

/-- A cursor after a chunk was linked in. -/
theorem CursorAt.insert {slots slots' : HandleTable (Cell (TupleWindowSlot (Option T) R))}
    {nil pointer : Nat} {front back : List Nat} {cursor : Option Nat}
    {value : TupleWindowSlot (Option T) R}
    (at_ : CursorAt slots nil (front ++ back) pointer cursor)
    (values : ∀ b, valueOf slots' b =
      if b = slots.cells.length then some value else valueOf slots b)
    (length : slots'.cells.length = slots.cells.length + 1) :
    CursorAt slots' nil (front ++ slots.cells.length :: back) pointer
      (cursor.map (positionAfterInsert front.length)) := by
  cases cursor with
  | some pos => exact addressAt_insert _ at_
  | none =>
      constructor
      · rw [length]
        exact Nat.lt_succ_of_lt at_.1
      · rw [values, if_neg (Nat.ne_of_lt at_.1)]
        exact at_.2

/-! ## Operations -/

variable (space : ChunkSpace T)

theorem removeSlot_lockstep (represents : Represents ring state window) {pos a : Nat}
    (found : addressAt state.nil ring pos = some a) :
    Lockstep Represented (removeSlot space state a)
      (TupleWindowState.removeSlot space window pos) := by
  by_cases notNil : a = state.nil
  · have atEnd := (represents.eq_nil_iff found).mp notNil
    rw [removeSlot, TupleWindowState.removeSlot, atEnd, notNil, bne_self_eq_false,
      List.getElem?_length]
    exact .error _
  · rcases represents.exists_split found notNil with ⟨done, slot, rest, split, rfl⟩
    rcases represents.exists_chunk split with
      ⟨front, b, back, chunk, rfl, lengths, frontValues, backValues, read, value, next⟩
    rw [← lengths, addressAt_append, List.headD_cons, Option.some.injEq] at found
    subst b
    rcases represents.isRing.unlink_release with ⟨slots, unlinked, isRing, values, length⟩
    have slotFound : window.slots[done.length]? = some slot := by
      rw [split, List.getElem?_append_right (Nat.le_refl _), Nat.sub_self]
      rfl
    have erased : window.slots.eraseIdx done.length = done ++ rest := by
      rw [split, List.eraseIdx_append_of_length_le (Nat.le_refl _), Nat.sub_self]
      rfl
    have asserted : (a != state.nil) = true := bne_iff_ne.mpr notNil
    have tuple : nonNull chunk.value.tuple = .ok slot.tuple := by
      rw [value]
      rfl
    simp only [removeSlot, TupleWindowState.removeSlot, asserted, assertThat_true, ok_bind, read,
      unlinked, follow_some, tuple, slotFound, pure_eq_ok]
    apply Lockstep.ok
    refine ⟨front ++ back, isRing, ?_, ?_, ?_, ?_, ?_, represents.maxKBytes,
      represents.maxSlots, represents.policy, represents.insertrank⟩
    · have nodup := represents.isRing.nodup
      rw [← List.cons_append, List.nodup_middle, List.nodup_cons] at nodup
      have kept : (front ++ back).map (valueOf (slots.release a)) =
          (front ++ back).map (valueOf state.slots) := by
        apply List.map_congr_left
        intro b mem
        rw [values, if_neg]
        rintro rfl
        exact nodup.1 (List.mem_cons_of_mem _ mem)
      rw [kept, erased, List.map_append, frontValues, backValues, List.map_append]
    · rw [next, ← lengths]
      exact addressAt_remove represents.isRing.nodup represents.current
    · rw [next, ← lengths]
      exact represents.rankinsert.remove represents.isRing values length
    · simp only [represents.availMem]
    · simp only [represents.availSlots]

theorem rewind_lockstep (represents : Represents ring state window) :
    Lockstep Represented (rewind state) (.ok (TupleWindowState.rewind window)) := by
  have first := @addressAt_append state.nil [] ring
  simp only [rewind, represents.isRing.nextOf_nil, follow_some, ok_bind, pure_eq_ok]
  apply Lockstep.ok
  exact ⟨ring, represents.isRing, represents.values, first, first, represents.availMem,
    represents.availSlots, represents.maxKBytes, represents.maxSlots, represents.policy,
    represents.insertrank⟩

theorem moveNext_lockstep [LE R] [DecidableLE R] (represents : Represents ring state window) :
    Lockstep Represented (moveNext state) (.ok (TupleWindowState.moveNext window)) := by
  by_cases atEnd : state.current = state.nil
  · have behind := (represents.eq_nil_iff represents.current).mp atEnd
    rw [moveNext, TupleWindowState.moveNext, behind, List.getElem?_length, atEof, atEnd,
      beq_self_eq_true, if_pos rfl]
    exact .ok ⟨ring, represents⟩
  · rcases represents.exists_chunk_at represents.current atEnd with
      ⟨slot, chunk, found, read, value, next⟩
    have notEof : atEof state = false := beq_eq_false_iff_ne.mpr atEnd
    simp only [moveNext, TupleWindowState.moveNext, notEof, found, read, follow_some, ok_bind,
      pure_eq_ok, Bool.false_eq_true, if_false]
    apply Lockstep.ok
    refine ⟨ring, represents.isRing, represents.values, next, ?_, represents.availMem,
      represents.availSlots, represents.maxKBytes, represents.maxSlots, represents.policy,
      represents.insertrank⟩
    simp only [represents.policy, represents.insertrank, represents.current_eq_rankinsert_iff,
      value, stored]
    split
    · exact next
    · exact represents.rankinsert

theorem timestampCurrent_lockstep (represents : Represents ring state window) :
    Lockstep Eq (timestampCurrent state) (TupleWindowState.timestampCurrent window) := by
  by_cases atEnd : state.current = state.nil
  · have behind := (represents.eq_nil_iff represents.current).mp atEnd
    rw [timestampCurrent, TupleWindowState.timestampCurrent, behind, List.getElem?_length, atEof,
      atEnd, beq_self_eq_true]
    exact .error _
  · rcases represents.exists_chunk_at represents.current atEnd with
      ⟨slot, chunk, found, read, value, _⟩
    have notEof : atEof state = false := beq_eq_false_iff_ne.mpr atEnd
    simp only [timestampCurrent, TupleWindowState.timestampCurrent, notEof, found, read,
      follow_some, ok_bind, pure_eq_ok, Bool.not_false, assertThat_true, value, stored]
    exact .ok rfl

theorem getTupleSlot_lockstep (represents : Represents ring state window) (removeit : Bool) :
    Lockstep (Lockstep.SameAnswer Represented) (getTupleSlot space state removeit)
      (TupleWindowState.getTupleSlot space window removeit) := by
  by_cases atEnd : state.current = state.nil
  · have behind := (represents.eq_nil_iff represents.current).mp atEnd
    rw [getTupleSlot, TupleWindowState.getTupleSlot, behind, List.getElem?_length, atEof, atEnd,
      beq_self_eq_true, if_pos rfl]
    exact .ok ⟨rfl, ring, represents⟩
  · rcases represents.exists_chunk_at represents.current atEnd with
      ⟨slot, chunk, found, read, value, _⟩
    have notEof : atEof state = false := beq_eq_false_iff_ne.mpr atEnd
    have tuple : nonNull chunk.value.tuple = .ok slot.tuple := by
      rw [value]
      rfl
    simp only [getTupleSlot, TupleWindowState.getTupleSlot, notEof, found, read, follow_some, tuple,
      ok_bind, pure_eq_ok, Bool.false_eq_true, if_false]
    cases removeit with
    | false => exact .ok ⟨rfl, ring, represents⟩
    | true =>
        apply (removeSlot_lockstep space represents represents.current).bind
        intro state' window' represented
        exact .ok ⟨rfl, represented⟩

theorem removeCurrent_lockstep (represents : Represents ring state window) :
    Lockstep Represented (removeCurrent space state)
      (TupleWindowState.removeCurrent space window) := by
  rw [removeCurrent, TupleWindowState.removeCurrent, represents.atEof_eq]
  cases TupleWindowState.atEof window with
  | true => exact .error _
  | false => exact removeSlot_lockstep space represents represents.current

theorem setInsertRank_lockstep (represents : Represents ring state window) (rank : R) :
    Lockstep Represented (setInsertRank state rank)
      (TupleWindowState.setInsertRank window rank) := by
  have first := @addressAt_append state.nil [] ring
  have rewound : (state.current == ring.headD state.nil) = (window.current == 0) := by
    rw [Bool.eq_iff_iff, beq_iff_eq, beq_iff_eq]
    constructor
    · intro same
      rw [← same] at first
      exact addressAt_inj represents.isRing.nodup represents.current first
    · intro same
      have here := represents.current
      rw [same] at here
      exact Option.some.inj (here.symm.trans first)
  simp only [setInsertRank, TupleWindowState.setInsertRank, represents.policy,
    represents.isRing.nextOf_nil, follow_some, ok_bind, rewound, pure_eq_ok]
  cases window.policy.isRanked with
  | false => exact .error _
  | true =>
      cases window.current == 0 with
      | false => exact .error _
      | true =>
          exact .ok ⟨ring, represents.isRing, represents.values, represents.current,
            represents.rankinsert, represents.availMem, represents.availSlots,
            represents.maxKBytes, represents.maxSlots, rfl, rfl⟩

/-! ### Cleaning -/

/-- The loop frees the rest of the ring. -/
theorem freeSlots_eq {nil : Nat} {rest : List Nat} {bound : Nat}
    {slots : HandleTable (Cell (TupleWindowSlot (Option T) R))}
    (chain : (rest ++ [nil]).IsChain (Linked slots)) (nodup : (rest ++ [nil]).Nodup)
    (held : ∀ a ∈ rest, ∃ slot : TupleWindowSlot T R, valueOf slots a = some (stored slot))
    (enough : rest.length < bound) :
    freeSlots nil bound slots (rest.headD nil) = .ok (rest.foldl HandleTable.release slots) := by
  induction rest generalizing bound slots with
  | nil =>
      cases bound with
      | zero => exact absurd enough (Nat.not_lt_zero _)
      | succ bound => exact if_pos rfl
  | cons a rest ih =>
      cases bound with
      | zero => exact absurd enough (Nat.not_lt_zero _)
      | succ bound =>
          rw [List.cons_append] at chain nodup
          have notNil : a ≠ nil := by
            rintro rfl
            exact (List.nodup_cons.mp nodup).1
              (List.mem_append_right rest (List.mem_singleton_self a))
          rcases held a List.mem_cons_self with ⟨slot, value⟩
          rcases Option.map_eq_some_iff.mp value with ⟨chunk, read, chunkValue⟩
          have head : (rest ++ [nil]).head? = some (rest.headD nil) := by
            cases rest with
            | nil => rfl
            | cons b rest => rfl
          rw [List.isChain_cons] at chain
          have next := (chain.1 _ head).1
          rw [nextOf, read, Option.map_some, Option.some.injEq] at next
          have later := ih (chain_release nodup chain.2) (List.nodup_cons.mp nodup).2 (by
            intro b mem
            have other : b ≠ a := by
              rintro rfl
              exact (List.nodup_cons.mp nodup).1 (List.mem_append_left [nil] mem)
            rcases held b (List.mem_cons_of_mem a mem) with ⟨slot', value'⟩
            refine ⟨slot', ?_⟩
            rwa [valueOf, HandleTable.read_release, if_neg other]) (Nat.lt_of_succ_lt_succ enough)
          have tuple : nonNull chunk.value.tuple = .ok slot.tuple := by
            rw [chunkValue]
            rfl
          simp only [freeSlots, List.headD_cons, notNil, if_false, read, follow_some, tuple,
            ok_bind, next, later, List.foldl_cons]

theorem clean_lockstep (represents : Represents ring state window) :
    Lockstep Represented (clean state) (.ok (TupleWindowState.clean window)) := by
  have isRing := represents.isRing
  have nodup := (List.perm_append_singleton state.nil ring).nodup_iff.mpr isRing.nodup
  have chain := (List.isChain_cons.mp isRing.chain).2
  have held : ∀ a ∈ ring, ∃ slot : TupleWindowSlot T R,
      valueOf state.slots a = some (stored slot) := by
    intro a mem
    have value := List.mem_map_of_mem (f := valueOf state.slots) mem
    rw [represents.values] at value
    rcases List.mem_map.mp value with ⟨slot, _, same⟩
    exact ⟨slot, same.symm⟩
  have freed := freeSlots_eq chain nodup held isRing.length_lt
  have read := read_foldl_release state.slots ring
  have length := length_foldl_release state.slots ring
  generalize ring.foldl HandleTable.release state.slots = freedSlots at freed read length
  have live : freedSlots.Live state.nil := by
    rw [HandleTable.Live, read, if_neg (List.nodup_cons.mp isRing.nodup).1]
    exact isRing.live state.nil List.mem_cons_self
  rcases exists_reset live with ⟨linked, slots, setNextEq, setPrevEq, empty, values, sameLength⟩
  simp only [clean, isRing.nextOf_nil, follow_some, ok_bind, freed, setNextEq, setPrevEq,
    pure_eq_ok]
  apply Lockstep.ok
  refine ⟨[], empty, rfl, rfl, ?_, ?_, represents.maxSlots, represents.maxKBytes,
    represents.maxSlots, represents.policy, represents.insertrank⟩
  · have freedAt : ∀ address, (address ∈ ring ∨ Freed state.slots address) →
        Freed slots address := by
      intro address gone
      have value : valueOf slots address = none := by
        rw [values, valueOf_eq_none_iff, read]
        rcases gone with inside | freedBefore
        · exact if_pos inside
        · rw [valueOf_eq_none_iff.mp freedBefore.2, ite_self]
      have given : address < state.slots.cells.length := by
        rcases gone with inside | freedBefore
        · exact HandleTable.lt_length_of_live
            (isRing.live address (List.mem_cons_of_mem state.nil inside))
        · exact freedBefore.1
      exact ⟨by rwa [sameLength, length], value⟩
    have cursor := represents.rankinsert
    simp only [TupleWindowState.clean]
    cases position : window.rankinsert with
    | none =>
        rw [position] at cursor
        rw [if_neg (by simp)]
        exact freedAt _ (Or.inr cursor)
    | some pos =>
        rw [position] at cursor
        by_cases atEnd : pos = window.slots.length
        · rw [if_pos (congrArg some atEnd), (represents.eq_nil_iff cursor).mpr atEnd]
          rfl
        · rw [if_neg (fun same => atEnd (Option.some.inj same))]
          apply freedAt
          have notNil := mt (represents.eq_nil_iff cursor).mp atEnd
          exact Or.inl ((List.mem_cons.mp (mem_of_addressAt cursor)).resolve_left notNil)
  · simp only [TupleWindowState.clean, represents.maxKBytes]

/-! ### Insertion -/

theorem putTupleSlotImpl_lockstep (represents : Represents ring state window) (tuple : T)
    (timestamp : Nat) {pos insertbefore : Nat}
    (found : addressAt state.nil ring pos = some insertbefore) (rank : R) :
    Lockstep Represented (putTupleSlotImpl space state tuple timestamp insertbefore rank)
      (TupleWindowState.putTupleSlotImpl space window tuple timestamp pos rank) := by
  rw [putTupleSlotImpl, TupleWindowState.putTupleSlotImpl, represents.availSlots]
  cases window.availSlots == -1 || decide (0 < window.availSlots) with
  | false => exact .error _
  | true =>
      have values := represents.values
      rcases exists_split_of_addressAt found with ⟨front, back, rfl, length, address⟩
      rw [List.map_append] at values
      rcases List.append_eq_map_iff.mp values with ⟨done, rest, split, frontValues, backValues⟩
      have lengths := congrArg List.length frontValues
      rw [List.length_map, List.length_map] at lengths
      rcases represents.isRing.insertBefore ⟨some tuple, timestamp, rank⟩ with
        ⟨slots, inserted, isRing, valuesAfter, lengthAfter⟩
      have insertIdx : window.slots.insertIdx pos ⟨tuple, timestamp, rank⟩ =
          done ++ ⟨tuple, timestamp, rank⟩ :: rest := by
        rw [split, ← length, ← lengths, insertIdx_append_length]
      rw [← address] at inserted
      simp only [assertThat_true, ok_bind, inserted, follow_some, pure_eq_ok]
      apply Lockstep.ok
      refine ⟨front ++ state.slots.cells.length :: back, isRing, ?_, ?_, ?_, ?_, rfl,
        represents.maxKBytes, represents.maxSlots, represents.policy, represents.insertrank⟩
      · have kept : ∀ part, part ⊆ front ++ back →
            part.map (valueOf slots) = part.map (valueOf state.slots) := by
          intro part inside
          apply List.map_congr_left
          intro b mem
          rw [valuesAfter, if_neg]
          exact represents.isRing.ne_length b (List.mem_cons_of_mem _ (inside mem))
        rw [List.map_append, List.map_cons, kept front (List.subset_append_left front back),
          kept back (List.subset_append_right front back), ← frontValues, ← backValues, valuesAfter,
          if_pos rfl]
        simp only [insertIdx, List.map_append, List.map_cons, stored]
      · rw [← length]
        exact addressAt_insert _ represents.current
      · rw [← length]
        exact represents.rankinsert.insert valuesAfter lengthAfter
      · simp only [represents.availMem]

theorem putUnranked_lockstep (negDblMax : R) (represents : Represents ring state window)
    (tuple : T) (timestamp : Nat) {pos insertbefore : Nat}
    (found : addressAt state.nil ring pos = some insertbefore) (forced : Bool) :
    Lockstep Represented (putUnranked space negDblMax state tuple timestamp insertbefore forced)
      (TupleWindowState.putUnranked space negDblMax window tuple timestamp pos forced) := by
  have put := putTupleSlotImpl_lockstep space represents tuple timestamp found negDblMax
  rw [putUnranked, TupleWindowState.putUnranked, represents.hasFreespace_eq]
  cases forced with
  | true =>
      cases TupleWindowState.hasFreespace window with
      | true => exact put
      | false => exact .ok ⟨ring, represents⟩
  | false =>
      cases TupleWindowState.hasFreespace window with
      | true => exact put
      | false => exact .error _

/-- The last slot precedes the sentinel. -/
theorem makeRoom_lockstep [LT R] [DecidableLT R] (represents : Represents ring state window)
    (forced : Bool) :
    Lockstep Represented (makeRoom space state forced)
      (TupleWindowState.makeRoom space window forced) := by
  rw [makeRoom, TupleWindowState.makeRoom, represents.hasFreespace_eq]
  cases forced && !TupleWindowState.hasFreespace window with
  | false => exact .ok ⟨ring, represents⟩
  | true =>
      simp only [if_true, represents.isRing.prevOf_nil, follow_some, ok_bind]
      rcases List.eq_nil_or_concat window.slots with empty | ⟨done, slot, concat⟩
      · have noCells : ring = [] := by
          rw [← List.length_eq_zero_iff, represents.length_eq, empty]
          rfl
        rw [empty, noCells, List.getLastD_nil, bne_self_eq_false]
        exact .error _
      · have split : window.slots = done ++ [slot] := by
          rw [concat, List.concat_eq_append]
        rcases represents.exists_chunk split with
          ⟨front, a, back, chunk, rfl, lengths, _, backValues, read, value, _⟩
        rw [List.map_nil, List.map_eq_nil_iff] at backValues
        subst backValues
        have found : addressAt state.nil (front ++ [a]) (window.slots.length - 1) = some a := by
          have here := addressAt_append state.nil front [a]
          rwa [lengths, List.headD_cons, ← Nat.add_sub_cancel (n := done.length) (m := 1),
            ← List.length_singleton (a := slot), ← List.length_append, ← split] at here
        have notNil : (a != state.nil) = true := by
          rw [bne_iff_ne]
          rintro same
          have nodup := (List.nodup_cons.mp represents.isRing.nodup).1
          exact nodup (same ▸ List.mem_append_right front (List.mem_singleton_self a))
        have last : (front ++ [a]).getLastD state.nil = a := by
          rw [List.getLastD_eq_getLast?, List.getLast?_concat, Option.getD_some]
        have lastSlot : window.slots.getLast? = some slot := by
          rw [split, List.getLast?_concat]
        simp only [last, notNil, assertThat_true, ok_bind, read, follow_some, lastSlot, value,
          stored, represents.insertrank]
        split
        · exact removeSlot_lockstep space represents found
        · exact .ok ⟨_, represents⟩

private theorem putRanked_lockstep [LT R] [DecidableLT R]
    (represents : Represents ring state window) (tuple : T) (timestamp : Nat) (forced : Bool) :
    Lockstep Represented (putRanked space state tuple timestamp forced)
      (TupleWindowState.putRanked space window tuple timestamp forced) := by
  apply (makeRoom_lockstep space represents forced).bind
  rintro roomy roomyWindow ⟨ring', represents'⟩
  rw [represents'.hasFreespace_eq, represents'.insertrank]
  cases free : TupleWindowState.hasFreespace roomyWindow with
  | false => exact .ok ⟨ring', represents'⟩
  | true =>
      have cursor := represents'.rankinsert
      cases position : roomyWindow.rankinsert with
      | some pos =>
          rw [position] at cursor
          exact putTupleSlotImpl_lockstep space represents' tuple timestamp cursor _
      | none =>
          rw [position] at cursor
          have dead : prevOf roomy.slots roomy.rankinsert = none := by
            rw [prevOf, valueOf_eq_none_iff.mp cursor.2]
            rfl
          have asserted : (roomy.availSlots == -1 || decide (0 < roomy.availSlots)) = true := by
            rw [← represents'.hasFreespace_eq, hasFreespace] at free
            by_cases memOnly : roomy.availSlots = -1
            · rw [memOnly]
              rfl
            · rw [if_pos memOnly] at free
              rw [free, Bool.or_true]
          simp only [if_true, putTupleSlotImpl, asserted, assertThat_true, ok_bind, insertBefore,
            dead, Option.bind_none, follow, error_bind]
          exact .error _

theorem putTupleSlot_lockstep [LT R] [DecidableLT R] (negDblMax : R)
    (represents : Represents ring state window) (tuple : T) (timestamp : Nat) (forced : Bool) :
    Lockstep Represented (putTupleSlot space negDblMax state tuple timestamp forced)
      (TupleWindowState.putTupleSlot space negDblMax window tuple timestamp forced) := by
  rw [putTupleSlot, TupleWindowState.putTupleSlot, represents.policy]
  cases window.policy with
  | append =>
      have atEnd := addressAt_length state.nil ring
      rw [represents.length_eq] at atEnd
      exact putUnranked_lockstep space negDblMax represents tuple timestamp atEnd forced
  | prepend =>
      have first := @addressAt_append state.nil [] ring
      simp only [represents.isRing.nextOf_nil, follow_some, ok_bind]
      exact putUnranked_lockstep space negDblMax represents tuple timestamp first forced
  | entropy | random => exact putRanked_lockstep space represents tuple timestamp forced

end PgSkyline.LinkedWindow
