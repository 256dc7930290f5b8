import Mathlib.Data.List.Chain
import Mathlib.Data.List.Nodup
import Mathlib.Data.List.Perm.Subperm
import PgSkyline.Lib.HandleTable

/-!
# Doubly linked rings

The cells of a table link to a next and to a previous cell.  A ring leads from a
sentinel through the listed cells and back to the sentinel, in both directions.
Addresses are handles, so the address of a cell that was given back is never
used again and reading it is an error.

The module has the assignments that link a cell in and out, and the lemmas that
say what they do to the list.
-/

namespace Ring

universe u

structure Cell (α : Type u) where
  value : α
  next : Nat
  prev : Nat

variable {α : Type u}

/-- The successor of the cell at an address. -/
def nextOf (cells : HandleTable (Cell α)) (address : Nat) : Option Nat :=
  (cells.read address).map Cell.next

/-- The predecessor of the cell at an address. -/
def prevOf (cells : HandleTable (Cell α)) (address : Nat) : Option Nat :=
  (cells.read address).map Cell.prev

/-- What the cell at an address holds. -/
def valueOf (cells : HandleTable (Cell α)) (address : Nat) : Option α :=
  (cells.read address).map Cell.value

/-- The assignment `address->next = target`. -/
def setNext (cells : HandleTable (Cell α)) (address target : Nat) :
    Option (HandleTable (Cell α)) :=
  (cells.read address).map fun cell => cells.write address { cell with next := target }

/-- The assignment `address->prev = target`. -/
def setPrev (cells : HandleTable (Cell α)) (address target : Nat) :
    Option (HandleTable (Cell α)) :=
  (cells.read address).map fun cell => cells.write address { cell with prev := target }

/-- Link a new cell in before the cell at an address. -/
def insertBefore (cells : HandleTable (Cell α)) (address : Nat) (value : α) :
    Option (HandleTable (Cell α)) :=
  (prevOf cells address).bind fun last =>
    (setNext (cells.alloc ⟨value, address, last⟩).2 last cells.cells.length).bind fun cells' =>
      setPrev cells' address cells.cells.length

/-- Link the cell at an address out. -/
def unlink (cells : HandleTable (Cell α)) (address : Nat) : Option (HandleTable (Cell α)) :=
  (cells.read address).bind fun cell =>
    (setNext cells cell.prev cell.next).bind fun cells' => setPrev cells' cell.next cell.prev

/-- Two cells follow each other. -/
def Linked (cells : HandleTable (Cell α)) (first second : Nat) : Prop :=
  nextOf cells first = some second ∧ prevOf cells second = some first

/-- The cells of the list form a ring through the sentinel, and none is in it
twice. -/
structure IsRing (cells : HandleTable (Cell α)) (nil : Nat) (ring : List Nat) : Prop where
  nodup : (nil :: ring).Nodup
  chain : (nil :: ring ++ [nil]).IsChain (Linked cells)

/-- The cell was given back. -/
def Freed (cells : HandleTable (Cell α)) (address : Nat) : Prop :=
  address < cells.cells.length ∧ valueOf cells address = none

/-! ## Single assignments -/

section Assignments

variable {cells cells' : HandleTable (Cell α)} {address target : Nat}

theorem valueOf_eq_none_iff : valueOf cells address = none ↔ cells.read address = none :=
  Option.map_eq_none_iff

theorem live_of_nextOf (found : nextOf cells address = some target) : cells.Live address := by
  intro dead
  rw [nextOf, dead] at found
  cases found

/-- Only one successor changes. -/
structure NextSet (cells : HandleTable (Cell α)) (address target : Nat)
    (cells' : HandleTable (Cell α)) : Prop where
  next : ∀ other, nextOf cells' other = if other = address then some target else nextOf cells other
  prev : ∀ other, prevOf cells' other = prevOf cells other
  value : ∀ other, valueOf cells' other = valueOf cells other
  length : cells'.cells.length = cells.cells.length

/-- Only one predecessor changes. -/
structure PrevSet (cells : HandleTable (Cell α)) (address target : Nat)
    (cells' : HandleTable (Cell α)) : Prop where
  next : ∀ other, nextOf cells' other = nextOf cells other
  prev : ∀ other, prevOf cells' other = if other = address then some target else prevOf cells other
  value : ∀ other, valueOf cells' other = valueOf cells other
  length : cells'.cells.length = cells.cells.length

theorem exists_setNext (live : cells.Live address) (target : Nat) :
    ∃ cells', setNext cells address target = some cells' ∧
      NextSet cells address target cells' := by
  rcases Option.ne_none_iff_exists'.mp live with ⟨cell, found⟩
  refine ⟨_, by rw [setNext, found, Option.map_some], ?_, ?_, ?_, ?_⟩
  · intro other
    rw [nextOf, HandleTable.read_write live]
    split
    · rfl
    · rfl
  · intro other
    rw [prevOf, HandleTable.read_write live, prevOf]
    split
    · next same => rw [same, found]; rfl
    · rfl
  · intro other
    rw [valueOf, HandleTable.read_write live, valueOf]
    split
    · next same => rw [same, found]; rfl
    · rfl
  · exact List.length_set

theorem exists_setPrev (live : cells.Live address) (target : Nat) :
    ∃ cells', setPrev cells address target = some cells' ∧
      PrevSet cells address target cells' := by
  rcases Option.ne_none_iff_exists'.mp live with ⟨cell, found⟩
  refine ⟨_, by rw [setPrev, found, Option.map_some], ?_, ?_, ?_, ?_⟩
  · intro other
    rw [nextOf, HandleTable.read_write live, nextOf]
    split
    · next same => rw [same, found]; rfl
    · rfl
  · intro other
    rw [prevOf, HandleTable.read_write live]
    split
    · rfl
    · rfl
  · intro other
    rw [valueOf, HandleTable.read_write live, valueOf]
    split
    · next same => rw [same, found]; rfl
    · rfl
  · exact List.length_set

theorem NextSet.live_iff (set : NextSet cells address target cells') (other : Nat) :
    cells'.Live other ↔ cells.Live other := by
  rw [HandleTable.Live, HandleTable.Live, ne_eq, ne_eq, ← valueOf_eq_none_iff, set.value other,
    valueOf_eq_none_iff]

end Assignments

/-! ## Rings -/

section Rings

variable {cells cells' : HandleTable (Cell α)} {nil : Nat} {ring front back : List Nat}

/-- A chain depends on the successors of all cells but the last and on the
predecessors of all cells but the first. -/
theorem chain_congr {addresses : List Nat} (chain : addresses.IsChain (Linked cells))
    (next : ∀ a ∈ addresses.dropLast, nextOf cells' a = nextOf cells a)
    (prev : ∀ b ∈ addresses.tail, prevOf cells' b = prevOf cells b) :
    addresses.IsChain (Linked cells') := by
  induction addresses with
  | nil => exact List.isChain_nil
  | cons a rest ih =>
      cases rest with
      | nil => exact List.isChain_singleton a
      | cons b rest =>
          rw [List.isChain_cons_cons] at chain ⊢
          rw [List.dropLast_cons_cons] at next
          rw [List.tail_cons] at prev
          constructor
          · constructor
            · rw [next a List.mem_cons_self]
              exact chain.1.1
            · rw [prev b List.mem_cons_self]
              exact chain.1.2
          · apply ih chain.2
            · exact fun c mem => next c (List.mem_cons_of_mem a mem)
            · exact fun c mem => prev c (List.mem_cons_of_mem b mem)

theorem isRing_nil (next : nextOf cells nil = some nil) (prev : prevOf cells nil = some nil) :
    IsRing cells nil [] where
  nodup := List.nodup_singleton nil
  chain := List.isChain_pair.mpr ⟨next, prev⟩

/-- The two arms of a ring that is cut open between `last` and `first`. -/
structure Cut (cells : HandleTable (Cell α)) (nil : Nat) (front back : List Nat)
    (last first : Nat) : Prop where
  nodup : (nil :: (front ++ back)).Nodup
  before : (nil :: front).getLast? = some last
  after : (back ++ [nil]).head? = some first
  frontChain : (nil :: front).IsChain (Linked cells)
  backChain : (back ++ [nil]).IsChain (Linked cells)

theorem IsRing.exists_cut (isRing : IsRing cells nil (front ++ back)) :
    ∃ last, Cut cells nil front back last (back.headD nil) ∧
      Linked cells last (back.headD nil) := by
  have chain := isRing.chain
  have first : (back ++ [nil]).head? = some (back.headD nil) := by
    cases back with
    | nil => rfl
    | cons b back => rfl
  have last := List.getLast?_eq_some_getLast (List.cons_ne_nil nil front)
  rw [← List.cons_append, List.append_assoc, List.isChain_append] at chain
  exact ⟨_, ⟨isRing.nodup, last, first, chain.1, chain.2.1⟩, chain.2.2 _ last _ first⟩

namespace Cut

variable {last first : Nat}

/-- Linking the arms closes the ring. -/
theorem isRing (cut : Cut cells nil front back last first) (link : Linked cells last first) :
    IsRing cells nil (front ++ back) where
  nodup := cut.nodup
  chain := by
    rw [← List.cons_append, List.append_assoc, List.isChain_append]
    refine ⟨cut.frontChain, cut.backChain, ?_⟩
    rintro a lastEq b firstEq
    rw [cut.before, Option.mem_some] at lastEq
    rw [cut.after, Option.mem_some] at firstEq
    rw [← lastEq, ← firstEq]
    exact link

theorem last_mem (cut : Cut cells nil front back last first) : last ∈ nil :: front :=
  List.mem_of_getLast? cut.before

theorem first_mem (cut : Cut cells nil front back last first) : first ∈ back ++ [nil] :=
  List.mem_of_head? cut.after

/-- Every cell but the sentinel has one place in the ring. -/
theorem nodup_rotated (cut : Cut cells nil front back last first) :
    (front ++ (back ++ [nil])).Nodup := by
  rw [← List.append_assoc]
  exact (List.perm_append_singleton nil (front ++ back)).nodup_iff.mpr cut.nodup

/-- Only the successor of `last` and the predecessor of `first` join the arms. -/
theorem congr (cut : Cut cells nil front back last first)
    (next : ∀ a ∈ nil :: (front ++ back), a ≠ last → nextOf cells' a = nextOf cells a)
    (prev : ∀ b ∈ nil :: (front ++ back), b ≠ first → prevOf cells' b = prevOf cells b) :
    Cut cells' nil front back last first := by
  have sources := cut.nodup
  have targets := cut.nodup_rotated
  rw [← List.cons_append, List.nodup_append] at sources
  rw [List.nodup_append] at targets
  have inRing : ∀ a, a ∈ nil :: front ∨ a ∈ back ++ [nil] → a ∈ nil :: (front ++ back) := by
    intro a mem
    simp only [List.mem_cons, List.mem_append, List.not_mem_nil] at mem ⊢
    tauto
  refine ⟨cut.nodup, cut.before, cut.after, ?_, ?_⟩
  · apply chain_congr cut.frontChain
    · intro a mem
      apply next a (inRing a (Or.inl (List.dropLast_subset _ mem)))
      rintro rfl
      have split := List.dropLast_append_getLast? a cut.before
      have nodup := sources.1
      rw [← split, List.nodup_append] at nodup
      exact nodup.2.2 a mem a (List.mem_singleton_self a) rfl
    · intro b mem
      rw [List.tail_cons] at mem
      apply prev b (inRing b (Or.inl (List.mem_cons_of_mem nil mem)))
      rintro rfl
      exact targets.2.2 b mem b cut.first_mem rfl
  · apply chain_congr cut.backChain
    · intro a mem
      rw [List.dropLast_concat] at mem
      apply next a (inRing a (Or.inr (List.mem_append_left _ mem)))
      rintro rfl
      exact sources.2.2 a cut.last_mem a mem rfl
    · intro b mem
      apply prev b (inRing b (Or.inr (List.mem_of_mem_tail mem)))
      rintro rfl
      have split := List.cons_head?_tail cut.after
      have nodup := targets.2.1
      rw [← split, List.nodup_cons] at nodup
      exact nodup.1 mem

theorem last_ring (cut : Cut cells nil front back last first) :
    last ∈ nil :: (front ++ back) := by
  rw [← List.cons_append]
  exact List.mem_append_left back cut.last_mem

theorem first_ring (cut : Cut cells nil front back last first) :
    first ∈ nil :: (front ++ back) := by
  rcases List.mem_append.mp cut.first_mem with mem | mem
  · exact List.mem_cons_of_mem nil (List.mem_append_right front mem)
  · rw [List.mem_singleton.mp mem]
    exact List.mem_cons_self

/-- The arms joined through a new cell. -/
theorem insert {new : Nat} (cut : Cut cells nil front back last first)
    (fresh : new ∉ nil :: (front ++ back))
    (next : ∀ a, nextOf cells' a =
      if a = last then some new else if a = new then some first else nextOf cells a)
    (prev : ∀ b, prevOf cells' b =
      if b = first then some new else if b = new then some last else prevOf cells b) :
    IsRing cells' nil (front ++ new :: back) := by
  have ne_new : ∀ a ∈ nil :: (front ++ back), a ≠ new := by
    rintro a mem rfl
    exact fresh mem
  have arms : Cut cells' nil front back last first := by
    apply cut.congr
    · intro a mem other
      rw [next, if_neg other, if_neg (ne_new a mem)]
    · intro b mem other
      rw [prev, if_neg other, if_neg (ne_new b mem)]
  have ahead : Linked cells' last new := by
    constructor
    · rw [next, if_pos rfl]
    · rw [prev, if_neg (Ne.symm (ne_new first cut.first_ring)), if_pos rfl]
  have behind : Linked cells' new first := by
    constructor
    · rw [next, if_neg (Ne.symm (ne_new last cut.last_ring)), if_pos rfl]
    · rw [prev, if_pos rfl]
  have extended : Cut cells' nil front (new :: back) last new := by
    refine ⟨?_, arms.before, rfl, arms.frontChain, ?_⟩
    · rw [← List.cons_append, List.nodup_middle, List.nodup_cons]
      exact ⟨fresh, arms.nodup⟩
    · rw [List.cons_append, List.isChain_cons]
      refine ⟨?_, arms.backChain⟩
      intro b mem
      rw [arms.after, Option.mem_some] at mem
      rw [← mem]
      exact behind
  exact extended.isRing ahead

/-- The arms joined directly. -/
theorem close (cut : Cut cells nil front back last first)
    (next : ∀ a ∈ nil :: (front ++ back), nextOf cells' a =
      if a = last then some first else nextOf cells a)
    (prev : ∀ b ∈ nil :: (front ++ back), prevOf cells' b =
      if b = first then some last else prevOf cells b) :
    IsRing cells' nil (front ++ back) := by
  have arms : Cut cells' nil front back last first := by
    apply cut.congr
    · intro a mem other
      rw [next a mem, if_neg other]
    · intro b mem other
      rw [prev b mem, if_neg other]
  apply arms.isRing
  constructor
  · rw [next last cut.last_ring, if_pos rfl]
  · rw [prev first cut.first_ring, if_pos rfl]

end Cut

/-- Every cell of a chain but the last has a successor. -/
theorem live_of_chain {addresses : List Nat} (chain : addresses.IsChain (Linked cells)) :
    ∀ a ∈ addresses.dropLast, cells.Live a := by
  induction addresses with
  | nil =>
      intro a mem
      cases mem
  | cons a rest ih =>
      cases rest with
      | nil =>
          intro b mem
          cases mem
      | cons b rest =>
          rw [List.isChain_cons_cons] at chain
          rw [List.dropLast_cons_cons, List.forall_mem_cons]
          exact ⟨live_of_nextOf chain.1.1, ih chain.2⟩

namespace IsRing

/-- The sentinel and the cells of a ring are live. -/
theorem live (isRing : IsRing cells nil ring) : ∀ a ∈ nil :: ring, cells.Live a := by
  have live := live_of_chain isRing.chain
  rwa [List.dropLast_concat] at live

theorem ne_length (isRing : IsRing cells nil ring) : ∀ a ∈ nil :: ring, a ≠ cells.cells.length :=
  fun a mem => Nat.ne_of_lt (HandleTable.lt_length_of_live (isRing.live a mem))

theorem not_freed (isRing : IsRing cells nil ring) {a : Nat} (mem : a ∈ nil :: ring) :
    ¬ Freed cells a :=
  fun freed => isRing.live a mem (valueOf_eq_none_iff.mp freed.2)

/-- The first cell follows the sentinel. -/
theorem nextOf_nil (isRing : IsRing cells nil ring) :
    nextOf cells nil = some (ring.headD nil) := by
  rcases @exists_cut α cells nil [] ring isRing with ⟨last, cut, link⟩
  cases cut.before
  exact link.1

/-- The last cell precedes the sentinel. -/
theorem prevOf_nil (isRing : IsRing cells nil ring) :
    prevOf cells nil = some (ring.getLastD nil) := by
  rw [← List.append_nil ring] at isRing
  rcases isRing.exists_cut with ⟨last, cut, link⟩
  have before := cut.before
  rw [List.getLast?_cons, Option.some.injEq] at before
  rw [List.getLastD_eq_getLast?, before]
  exact link.2

theorem nextOf_cell {a : Nat} (isRing : IsRing cells nil (front ++ a :: back)) :
    nextOf cells a = some (back.headD nil) := by
  have shifted : IsRing cells nil ((front ++ [a]) ++ back) := by
    rwa [List.append_assoc]
  rcases shifted.exists_cut with ⟨last, cut, link⟩
  have before := cut.before
  rw [← List.cons_append, List.getLast?_concat, Option.some.injEq] at before
  rw [before]
  exact link.1

/-- Linking a new cell in. -/
theorem insertBefore (isRing : IsRing cells nil (front ++ back)) (value : α) :
    ∃ cells', insertBefore cells (back.headD nil) value = some cells' ∧
      IsRing cells' nil (front ++ cells.cells.length :: back) ∧
      (∀ a, valueOf cells' a =
        if a = cells.cells.length then some value else valueOf cells a) ∧
      cells'.cells.length = cells.cells.length + 1 := by
  rcases isRing.exists_cut with ⟨last, cut, link⟩
  have fresh : cells.cells.length ∉ nil :: (front ++ back) :=
    fun mem => isRing.ne_length _ mem rfl
  have lastRing := cut.last_ring
  have firstRing := cut.first_ring
  generalize back.headD nil = first at *
  have read : ∀ a, (cells.alloc (⟨value, first, last⟩ : Cell α)).2.read a =
      if a = cells.cells.length then some ⟨value, first, last⟩ else cells.read a :=
    HandleTable.read_alloc cells _
  have kept : ∀ a ∈ nil :: (front ++ back),
      (cells.alloc (⟨value, first, last⟩ : Cell α)).2.Live a := by
    intro a mem
    rw [HandleTable.Live, read, if_neg (isRing.ne_length a mem)]
    exact isRing.live a mem
  rcases exists_setNext (kept last lastRing) cells.cells.length with ⟨linked, setNextEq, nextSet⟩
  have firstLive : linked.Live first := (nextSet.live_iff first).mpr (kept first firstRing)
  rcases exists_setPrev firstLive cells.cells.length with ⟨cells', setPrevEq, prevSet⟩
  refine ⟨cells', ?_, cut.insert fresh ?_ ?_, ?_, ?_⟩
  · rw [Ring.insertBefore, link.2, Option.bind_some, setNextEq, Option.bind_some, setPrevEq]
  · intro a
    rw [prevSet.next, nextSet.next, nextOf, read, nextOf, apply_ite (Option.map Cell.next)]
    rfl
  · intro b
    rw [prevSet.prev, nextSet.prev, prevOf, read, prevOf, apply_ite (Option.map Cell.prev)]
    rfl
  · intro a
    rw [prevSet.value, nextSet.value, valueOf, read, valueOf, apply_ite (Option.map Cell.value)]
    rfl
  · rw [prevSet.length, nextSet.length]
    exact List.length_append

/-- Linking a cell out and giving it back. -/
theorem unlink_release {a : Nat} (isRing : IsRing cells nil (front ++ a :: back)) :
    ∃ cells', unlink cells a = some cells' ∧
      IsRing (cells'.release a) nil (front ++ back) ∧
      (∀ b, valueOf (cells'.release a) b = if b = a then none else valueOf cells b) ∧
      (cells'.release a).cells.length = cells.cells.length := by
  rcases isRing.exists_cut with ⟨last, cut, link⟩
  have shifted : IsRing cells nil ((front ++ [a]) ++ back) := by
    rwa [List.append_assoc]
  rcases shifted.exists_cut with ⟨_, cut', _⟩
  have nodup := cut.nodup
  rw [← List.cons_append, List.nodup_middle, List.cons_append, List.nodup_cons] at nodup
  have opened : Cut cells nil front back last (back.headD nil) :=
    ⟨nodup.2, cut.before, cut'.after, cut.frontChain, cut'.backChain⟩
  have next := isRing.nextOf_cell
  have prev := link.2
  rw [List.headD_cons] at prev
  rcases Option.map_eq_some_iff.mp next with ⟨cell, found, cellNext⟩
  rw [prevOf, found, Option.map_some, Option.some.injEq] at prev
  have lastRing := opened.last_ring
  have firstRing := opened.first_ring
  generalize back.headD nil = first at *
  have live : ∀ b ∈ nil :: (front ++ back), cells.Live b := by
    intro b mem
    apply isRing.live b
    simp only [List.mem_cons, List.mem_append] at mem ⊢
    tauto
  rcases exists_setNext (live last lastRing) first with ⟨linked, setNextEq, nextSet⟩
  have firstLive : linked.Live first := (nextSet.live_iff first).mpr (live first firstRing)
  rcases exists_setPrev firstLive last with ⟨cells', setPrevEq, prevSet⟩
  have kept : ∀ b ∈ nil :: (front ++ back), (cells'.release a).read b = cells'.read b := by
    intro b mem
    rw [HandleTable.read_release, if_neg]
    rintro rfl
    exact nodup.1 mem
  refine ⟨cells', ?_, opened.close ?_ ?_, ?_, ?_⟩
  · rw [unlink, found, Option.bind_some, cellNext, prev, setNextEq, Option.bind_some, setPrevEq]
  · intro b mem
    rw [nextOf, kept b mem, ← nextOf, prevSet.next, nextSet.next]
  · intro b mem
    rw [prevOf, kept b mem, ← prevOf, prevSet.prev, nextSet.prev]
  · intro b
    rw [valueOf, HandleTable.read_release, apply_ite (Option.map Cell.value), ← valueOf,
      prevSet.value, nextSet.value]
    rfl
  · rw [← nextSet.length, ← prevSet.length]
    exact List.length_set

end IsRing

/-! ## Giving all cells back -/

/-- Behind a cell that is given back the chain goes on. -/
theorem chain_release {a : Nat} {addresses : List Nat} (nodup : (a :: addresses).Nodup)
    (chain : addresses.IsChain (Linked cells)) :
    addresses.IsChain (Linked (cells.release a)) := by
  have kept : ∀ b ∈ addresses, (cells.release a).read b = cells.read b := by
    intro b mem
    rw [HandleTable.read_release, if_neg]
    rintro rfl
    exact (List.nodup_cons.mp nodup).1 mem
  apply chain_congr chain
  · intro b mem
    rw [nextOf, kept b (List.dropLast_subset _ mem), nextOf]
  · intro b mem
    rw [prevOf, kept b (List.mem_of_mem_tail mem), prevOf]

theorem read_foldl_release (cells : HandleTable (Cell α)) (addresses : List Nat) (b : Nat) :
    (addresses.foldl HandleTable.release cells).read b =
      if b ∈ addresses then none else cells.read b := by
  induction addresses generalizing cells with
  | nil => rfl
  | cons a rest ih =>
      rw [List.foldl_cons, ih, HandleTable.read_release]
      by_cases later : b ∈ rest
      · rw [if_pos later, if_pos (List.mem_cons_of_mem a later)]
      · rw [if_neg later]
        by_cases same : b = a
        · rw [if_pos same, if_pos (same ▸ List.mem_cons_self)]
        · rw [if_neg same, if_neg]
          exact fun mem => (List.mem_cons.mp mem).elim same later

theorem length_foldl_release (cells : HandleTable (Cell α)) (addresses : List Nat) :
    (addresses.foldl HandleTable.release cells).cells.length = cells.cells.length := by
  induction addresses generalizing cells with
  | nil => rfl
  | cons a rest ih =>
      rw [List.foldl_cons, ih]
      exact List.length_set

/-- The cells of a ring are distinct handles, so there are fewer of them than
handles were given out. -/
theorem IsRing.length_lt (isRing : IsRing cells nil ring) : ring.length < cells.cells.length := by
  have below : nil :: ring ⊆ List.range cells.cells.length :=
    fun a mem => List.mem_range.mpr (HandleTable.lt_length_of_live (isRing.live a mem))
  have fewer := (List.subperm_of_subset isRing.nodup below).length_le
  rwa [List.length_cons, List.length_range] at fewer

/-- The sentinel linked to itself is an empty ring, whatever it was linked to. -/
theorem exists_reset (live : cells.Live nil) :
    ∃ linked cells', setNext cells nil nil = some linked ∧ setPrev linked nil nil = some cells' ∧
      IsRing cells' nil [] ∧ (∀ a, valueOf cells' a = valueOf cells a) ∧
      cells'.cells.length = cells.cells.length := by
  rcases exists_setNext live nil with ⟨linked, setNextEq, nextSet⟩
  rcases exists_setPrev ((nextSet.live_iff nil).mpr live) nil with ⟨cells', setPrevEq, prevSet⟩
  refine ⟨linked, cells', setNextEq, setPrevEq, isRing_nil ?_ ?_, ?_, ?_⟩
  · rw [prevSet.next, nextSet.next, if_pos rfl]
  · rw [prevSet.prev, if_pos rfl]
  · intro a
    rw [prevSet.value, nextSet.value]
  · rw [prevSet.length, nextSet.length]

end Rings

end Ring
