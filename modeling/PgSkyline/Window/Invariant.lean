import PgSkyline.Lib.Elimination
import PgSkyline.Window.Probe
import Mathlib.Data.List.InsertIdx

/-!
# Valid windows

The accounts of a window agree with its slots and its cursors point into it.
Every window operation of the executor keeps this, and a probe of a valid window
is an elimination scan of its slots.
-/

namespace PgSkyline.TupleWindowState

variable {T R : Type} (space : ChunkSpace T)

/-- The memory held by the slots of a window. -/
def heldMem (slots : List (TupleWindowSlot T R)) : Nat :=
  (slots.map fun slot => space.tuple slot.tuple + space.windowSlot).sum

/-- The accounts of a window agree with its slots. -/
structure Balanced (window : TupleWindowState T R) : Prop where
  availMem : window.availMem = window.maxKBytes * 1024 - heldMem space window.slots
  availSlots : window.availSlots =
    if window.maxSlots = -1 then -1 else window.maxSlots - window.slots.length
  atMost : window.maxSlots ≠ -1 → window.slots ≠ [] → (window.slots.length : Int) ≤ window.maxSlots

/-- Both cursors point into the window, the rank cursor not behind the other. -/
def CursorsValid (window : TupleWindowState T R) : Prop :=
  window.current ≤ window.slots.length ∧
    ∃ pos, window.rankinsert = some pos ∧ pos ≤ window.current

/-- The limits of a window, which no operation changes. -/
def SameLimits (window window' : TupleWindowState T R) : Prop :=
  window'.maxKBytes = window.maxKBytes ∧ window'.maxSlots = window.maxSlots ∧
    window'.policy = window.policy

/-- The capacities under which an empty window takes a tuple: at least one slot,
or no slot limit and a memory limit that is not negative. -/
def HasCapacity (maxKBytes maxSlots : Int) : Prop :=
  1 ≤ maxSlots ∨ (maxSlots = -1 ∧ 0 ≤ maxKBytes)

instance (maxKBytes maxSlots : Int) : Decidable (HasCapacity maxKBytes maxSlots) :=
  inferInstanceAs (Decidable (_ ∨ _))

/-- There is free space beside these slots: a slot is left, or without a slot limit
the memory is not overdrawn. -/
def HasRoom (maxKBytes maxSlots : Int) (slots : List (TupleWindowSlot T R)) : Prop :=
  if maxSlots = -1 then (heldMem space slots : Int) ≤ maxKBytes * 1024
  else (slots.length : Int) < maxSlots

variable {space}

theorem SameLimits.refl (window : TupleWindowState T R) : SameLimits window window :=
  ⟨rfl, rfl, rfl⟩

theorem SameLimits.trans {window window' window'' : TupleWindowState T R}
    (first : SameLimits window window') (second : SameLimits window' window'') :
    SameLimits window window'' :=
  ⟨second.1.trans first.1, second.2.1.trans first.2.1, second.2.2.trans first.2.2⟩

theorem balanced_begin (negDblMax : R) (maxKBytes maxSlots : Int) (policy : TupleWindowPolicy) :
    Balanced space (begin (T := T) negDblMax maxKBytes maxSlots policy) where
  availMem := by simp [begin, heldMem]
  availSlots := by
    simp only [begin, List.length_nil, Int.natCast_zero, Int.sub_zero]
    split
    · assumption
    · rfl
  atMost _ nonempty := absurd rfl nonempty

theorem cursorsValid_rewind (window : TupleWindowState T R) : CursorsValid (rewind window) :=
  ⟨Nat.zero_le _, 0, rfl, Nat.le_refl 0⟩

theorem balanced_rewind {window : TupleWindowState T R} (balanced : Balanced space window) :
    Balanced space (rewind window) :=
  ⟨balanced.availMem, balanced.availSlots, balanced.atMost⟩

theorem balanced_clean {window : TupleWindowState T R} : Balanced space (clean window) :=
  balanced_begin window.insertrank window.maxKBytes window.maxSlots window.policy |> fun fresh =>
    ⟨fresh.availMem, fresh.availSlots, fresh.atMost⟩

/-- Free space depends on the limits and the slots alone. -/
theorem hasFreespace_iff {window : TupleWindowState T R} (balanced : Balanced space window) :
    hasFreespace window = true ↔ HasRoom space window.maxKBytes window.maxSlots window.slots := by
  have mem := balanced.availMem
  have count := balanced.availSlots
  unfold hasFreespace HasRoom
  by_cases memOnly : window.maxSlots = -1
  · simp only [memOnly, if_true] at count
    rw [if_neg (not_not.mpr count), if_pos memOnly, Bool.not_eq_true', decide_eq_false_iff_not]
    omega
  · simp only [memOnly, if_false] at count
    have limited : window.availSlots ≠ -1 := by
      intro unlimited
      cases slots : window.slots with
      | nil => simp [slots] at count; omega
      | cons slot rest =>
          have atMost := balanced.atMost memOnly (by simp [slots])
          omega
    rw [if_pos limited, if_neg memOnly, decide_eq_true_eq]
    omega

theorem hasRoom_nil_iff {maxKBytes maxSlots : Int} :
    HasRoom space maxKBytes maxSlots ([] : List (TupleWindowSlot T R)) ↔
      HasCapacity maxKBytes maxSlots := by
  unfold HasRoom HasCapacity
  by_cases memOnly : maxSlots = -1
  · rw [if_pos memOnly]
    simp only [heldMem, List.map_nil, List.sum_nil, Int.natCast_zero]
    omega
  · rw [if_neg memOnly]
    simp only [List.length_nil, Int.natCast_zero]
    omega

/-! ## Single operations -/

theorem heldMem_append (first second : List (TupleWindowSlot T R)) :
    heldMem space (first ++ second) = heldMem space first + heldMem space second := by
  simp [heldMem]

theorem heldMem_cons (slot : TupleWindowSlot T R) (rest : List (TupleWindowSlot T R)) :
    heldMem space (slot :: rest) =
      space.tuple slot.tuple + space.windowSlot + heldMem space rest := by
  simp [heldMem]

private theorem heldMem_perm {first second : List (TupleWindowSlot T R)}
    (same : first.Perm second) : heldMem space first = heldMem space second :=
  (same.map _).sum_nat

/-- Unlinking a slot. -/
theorem removeSlot_spec {window : TupleWindowState T R} (balanced : Balanced space window)
    {done rest : List (TupleWindowSlot T R)} {slot : TupleWindowSlot T R}
    (split : window.slots = done ++ slot :: rest) :
    ∃ window', removeSlot space window done.length = .ok window' ∧
      window'.slots = done ++ rest ∧ Balanced space window' ∧ SameLimits window window' ∧
      window'.current = positionAfterRemove done.length window.current ∧
      window'.rankinsert = window.rankinsert.map (positionAfterRemove done.length) ∧
      window'.insertrank = window.insertrank := by
  have found : window.slots[done.length]? = some slot := by simp [split]
  have erased : window.slots.eraseIdx done.length = done ++ rest := by
    rw [split, List.eraseIdx_append_of_length_le (Nat.le_refl _), Nat.sub_self]
    rfl
  have mem := balanced.availMem
  have count := balanced.availSlots
  have atMost := balanced.atMost
  simp only [split, heldMem_append, heldMem_cons, List.length_append,
    List.length_cons] at mem count atMost
  unfold removeSlot
  rw [found]
  refine ⟨_, rfl, erased, ⟨?_, ?_, ?_⟩, ⟨rfl, rfl, rfl⟩, rfl, rfl, rfl⟩
  · simp only [erased, heldMem_append]
    push_cast at mem ⊢
    omega
  · simp only [erased, List.length_append]
    by_cases memOnly : window.maxSlots = -1
    · simp [count, memOnly]
    · have bound := atMost memOnly (by simp)
      simp only [memOnly, if_false] at count ⊢
      push_cast at count bound ⊢
      split <;> omega
  · simp only [erased, List.length_append]
    intro limited _
    have bound := atMost limited (by simp)
    push_cast at bound ⊢
    omega

private theorem removeCurrent_spec {window : TupleWindowState T R}
    (balanced : Balanced space window)
    (cursors : CursorsValid window) {done rest : List (TupleWindowSlot T R)}
    {slot : TupleWindowSlot T R} (split : window.slots = done ++ slot :: rest)
    (current : window.current = done.length) :
    ∃ window', removeCurrent space window = .ok window' ∧ window'.slots = done ++ rest ∧
      window'.current = done.length ∧ CursorsValid window' ∧ Balanced space window' ∧
      SameLimits window window' := by
  obtain ⟨window', removed, slots', balanced', limits, current', rank', _⟩ :=
    removeSlot_spec balanced split
  have notEof : atEof window = false := by simp [atEof, split, current]
  have currentEq : window'.current = done.length := by
    simp [current', current, positionAfterRemove]
  obtain ⟨_, pos, rank, behind⟩ := cursors
  refine ⟨window', ?_, slots', currentEq, ⟨?_, pos, ?_, ?_⟩, balanced', limits⟩
  · simp only [removeCurrent, notEof, Bool.not_false, assertThat_true, ok_bind, current, removed]
  · simp [currentEq, slots']
  · simp only [rank', rank, Option.map_some, positionAfterRemove]
    rw [if_neg (by omega)]
  · omega

/-- Moving on changes no slot. -/
theorem moveNext_frame [LE R] [DecidableLE R] {window : TupleWindowState T R}
    (balanced : Balanced space window) {done rest : List (TupleWindowSlot T R)}
    {slot : TupleWindowSlot T R} (split : window.slots = done ++ slot :: rest)
    (current : window.current = done.length) :
    (moveNext window).slots = window.slots ∧ (moveNext window).current = done.length + 1 ∧
      Balanced space (moveNext window) ∧ SameLimits window (moveNext window) := by
  have found : window.slots[window.current]? = some slot := by simp [split, current]
  simp only [moveNext, found]
  exact ⟨trivial, by rw [current], ⟨balanced.availMem, balanced.availSlots, balanced.atMost⟩,
    rfl, rfl, rfl⟩

theorem cursorsValid_moveNext [LE R] [DecidableLE R] {window : TupleWindowState T R}
    (cursors : CursorsValid window) {done rest : List (TupleWindowSlot T R)}
    {slot : TupleWindowSlot T R} (split : window.slots = done ++ slot :: rest)
    (current : window.current = done.length) : CursorsValid (moveNext window) := by
  have found : window.slots[window.current]? = some slot := by simp [split, current]
  obtain ⟨_, pos, rank, behind⟩ := cursors
  simp only [moveNext, found]
  constructor
  · simp [split, current]
  · by_cases follow : window.policy.isRanked = true ∧ window.rankinsert = some window.current ∧
        window.insertrank ≤ slot.rank
    · exact ⟨window.current + 1, by rw [if_pos follow], Nat.le_refl _⟩
    · exact ⟨pos, by rw [if_neg follow, rank], Nat.le_succ_of_le behind⟩

theorem getTupleSlot_false {window : TupleWindowState T R}
    {done rest : List (TupleWindowSlot T R)} {slot : TupleWindowSlot T R}
    (split : window.slots = done ++ slot :: rest) (current : window.current = done.length) :
    getTupleSlot space window false = .ok (some slot.tuple, window) := by
  have found : window.slots[window.current]? = some slot := by simp [split, current]
  simp [getTupleSlot, found]

/-- Fetching and removing the current slot. -/
theorem getTupleSlot_true {window : TupleWindowState T R} (balanced : Balanced space window)
    {done rest : List (TupleWindowSlot T R)} {slot : TupleWindowSlot T R}
    (split : window.slots = done ++ slot :: rest) (current : window.current = done.length) :
    ∃ window', getTupleSlot space window true = .ok (some slot.tuple, window') ∧
      window'.slots = done ++ rest ∧ window'.current = done.length ∧ Balanced space window' ∧
      SameLimits window window' := by
  have found : window.slots[done.length]? = some slot := by simp [split]
  obtain ⟨window', removed, slots', balanced', limits, current', _⟩ :=
    removeSlot_spec balanced split
  refine ⟨window', ?_, slots', ?_, balanced', limits⟩
  · simp only [getTupleSlot, current, found, if_true, removed, ok_bind, pure_eq_ok]
  · simp [current', current, positionAfterRemove]

theorem putTupleSlotImpl_spec {window : TupleWindowState T R} (balanced : Balanced space window)
    (free : hasFreespace window = true) (tuple : T) (timestamp : Nat) {pos : Nat}
    (inside : pos ≤ window.slots.length) (rank : R) :
    ∃ window', putTupleSlotImpl space window tuple timestamp pos rank = .ok window' ∧
      window'.slots.Perm (⟨tuple, timestamp, rank⟩ :: window.slots) ∧ Balanced space window' ∧
      SameLimits window window' := by
  have inserted := List.perm_insertIdx (⟨tuple, timestamp, rank⟩ : TupleWindowSlot T R)
    window.slots inside
  have mem := balanced.availMem
  have count := balanced.availSlots
  have enough : window.maxSlots ≠ -1 → 0 < window.availSlots := by
    intro limited
    have atMost := balanced.atMost limited
    unfold hasFreespace at free
    rw [if_neg limited] at count
    by_cases sentinel : window.availSlots = -1
    · cases slots : window.slots with
      | nil => simp [slots] at count; omega
      | cons slot rest => have bound := atMost (by simp [slots]); omega
    · simpa [sentinel] using free
  unfold putTupleSlotImpl
  have asserted : (window.availSlots == -1 || decide (0 < window.availSlots)) = true := by
    by_cases memOnly : window.maxSlots = -1
    · simp [count, memOnly]
    · simp [enough memOnly]
  simp only [asserted, assertThat_true, ok_bind, pure_eq_ok]
  refine ⟨_, rfl, inserted, ⟨?_, ?_, ?_⟩, rfl, rfl, rfl⟩
  · simp only [heldMem_perm inserted, heldMem_cons]
    push_cast at mem ⊢
    omega
  · simp only [inserted.length_eq, List.length_cons]
    by_cases memOnly : window.maxSlots = -1
    · simp [count, memOnly]
    · have positive := enough memOnly
      simp only [memOnly, if_false] at count ⊢
      push_cast at count ⊢
      split <;> omega
  · simp only [inserted.length_eq, List.length_cons]
    intro limited _
    have positive := enough limited
    simp only [limited, if_false] at count
    push_cast at count ⊢
    omega

/-- A put that is not forced adds the tuple to a window with free space. -/
theorem putTupleSlot_spec [LT R] [DecidableLT R] (negDblMax : R) {window : TupleWindowState T R}
    (balanced : Balanced space window) (cursors : CursorsValid window)
    (free : hasFreespace window = true) (tuple : T) (timestamp : Nat) :
    ∃ window' rank, putTupleSlot space negDblMax window tuple timestamp false = .ok window' ∧
      window'.slots.Perm (⟨tuple, timestamp, rank⟩ :: window.slots) ∧ Balanced space window' ∧
      SameLimits window window' := by
  obtain ⟨inside, pos, rankinsert, behind⟩ := cursors
  have unranked : ∀ before ≤ window.slots.length,
      ∃ window' rank, putUnranked space negDblMax window tuple timestamp before false =
          .ok window' ∧
        window'.slots.Perm (⟨tuple, timestamp, rank⟩ :: window.slots) ∧
        Balanced space window' ∧ SameLimits window window' := by
    intro before beforeInside
    obtain ⟨window', put, added⟩ :=
      putTupleSlotImpl_spec balanced free tuple timestamp beforeInside negDblMax
    exact ⟨window', negDblMax, by simp [putUnranked, free, put], added⟩
  have ranked : ∃ window' rank, putRanked space window tuple timestamp false = .ok window' ∧
      window'.slots.Perm (⟨tuple, timestamp, rank⟩ :: window.slots) ∧ Balanced space window' ∧
      SameLimits window window' := by
    obtain ⟨window', put, added⟩ := putTupleSlotImpl_spec balanced free tuple timestamp
      (Nat.le_trans behind inside) window.insertrank
    exact ⟨window', window.insertrank, by simp [putRanked, makeRoom, free, rankinsert, put], added⟩
  unfold putTupleSlot
  cases window.policy with
  | append => exact unranked _ (Nat.le_refl _)
  | prepend => exact unranked 0 (Nat.zero_le _)
  | entropy => exact ranked
  | random => exact ranked

/-- What a forced put leaves: slots of the window, and possibly the new tuple. -/
structure ForcedPut (space : ChunkSpace T) (window : TupleWindowState T R) (tuple : T)
    (window' : TupleWindowState T R) : Prop where
  slots : ∀ slot ∈ window'.slots, slot.tuple = tuple ∨ slot ∈ window.slots
  balanced : Balanced space window'
  limits : SameLimits window window'

/-- What a forced put inserts into: slots of the window, with the rank cursor inside. -/
structure RoomMade (space : ChunkSpace T) (window roomy : TupleWindowState T R) : Prop where
  slots : ∀ slot ∈ roomy.slots, slot ∈ window.slots
  rankinsert : ∃ pos, roomy.rankinsert = some pos ∧ pos ≤ roomy.slots.length
  balanced : Balanced space roomy
  limits : SameLimits window roomy

section Forced

variable {window roomy : TupleWindowState T R}

theorem roomMade_self (balanced : Balanced space window) (cursors : CursorsValid window) :
    RoomMade space window window := by
  obtain ⟨inside, pos, rankinsert, behind⟩ := cursors
  exact ⟨fun _ slotMem => slotMem, ⟨pos, rankinsert, Nat.le_trans behind inside⟩, balanced,
    SameLimits.refl window⟩

theorem RoomMade.forcedPut (room : RoomMade space window roomy) (tuple : T) :
    ForcedPut space window tuple roomy :=
  ⟨fun slot slotMem => Or.inr (room.slots slot slotMem), room.balanced, room.limits⟩

theorem RoomMade.putTupleSlotImpl (room : RoomMade space window roomy)
    (free : hasFreespace roomy = true) (tuple : T) (timestamp : Nat) {pos : Nat}
    (inside : pos ≤ roomy.slots.length) (rank : R) :
    ∃ window', putTupleSlotImpl space roomy tuple timestamp pos rank = .ok window' ∧
      ForcedPut space window tuple window' := by
  obtain ⟨window', put, added, balanced, limits⟩ :=
    putTupleSlotImpl_spec room.balanced free tuple timestamp inside rank
  refine ⟨window', put, fun slot slotMem => ?_, balanced, room.limits.trans limits⟩
  rcases List.mem_cons.mp (added.mem_iff.mp slotMem) with rfl | oldMem
  · exact Or.inl rfl
  · exact Or.inr (room.slots slot oldMem)

theorem putUnranked_forced_spec (negDblMax : R) (balanced : Balanced space window)
    (cursors : CursorsValid window) (tuple : T) (timestamp : Nat) {pos : Nat}
    (inside : pos ≤ window.slots.length) :
    ∃ window', putUnranked space negDblMax window tuple timestamp pos true = .ok window' ∧
      ForcedPut space window tuple window' := by
  have room := roomMade_self balanced cursors
  by_cases free : hasFreespace window = true
  · obtain ⟨window', put, forced⟩ := room.putTupleSlotImpl free tuple timestamp inside negDblMax
    exact ⟨window', by simp [putUnranked, free, put], forced⟩
  · exact ⟨window, by simp [putUnranked, free], room.forcedPut tuple⟩

variable [LT R] [DecidableLT R]

/-- A window that takes a tuple when it is empty has a slot to remove when it is
full. -/
theorem makeRoom_spec (balanced : Balanced space window) (cursors : CursorsValid window)
    (capacity : HasCapacity window.maxKBytes window.maxSlots) :
    ∃ roomy, makeRoom space window true = .ok roomy ∧ RoomMade space window roomy := by
  have unchanged := roomMade_self balanced cursors
  obtain ⟨inside, pos, rankinsert, behind⟩ := cursors
  by_cases free : hasFreespace window = true
  · exact ⟨window, by simp [makeRoom, free], unchanged⟩
  · have nonempty : window.slots ≠ [] :=
      fun empty => free ((hasFreespace_iff balanced).mpr (empty ▸ hasRoom_nil_iff.mpr capacity))
    obtain ⟨done, last, concat⟩ := (List.eq_nil_or_concat window.slots).resolve_left nonempty
    have slots : window.slots = done ++ [last] := by simpa using concat
    have lastEq : window.slots.getLast? = some last := by simp [slots]
    by_cases lower : last.rank < window.insertrank
    · obtain ⟨roomy, removed, slots', balanced', limits, _, rank', _⟩ :=
        removeSlot_spec balanced slots
      refine ⟨roomy, ?_, ?_, ?_, balanced', limits⟩
      · simpa [makeRoom, free, lastEq, lower, slots] using removed
      · intro slot slotMem
        rw [slots', List.append_nil] at slotMem
        rw [slots]
        exact List.mem_append_left _ slotMem
      · refine ⟨positionAfterRemove done.length pos, by simp [rank', rankinsert], ?_⟩
        simp only [slots', List.append_nil, positionAfterRemove]
        simp only [slots, List.length_append, List.length_singleton] at inside
        split <;> omega
    · exact ⟨window, by simp [makeRoom, free, lastEq, lower], unchanged⟩

theorem putRanked_forced_spec (balanced : Balanced space window) (cursors : CursorsValid window)
    (capacity : HasCapacity window.maxKBytes window.maxSlots) (tuple : T) (timestamp : Nat) :
    ∃ window', putRanked space window tuple timestamp true = .ok window' ∧
      ForcedPut space window tuple window' := by
  obtain ⟨roomy, made, room⟩ := makeRoom_spec balanced cursors capacity
  obtain ⟨pos, rankinsert, inside⟩ := room.rankinsert
  by_cases free : hasFreespace roomy = true
  · obtain ⟨window', put, forced⟩ :=
      room.putTupleSlotImpl free tuple timestamp inside roomy.insertrank
    exact ⟨window', by simp [putRanked, made, free, rankinsert, put], forced⟩
  · exact ⟨roomy, by simp [putRanked, made, free], room.forcedPut tuple⟩

/-- A forced put into a window that takes a tuple when it is empty.  The tuple
may be added, and the slot with the lowest rank may go. -/
theorem putTupleSlot_forced_spec (negDblMax : R) (balanced : Balanced space window)
    (cursors : CursorsValid window) (capacity : HasCapacity window.maxKBytes window.maxSlots)
    (tuple : T) (timestamp : Nat) :
    ∃ window', putTupleSlot space negDblMax window tuple timestamp true = .ok window' ∧
      ForcedPut space window tuple window' := by
  unfold putTupleSlot
  cases window.policy with
  | append => exact putUnranked_forced_spec negDblMax balanced cursors _ _ (Nat.le_refl _)
  | prepend => exact putUnranked_forced_spec negDblMax balanced cursors _ _ (Nat.zero_le _)
  | entropy => exact putRanked_forced_spec balanced cursors capacity _ _
  | random => exact putRanked_forced_spec balanced cursors capacity _ _

end Forced

/-! ## Probes -/

/-- A window tuple drops the probing tuple. -/
def slotStops (isDominating : T → SkylineCmp) (distinct : Bool)
    (slot : TupleWindowSlot T R) : Bool :=
  dropsSlot distinct (isDominating slot.tuple)

/-- The probing tuple dominates a window tuple. -/
def slotEvicted (isDominating : T → SkylineCmp) (slot : TupleWindowSlot T R) : Bool :=
  isDominating slot.tuple == .secondDominates

variable [LE R] [DecidableLE R]

/-- A probe that removes dominated window tuples is an elimination scan. -/
theorem probeLoop_removeCurrent (isDominating : T → SkylineCmp) (distinct : Bool) (fuel : Nat)
    {window : TupleWindowState T R} (innerSlot : Option T)
    {done rest : List (TupleWindowSlot T R)} (split : window.slots = done ++ rest)
    (current : window.current = done.length) (enough : rest.length < fuel)
    (cursors : CursorsValid window) (balanced : Balanced space window) :
    ∃ window' innerSlot', probeLoop space isDominating distinct (removeCurrent space) fuel window
        innerSlot = .ok ((Elimination.scan (slotStops isDominating distinct)
          (slotEvicted isDominating) rest).1, window', innerSlot') ∧
      window'.slots = done ++ (Elimination.scan (slotStops isDominating distinct)
        (slotEvicted isDominating) rest).2 ∧
      CursorsValid window' ∧ Balanced space window' ∧ SameLimits window window' := by
  induction fuel generalizing window innerSlot done rest with
  | zero => omega
  | succ fuel ih =>
      cases rest with
      | nil =>
          have atEnd : atEof window = true := by simp [atEof, split, current]
          exact ⟨window, innerSlot, by simp [probeLoop, atEnd], split, cursors, balanced,
            SameLimits.refl window⟩
      | cons slot rest =>
          have notEnd : atEof window = false := by simp [atEof, split, current]
          simp only [List.length_cons] at enough
          simp only [probeLoop, notEnd, Bool.false_eq_true, if_false,
            getTupleSlot_false split current, ok_bind]
          cases stop : slotStops isDominating distinct slot with
          | true =>
              rw [Elimination.scan_cons_of_stops _ _ rest stop]
              simp only [slotStops] at stop
              exact ⟨window, some slot.tuple, by simp [stop], split, cursors, balanced,
                SameLimits.refl window⟩
          | false =>
              have noStop : dropsSlot distinct (isDominating slot.tuple) = false := stop
              simp only [noStop, Bool.false_eq_true, if_false]
              cases evict : slotEvicted isDominating slot with
              | true =>
                  rw [Elimination.scan_cons_of_evicts _ _ rest stop evict]
                  have second : isDominating slot.tuple = .secondDominates := by
                    simpa [slotEvicted] using evict
                  obtain ⟨removed, step, slots, current', cursors', balanced', limits⟩ :=
                    removeCurrent_spec balanced cursors split current
                  obtain ⟨window', innerSlot', loop, slots', valid, balanced'', limits'⟩ :=
                    ih (some slot.tuple) slots current' (by omega) cursors' balanced'
                  refine ⟨window', innerSlot', ?_, slots', valid, balanced'', limits.trans limits'⟩
                  simp only [second, if_true, step, ok_bind, loop]
              | false =>
                  rw [Elimination.scan_cons_of_passes _ _ rest stop evict]
                  have notSecond : isDominating slot.tuple ≠ .secondDominates := by
                    simpa [slotEvicted] using evict
                  obtain ⟨slots, current', balanced', limits⟩ :=
                    moveNext_frame balanced split current
                  have cursors' := cursorsValid_moveNext cursors split current
                  have advanced : (moveNext window).slots = (done ++ [slot]) ++ rest := by
                    simp [slots, split]
                  obtain ⟨window', innerSlot', loop, slots', valid, balanced'', limits'⟩ :=
                    ih (some slot.tuple) advanced (by simp [current']) (by omega) cursors' balanced'
                  refine ⟨window', innerSlot', ?_, by simp [slots'], valid, balanced'',
                    limits.trans limits'⟩
                  simp only [notSecond, if_false, loop]

/-- A probe that must not meet a dominated window tuple leaves the slots as they
are, unless the assertion stops it. -/
theorem probeLoop_assertNotSecondDominates (isDominating : T → SkylineCmp) (distinct : Bool)
    (assertChecking : Bool) (fuel : Nat) {window : TupleWindowState T R} (innerSlot : Option T)
    {done rest : List (TupleWindowSlot T R)} (split : window.slots = done ++ rest)
    (current : window.current = done.length) (enough : rest.length < fuel)
    (cursors : CursorsValid window) (balanced : Balanced space window) :
    (assertChecking = true ∧ (∃ slot ∈ rest, slotEvicted isDominating slot = true) ∧
      probeLoop space isDominating distinct (assertNotSecondDominates assertChecking) fuel window
        innerSlot = .error (.assertion "cmp != SYKLINE_CMP_SECOND_DOMINATES")) ∨
    ∃ window' innerSlot', probeLoop space isDominating distinct
        (assertNotSecondDominates assertChecking) fuel window innerSlot =
          .ok (!rest.any (slotStops isDominating distinct), window', innerSlot') ∧
      window'.slots = window.slots ∧ CursorsValid window' ∧ Balanced space window' ∧
      SameLimits window window' := by
  induction fuel generalizing window innerSlot done rest with
  | zero => omega
  | succ fuel ih =>
      cases rest with
      | nil =>
          have atEnd : atEof window = true := by simp [atEof, split, current]
          exact Or.inr ⟨window, innerSlot, by simp [probeLoop, atEnd], rfl, cursors, balanced,
            SameLimits.refl window⟩
      | cons slot rest =>
          have notEnd : atEof window = false := by simp [atEof, split, current]
          simp only [List.length_cons] at enough
          simp only [probeLoop, notEnd, Bool.false_eq_true, if_false,
            getTupleSlot_false split current, ok_bind]
          cases stop : slotStops isDominating distinct slot with
          | true =>
              simp only [slotStops] at stop
              refine Or.inr ⟨window, some slot.tuple, ?_, rfl, cursors, balanced,
                SameLimits.refl window⟩
              simp [stop, slotStops]
          | false =>
              have noStop : dropsSlot distinct (isDominating slot.tuple) = false := stop
              obtain ⟨slots, current', balanced', limits⟩ :=
                moveNext_frame balanced split current
              have cursors' := cursorsValid_moveNext cursors split current
              have advanced : (moveNext window).slots = (done ++ [slot]) ++ rest := by
                simp [slots, split]
              have later := ih (some slot.tuple) advanced (by simp [current']) (by omega) cursors'
                balanced'
              simp only [noStop, Bool.false_eq_true, if_false, List.any_cons, stop, Bool.false_or]
              by_cases second : isDominating slot.tuple = .secondDominates
              · simp only [second, if_true, assertNotSecondDominates]
                cases assertChecking with
                | true =>
                    refine Or.inl ⟨rfl, ⟨slot, List.mem_cons_self, ?_⟩, rfl⟩
                    simp [slotEvicted, second]
                | false =>
                    rcases later with ⟨contra, _⟩ | ⟨window', innerSlot', loop, slots', valid⟩
                    · exact absurd contra (by simp)
                    · refine Or.inr ⟨window', innerSlot', loop, slots'.trans slots, valid.1,
                        valid.2.1, limits.trans valid.2.2⟩
              · simp only [second, if_false]
                rcases later with ⟨checked, ⟨bad, badMem, evict⟩, loop⟩ |
                  ⟨window', innerSlot', loop, slots', valid⟩
                · exact Or.inl ⟨checked, ⟨bad, List.mem_cons_of_mem slot badMem, evict⟩, loop⟩
                · exact Or.inr ⟨window', innerSlot', loop, slots'.trans slots, valid.1,
                    valid.2.1, limits.trans valid.2.2⟩

end PgSkyline.TupleWindowState
