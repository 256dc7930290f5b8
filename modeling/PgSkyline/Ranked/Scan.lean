import PgSkyline.Window.Invariant
import Mathlib.Order.Lattice

/-!
# Scanning a ranked window

While a window is scanned the rank cursor stays behind the passed slots of at
least the insert rank, and the slot it stays at is smaller.  So at the end of a
sorted window it is at the place of the new tuple, whichever slots were removed
on the way, and a forced put into a full window removes the slot that would come
last.
-/

namespace PgSkyline.TupleWindowState

variable {T R : Type} [LinearOrder R] {space : ChunkSpace T}

/-- The slots are ordered from the highest rank down. -/
def RankSorted (slots : List (TupleWindowSlot T R)) : Prop :=
  slots.Pairwise fun a b => b.rank ≤ a.rank

/-- The slots are split at the place of a new slot: behind those of at least its
rank and before those of smaller rank. -/
structure PlaceOf (rank : R) (front back : List (TupleWindowSlot T R)) : Prop where
  before : ∀ slot ∈ front, rank ≤ slot.rank
  behind : ∀ slot ∈ back, slot.rank < rank

/-- A scan has passed `done` and has `rest` ahead of it. -/
structure Scanning (window : TupleWindowState T R) (done rest : List (TupleWindowSlot T R)) :
    Prop where
  slots : window.slots = done ++ rest
  current : window.current = done.length
  ranked : window.policy.isRanked = true
  cursor : ∃ front back, done = front ++ back ∧ window.rankinsert = some front.length ∧
    (∀ slot ∈ front, window.insertrank ≤ slot.rank) ∧
    ∀ slot ∈ back.head?, slot.rank < window.insertrank

/-- What a scan keeps in the window. -/
structure Kept (space : ChunkSpace T) (window window' : TupleWindowState T R) : Prop where
  balanced : Balanced space window'
  limits : SameLimits window window'
  insertrank : window'.insertrank = window.insertrank

variable {window window' : TupleWindowState T R} {done rest : List (TupleWindowSlot T R)}
variable {slot : TupleWindowSlot T R}

omit [LinearOrder R] in
theorem Kept.refl (balanced : Balanced space window) : Kept space window window :=
  ⟨balanced, SameLimits.refl window, rfl⟩

omit [LinearOrder R] in
theorem Kept.trans {window'' : TupleWindowState T R} (first : Kept space window window')
    (second : Kept space window' window'') : Kept space window window'' :=
  ⟨second.balanced, first.limits.trans second.limits,
    second.insertrank.trans first.insertrank⟩

/-- A scan starts with both cursors at the first slot. -/
theorem scanning_rewind (ranked : window.policy.isRanked = true) (rank : R) :
    Scanning { rewind window with insertrank := rank } [] window.slots where
  slots := rfl
  current := rfl
  ranked := ranked
  cursor := by
    refine ⟨[], [], rfl, rfl, ?_, ?_⟩
    · exact fun slot mem => by cases mem
    · exact fun slot mem => by cases mem

/-- Moving past a slot takes the rank cursor along while the ranks suffice. -/
theorem Scanning.moveNext (scanning : Scanning window done (slot :: rest)) :
    Scanning (moveNext window) (done ++ [slot]) rest := by
  rcases scanning.cursor with ⟨front, back, split, rankinsert, before, next⟩
  have found : window.slots[window.current]? = some slot := by
    rw [scanning.slots, scanning.current, List.getElem?_append_right (Nat.le_refl _), Nat.sub_self]
    rfl
  rw [TupleWindowState.moveNext, found]
  refine ⟨?_, ?_, scanning.ranked, ?_⟩
  · rw [List.append_assoc]
    exact scanning.slots
  · rw [List.length_append, ← scanning.current]
    rfl
  · simp only [scanning.ranked, true_and, rankinsert, Option.some.injEq]
    cases back with
    | nil =>
        rw [List.append_nil] at split
        have here : front.length = window.current := by
          rw [scanning.current, split]
        by_cases enough : window.insertrank ≤ slot.rank
        · rw [if_pos ⟨here, enough⟩]
          refine ⟨front ++ [slot], [], by rw [split, List.append_nil], ?_, ?_, ?_⟩
          · rw [List.length_append, here]
            rfl
          · intro other mem
            rcases List.mem_append.mp mem with old | new
            · exact before other old
            · rw [List.mem_singleton.mp new]
              exact enough
          · exact fun other mem => by cases mem
        · rw [if_neg fun both => enough both.2]
          refine ⟨front, [slot], by rw [split], rfl, before, ?_⟩
          rintro other mem
          rw [List.head?_cons, Option.mem_some] at mem
          rw [← mem]
          exact not_le.mp enough
    | cons first back =>
        have passed : front.length ≠ window.current := by
          rw [scanning.current, split, List.length_append, List.length_cons]
          omega
        rw [if_neg fun both => passed both.1]
        exact ⟨front, first :: back ++ [slot], by rw [split, List.append_assoc], rfl, before, next⟩

/-- Removing the current slot leaves the rank cursor at its place, also if that was
the removed slot. -/
theorem Scanning.removeCurrent (scanning : Scanning window done (slot :: rest))
    (balanced : Balanced space window) :
    ∃ window', removeCurrent space window = .ok window' ∧ Scanning window' done rest ∧
      Kept space window window' := by
  rcases removeSlot_spec balanced scanning.slots with
    ⟨window', removed, slots, balanced', limits, current, rankinsert', insertrank⟩
  have notEof : atEof window = false := by
    rw [atEof, beq_eq_false_iff_ne, scanning.current, scanning.slots, List.length_append,
      List.length_cons]
    omega
  rcases scanning.cursor with ⟨front, back, split, rankinsert, before, next⟩
  refine ⟨window', ?_, ⟨slots, ?_, ?_, front, back, split, ?_, ?_, ?_⟩, balanced', limits,
    insertrank⟩
  · simp only [TupleWindowState.removeCurrent, notEof, Bool.not_false, assertThat_true, ok_bind,
      scanning.current, removed]
  · rw [current, scanning.current, positionAfterRemove, if_neg (Nat.lt_irrefl _)]
  · rw [limits.2.2]
    exact scanning.ranked
  · have notBehind : ¬ done.length < front.length := by
      rw [split, List.length_append]
      omega
    rw [rankinsert', rankinsert, Option.map_some, positionAfterRemove, if_neg notBehind]
  · rw [insertrank]
    exact before
  · rw [insertrank]
    exact next

/-- What a loop does with a window slot that the new tuple dominates: remove it or
move on. -/
def Proceeds (space : ChunkSpace T)
    (secondDominates : TupleWindowState T R → Except Fault (TupleWindowState T R)) : Prop :=
  ∀ window window' done slot rest, Balanced space window → Scanning window done (slot :: rest) →
    secondDominates window = .ok window' →
    ∃ passed, passed.Sublist [slot] ∧ Scanning window' (done ++ passed) rest ∧
      Kept space window window'

theorem Scanning.kept_moveNext (scanning : Scanning window done (slot :: rest))
    (balanced : Balanced space window) : Kept space window (TupleWindowState.moveNext window) := by
  rcases moveNext_frame balanced scanning.slots scanning.current with ⟨_, _, balanced', limits⟩
  refine ⟨balanced', limits, ?_⟩
  rw [TupleWindowState.moveNext]
  split
  · rfl
  · rfl

theorem proceeds_removeCurrent : Proceeds space (removeCurrent (R := R) space) := by
  intro window window' done slot rest balanced scanning evicted
  rcases scanning.removeCurrent balanced with ⟨window'', removed, scanning', kept⟩
  cases evicted.symm.trans removed
  exact ⟨[], List.nil_sublist _, by rwa [List.append_nil], kept⟩

theorem proceeds_assertNotSecondDominates (assertChecking : Bool) :
    Proceeds space (assertNotSecondDominates (T := T) (R := R) assertChecking) := by
  intro window window' done slot rest balanced scanning passed
  rcases (bind_eq_ok_iff _ _ _).mp passed with ⟨_, _, moved⟩
  cases moved
  exact ⟨[slot], List.Sublist.refl _, scanning.moveNext, scanning.kept_moveNext balanced⟩

/-- The loop scans the window, to its end unless it stops. -/
theorem probeLoop_scans {isDominating : T → SkylineCmp} {distinct : Bool}
    {secondDominates : TupleWindowState T R → Except Fault (TupleWindowState T R)}
    (proceeds : Proceeds space secondDominates) {fuel : Nat} {innerSlot innerSlot' : Option T}
    {atEnd : Bool} (balanced : Balanced space window) (scanning : Scanning window done rest)
    (looped : probeLoop space isDominating distinct secondDominates fuel window innerSlot =
      .ok (atEnd, window', innerSlot')) :
    ∃ done' rest', (done' ++ rest').Sublist (done ++ rest) ∧ Scanning window' done' rest' ∧
      Kept space window window' ∧ (atEnd = true → rest' = []) := by
  induction fuel generalizing window innerSlot done rest with
  | zero => cases looped
  | succ fuel ih =>
      rw [probeLoop] at looped
      cases rest with
      | nil =>
          have ended : atEof window = true := by
            rw [atEof, beq_iff_eq, scanning.current, scanning.slots, List.append_nil]
          rw [if_pos ended] at looped
          cases looped
          exact ⟨done, [], List.Sublist.refl _, scanning, Kept.refl balanced, fun _ => rfl⟩
      | cons slot rest =>
          have notEnded : ¬ atEof window = true := by
            rw [atEof, beq_iff_eq, scanning.current, scanning.slots, List.length_append,
              List.length_cons]
            omega
          rw [if_neg notEnded, getTupleSlot_false scanning.slots scanning.current,
            ok_bind] at looped
          simp only at looped
          split at looped
          · cases looped
            exact ⟨done, slot :: rest, List.Sublist.refl _, scanning, Kept.refl balanced,
              fun impossible => by cases impossible⟩
          · split at looped
            · rcases (bind_eq_ok_iff _ _ _).mp looped with ⟨middle, evicted, later⟩
              rcases proceeds window middle done slot rest balanced scanning evicted with
                ⟨passed, passedSub, scanning', kept⟩
              rcases ih kept.balanced scanning' later with
                ⟨done', rest', sub, scanning'', kept', ended⟩
              refine ⟨done', rest', sub.trans ?_, scanning'', kept.trans kept', ended⟩
              rw [List.append_assoc]
              exact (passedSub.append_right rest).append_left done
            · have kept := scanning.kept_moveNext balanced
              rcases ih kept.balanced scanning.moveNext looped with
                ⟨done', rest', sub, scanning', kept', ended⟩
              rw [List.append_assoc] at sub
              exact ⟨done', rest', sub, scanning', kept.trans kept', ended⟩

/-! ## Putting the tuple -/

/-- The rank cursor has found the place of the new slot. -/
theorem Scanning.exists_place (scanning : Scanning window done [])
    (sorted : RankSorted window.slots) :
    ∃ front back, window.slots = front ++ back ∧ window.rankinsert = some front.length ∧
      PlaceOf window.insertrank front back := by
  rcases scanning.cursor with ⟨front, back, split, rankinsert, before, next⟩
  have slots := scanning.slots
  rw [List.append_nil, split] at slots
  refine ⟨front, back, slots, rankinsert, before, ?_⟩
  intro slot mem
  cases back with
  | nil => cases mem
  | cons first back =>
      have smaller : first.rank < window.insertrank := next first rfl
      rw [RankSorted, slots] at sorted
      rcases List.mem_cons.mp mem with rfl | later
      · exact smaller
      · have below := (List.pairwise_cons.mp (List.pairwise_append.mp sorted).2.1).1 slot later
        exact below.trans_lt smaller

omit [LinearOrder R] in
/-- A slot is linked in at a position. -/
theorem putTupleSlotImpl_slots (balanced : Balanced space window)
    (free : hasFreespace window = true) {front back : List (TupleWindowSlot T R)}
    (split : window.slots = front ++ back) {tuple : T} {timestamp : Nat} {rank : R}
    (put : putTupleSlotImpl space window tuple timestamp front.length rank = .ok window') :
    window'.slots = front ++ ⟨tuple, timestamp, rank⟩ :: back ∧ Balanced space window' ∧
      SameLimits window window' := by
  have inside : front.length ≤ window.slots.length := by
    rw [split, List.length_append]
    exact Nat.le_add_right _ _
  rcases putTupleSlotImpl_spec balanced free tuple timestamp inside rank with
    ⟨window'', stored, _, balanced', limits⟩
  cases put.symm.trans stored
  rcases (bind_eq_ok_iff _ _ _).mp put with ⟨_, _, linked⟩
  cases linked
  refine ⟨?_, balanced', limits⟩
  rw [← insertIdx_append_length, ← split]

/-- How a put changes the slots `front ++ back` around the place of the new slot. -/
structure PutAt (space : ChunkSpace T) (window window' : TupleWindowState T R)
    (new : TupleWindowSlot T R) (forced : Bool) (front back : List (TupleWindowSlot T R)) :
    Prop where
  slots : window.slots = front ++ back
  place : PlaceOf new.rank front back
  balanced : Balanced space window'
  limits : SameLimits window window'
  sublist : window'.slots.Sublist (front ++ new :: back)
  stored : hasFreespace window = true → window'.slots = front ++ new :: back
  replaced : hasFreespace window = false → forced = true → window.maxSlots ≠ -1 →
    window'.slots = (front ++ new :: back).dropLast

omit [LinearOrder R] in
/-- Without its last slot a full window has room. -/
theorem hasFreespace_of_shorter {roomy : TupleWindowState T R} (balanced : Balanced space window)
    (balanced' : Balanced space roomy) (limits : SameLimits window roomy)
    (limited : window.maxSlots ≠ -1) {last : TupleWindowSlot T R}
    (split : window.slots = roomy.slots ++ [last]) : hasFreespace roomy = true := by
  have atMost := balanced.atMost limited (by simp [split])
  rw [split, List.length_append, List.length_singleton] at atMost
  rw [hasFreespace_iff balanced', HasRoom, limits.2.1, if_neg limited]
  omega

/-- A forced put into a full window whose slots are all of at least the insert rank keeps
the slots: the last one stays. -/
theorem putRanked_full_keeps (balanced : Balanced space window)
    (full : hasFreespace window = false)
    (place : PlaceOf window.insertrank window.slots []) {tuple : T} {timestamp : Nat}
    (put : putRanked space window tuple timestamp true = .ok window') :
    PutAt space window window' ⟨tuple, timestamp, window.insertrank⟩ true window.slots [] := by
  have never : hasFreespace window ≠ true := by
    rw [full]
    exact Bool.false_ne_true
  rcases (bind_eq_ok_iff _ _ _).mp put with ⟨roomy, made, inserted⟩
  rw [makeRoom, full, Bool.not_false, Bool.and_self, if_pos rfl] at made
  cases lastSlot : window.slots.getLast? with
  | none =>
      rw [lastSlot] at made
      cases made
  | some last =>
      have stays := not_lt.mpr (place.before last (List.mem_of_getLast? lastSlot))
      rw [lastSlot] at made
      simp only [stays, if_false] at made
      cases made
      rw [if_neg never] at inserted
      cases inserted
      refine ⟨(List.append_nil _).symm, place, balanced, SameLimits.refl window, ?_, ?_, ?_⟩
      · exact List.sublist_append_left _ _
      · exact fun free => absurd free never
      · intro _ _ _
        rw [List.dropLast_concat]

/-- A forced put into a full window whose last slot is of a smaller rank puts the new slot in
its stead. -/
theorem putRanked_full_replaces (balanced : Balanced space window)
    (full : hasFreespace window = false) {front back : List (TupleWindowSlot T R)}
    {last : TupleWindowSlot T R} (split : window.slots = front ++ (back ++ [last]))
    (cursor : window.rankinsert = some front.length)
    (place : PlaceOf window.insertrank front (back ++ [last])) {tuple : T} {timestamp : Nat}
    (put : putRanked space window tuple timestamp true = .ok window') :
    PutAt space window window' ⟨tuple, timestamp, window.insertrank⟩ true front
      (back ++ [last]) := by
  have never : hasFreespace window ≠ true := by
    rw [full]
    exact Bool.false_ne_true
  rcases (bind_eq_ok_iff _ _ _).mp put with ⟨roomy, made, inserted⟩
  rw [makeRoom, full, Bool.not_false, Bool.and_self, if_pos rfl] at made
  rw [← List.append_assoc] at split
  have lastSlot : window.slots.getLast? = some last := by
    rw [split, List.getLast?_concat]
  have smaller := place.behind last (List.mem_append_right back (List.mem_singleton_self last))
  rcases removeSlot_spec balanced split with
    ⟨shorter, removed, slots, balanced', limits, _, rankinsert, insertrank⟩
  have position : window.slots.length - 1 = (front ++ back).length := by
    rw [split, List.length_append, List.length_singleton, Nat.add_sub_cancel]
  rw [lastSlot] at made
  simp only [smaller, if_true] at made
  rw [position] at made
  cases made.symm.trans removed
  rw [List.append_nil] at slots
  have cursor' : roomy.rankinsert = some front.length := by
    rw [rankinsert, cursor, Option.map_some, positionAfterRemove, if_neg]
    rw [List.length_append]
    omega
  have dropped : (front ++ (⟨tuple, timestamp, window.insertrank⟩ : TupleWindowSlot T R) ::
      (back ++ [last])).dropLast = front ++ ⟨tuple, timestamp, window.insertrank⟩ :: back := by
    rw [← List.cons_append, ← List.append_assoc, List.dropLast_concat]
  rw [cursor', insertrank] at inserted
  cases room : hasFreespace roomy with
  | true =>
      rw [room] at inserted
      rcases putTupleSlotImpl_slots balanced' room slots inserted with
        ⟨stored, balanced'', limits'⟩
      refine ⟨by rw [split, List.append_assoc], place, balanced'', limits.trans limits', ?_, ?_,
        ?_⟩
      · rw [stored, ← dropped]
        exact List.dropLast_sublist _
      · exact fun free => absurd free never
      · intro _ _ _
        rw [stored, dropped]
  | false =>
      rw [room] at inserted
      cases inserted
      refine ⟨by rw [split, List.append_assoc], place, balanced', limits, ?_, ?_, ?_⟩
      · rw [slots]
        exact ((List.sublist_append_left back [last]).cons _).append_left front
      · exact fun free => absurd free never
      · intro _ _ limited
        have free := hasFreespace_of_shorter balanced balanced' limits limited (slots ▸ split)
        cases free.symm.trans room

/-- A forced put into a full window: the smallest of the slots and the new one goes. -/
theorem putRanked_full (balanced : Balanced space window) (full : hasFreespace window = false)
    {front back : List (TupleWindowSlot T R)} (split : window.slots = front ++ back)
    (cursor : window.rankinsert = some front.length)
    (place : PlaceOf window.insertrank front back) {tuple : T} {timestamp : Nat}
    (put : putRanked space window tuple timestamp true = .ok window') :
    PutAt space window window' ⟨tuple, timestamp, window.insertrank⟩ true front back := by
  rcases List.eq_nil_or_concat back with rfl | ⟨back, last, rfl⟩
  · rw [List.append_nil] at split
    subst split
    exact putRanked_full_keeps balanced full place put
  · rw [List.concat_eq_append] at split place ⊢
    exact putRanked_full_replaces balanced full split cursor place put

/-- A put at the end of the scan of a sorted window. -/
theorem putTupleSlot_ranked {negDblMax : R} (balanced : Balanced space window)
    (scanning : Scanning window done []) (sorted : RankSorted window.slots) {tuple : T}
    {timestamp : Nat} {forced : Bool}
    (put : putTupleSlot space negDblMax window tuple timestamp forced = .ok window') :
    ∃ front back,
      PutAt space window window' ⟨tuple, timestamp, window.insertrank⟩ forced front back := by
  rcases scanning.exists_place sorted with ⟨front, back, split, cursor, place⟩
  refine ⟨front, back, ?_⟩
  have ranked : putRanked space window tuple timestamp forced = .ok window' := by
    have policy := scanning.ranked
    rw [putTupleSlot] at put
    cases chosen : window.policy with
    | append | prepend =>
        rw [chosen] at policy
        cases policy
    | entropy | random =>
        rw [chosen] at put
        exact put
  cases free : hasFreespace window with
  | true =>
      have unforced : makeRoom space window forced = .ok window := by
        rw [makeRoom, free, Bool.not_true, Bool.and_false]
        rfl
      rw [putRanked, unforced, ok_bind, if_pos free, cursor] at ranked
      rcases putTupleSlotImpl_slots balanced free split ranked with ⟨stored, balanced', limits⟩
      refine ⟨split, place, balanced', limits, ?_, fun _ => stored, ?_⟩
      · rw [stored]
      · exact fun full => by cases full.symm.trans free
  | false =>
      cases forced with
      | true => exact putRanked_full balanced free split cursor place ranked
      | false =>
          have unchanged : makeRoom space window false = .ok window := rfl
          rw [putRanked, unchanged, ok_bind, free] at ranked
          cases ranked
          refine ⟨split, place, balanced, SameLimits.refl window, ?_, ?_, ?_⟩
          · rw [split]
            exact (List.sublist_cons_self _ back).append_left front
          · exact fun room => by cases room.symm.trans free
          · exact fun _ impossible => by cases impossible

end PgSkyline.TupleWindowState
