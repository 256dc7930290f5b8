import PgSkyline.Window.Requests

/-!
# Sessions with a tuple window

As long as a window is cleaned only while its rank cursor is at the sentinel, a
session in which every call meets its assertions leaves a well-formed ring, in
which both cursors are and with which the accounts agree.  Cleaning a window at
any other time leaves the rank cursor behind on a freed slot.
-/

namespace PgSkyline

open Fallible

/-- An assertion of the source failed. -/
def Fault.IsAssertion (fault : Fault) : Prop :=
  ∃ condition, fault = .assertion condition

variable {T R : Type} (space : ChunkSpace T)

namespace TupleWindowState

/-! ## Windows with positions -/

/-- The accounts and cursors of a window with these limits are valid. -/
structure Sound (maxKBytes maxSlots : Int) (window : TupleWindowState T R) : Prop where
  balanced : Balanced space window
  cursors : CursorsValid window
  maxKBytes : window.maxKBytes = maxKBytes
  maxSlots : window.maxSlots = maxSlots

variable {space} {maxKBytes maxSlots : Int} {window window' : TupleWindowState T R}

theorem Sound.of_sameLimits (sound : Sound space maxKBytes maxSlots window)
    (balanced : Balanced space window') (cursors : CursorsValid window')
    (limits : SameLimits window window') : Sound space maxKBytes maxSlots window' :=
  ⟨balanced, cursors, limits.1.trans sound.maxKBytes, limits.2.1.trans sound.maxSlots⟩

private theorem sound_begin (negDblMax : R) (maxKBytes maxSlots : Int)
    (policy : TupleWindowPolicy) :
    Sound space maxKBytes maxSlots (begin (T := T) negDblMax maxKBytes maxSlots policy) :=
  ⟨balanced_begin negDblMax maxKBytes maxSlots policy, ⟨Nat.le_refl 0, 0, rfl, Nat.le_refl 0⟩, rfl,
    rfl⟩

theorem ensures_assertThat (condition : Bool) (text : String) :
    Ensures (assertThat condition text) (fun _ => condition = true) Fault.IsAssertion := by
  cases condition with
  | true => exact rfl
  | false => exact ⟨text, rfl⟩

/-- Removing a slot moves the cursors behind it. -/
theorem removeSlot_ensures (sound : Sound space maxKBytes maxSlots window) (pos : Nat) :
    Ensures (removeSlot space window pos) (Sound space maxKBytes maxSlots) Fault.IsAssertion := by
  by_cases inside : pos < window.slots.length
  · rcases exists_split_at inside with ⟨done, slot, rest, split, rfl⟩
    rcases removeSlot_spec sound.balanced split with
      ⟨window', removed, slots, balanced, limits, current, rankinsert, _⟩
    rw [removed, ensures_ok_iff]
    rcases sound.cursors with ⟨below, rank, rankEq, behind⟩
    refine sound.of_sameLimits balanced ⟨?_, ?_⟩ limits
    · rw [split, List.length_append, List.length_cons] at below
      rw [current, slots, List.length_append, positionAfterRemove]
      split <;> omega
    · refine ⟨positionAfterRemove done.length rank, by rw [rankinsert, rankEq]; rfl, ?_⟩
      rw [current, positionAfterRemove, positionAfterRemove]
      split <;> split <;> omega
  · rw [removeSlot, List.getElem?_eq_none (Nat.le_of_not_lt inside)]
    exact ⟨_, rfl⟩

/-- Inserting a slot moves the cursors behind it. -/
theorem putTupleSlotImpl_ensures (sound : Sound space maxKBytes maxSlots window)
    (free : hasFreespace window = true) (tuple : T) (timestamp : Nat) {pos : Nat}
    (inside : pos ≤ window.slots.length) (rank : R) :
    Ensures (putTupleSlotImpl space window tuple timestamp pos rank)
      (Sound space maxKBytes maxSlots) Fault.IsAssertion := by
  rcases putTupleSlotImpl_spec sound.balanced free tuple timestamp inside rank with
    ⟨window', put, _, balanced, limits⟩
  rw [put, ensures_ok_iff]
  rcases (bind_eq_ok_iff _ _ _).mp put with ⟨_, _, stored⟩
  cases stored
  rcases sound.cursors with ⟨below, cursor, cursorEq, behind⟩
  refine sound.of_sameLimits balanced ⟨?_, ?_⟩ limits
  · simp only [List.length_insertIdx_of_le_length inside, positionAfterInsert]
    split <;> omega
  · refine ⟨positionAfterInsert pos cursor, by simp only [cursorEq, Option.map_some], ?_⟩
    simp only [positionAfterInsert]
    split <;> split <;> omega

theorem putUnranked_ensures (negDblMax : R) (sound : Sound space maxKBytes maxSlots window)
    (tuple : T) (timestamp : Nat) {pos : Nat} (inside : pos ≤ window.slots.length)
    (forced : Bool) :
    Ensures (putUnranked space negDblMax window tuple timestamp pos forced)
      (Sound space maxKBytes maxSlots) Fault.IsAssertion := by
  rw [putUnranked]
  cases forced with
  | true =>
      by_cases free : hasFreespace window = true
      · rw [if_pos rfl, if_pos free]
        exact putTupleSlotImpl_ensures sound free tuple timestamp inside negDblMax
      · rw [if_pos rfl, if_neg free]
        exact sound
  | false =>
      apply (ensures_assertThat _ _).bind
      intro _ free
      exact putTupleSlotImpl_ensures sound free tuple timestamp inside negDblMax

variable [LT R] [DecidableLT R]

private theorem makeRoom_ensures (sound : Sound space maxKBytes maxSlots window) (forced : Bool) :
    Ensures (makeRoom space window forced) (Sound space maxKBytes maxSlots)
      Fault.IsAssertion := by
  rw [makeRoom]
  split
  · split
    · exact ⟨_, rfl⟩
    · split
      · exact removeSlot_ensures sound _
      · exact sound
  · exact sound

private theorem putTupleSlot_ensures (negDblMax : R) (sound : Sound space maxKBytes maxSlots window)
    (tuple : T) (timestamp : Nat) (forced : Bool) :
    Ensures (putTupleSlot space negDblMax window tuple timestamp forced)
      (Sound space maxKBytes maxSlots) Fault.IsAssertion := by
  rw [putTupleSlot]
  cases window.policy with
  | append => exact putUnranked_ensures negDblMax sound tuple timestamp (Nat.le_refl _) forced
  | prepend => exact putUnranked_ensures negDblMax sound tuple timestamp (Nat.zero_le _) forced
  | entropy | random =>
      apply (makeRoom_ensures sound forced).bind
      intro roomy sound'
      rcases sound'.cursors with ⟨inside, pos, rankinsert, behind⟩
      by_cases free : hasFreespace roomy = true
      · rw [if_pos free, rankinsert]
        exact putTupleSlotImpl_ensures sound' free tuple timestamp (Nat.le_trans behind inside) _
      · rw [if_neg free]
        exact sound'

/-- A request to a sound window fails only in an assertion of the source and
otherwise leaves the window sound, unless it cleans a window whose rank cursor is
before the end. -/
theorem answer_ensures [LE R] [DecidableLE R] (negDblMax : R)
    (sound : Sound space maxKBytes maxSlots window) (request : WindowRequest T R)
    (keeps : request = .clean → window.rankinsert = some window.slots.length) :
    Ensures (answer space negDblMax window request)
      (fun result => Sound space maxKBytes maxSlots result.2) Fault.IsAssertion := by
  cases request with
  | hasFreespace => exact sound
  | rewind =>
      exact sound.of_sameLimits (balanced_rewind sound.balanced) (cursorsValid_rewind window)
        ⟨rfl, rfl, rfl⟩
  | ateof => exact sound
  | movenext =>
      rw [answer, ensures_ok_iff]
      by_cases inside : window.current < window.slots.length
      · rcases exists_split_at inside with ⟨done, slot, rest, split, current⟩
        rcases moveNext_frame sound.balanced split current with ⟨_, _, balanced, limits⟩
        exact sound.of_sameLimits balanced (cursorsValid_moveNext sound.cursors split current)
          limits
      · rw [moveNext, List.getElem?_eq_none (Nat.le_of_not_lt inside)]
        exact sound
  | timestampcurrent =>
      have timestamp : Ensures (timestampCurrent window) (fun _ => True) Fault.IsAssertion := by
        rw [timestampCurrent]
        split
        · exact ⟨_, rfl⟩
        · trivial
      exact timestamp.bind fun _ _ => sound
  | gettupleslot removeit =>
      have fetched : Ensures (getTupleSlot space window removeit)
          (fun result => Sound space maxKBytes maxSlots result.2) Fault.IsAssertion := by
        rw [getTupleSlot]
        split
        · exact sound
        · split
          · exact (removeSlot_ensures sound _).bind fun _ sound' => sound'
          · exact sound
      exact fetched.bind fun _ sound' => sound'
  | removecurrent =>
      have removed : Ensures (removeCurrent space window) (Sound space maxKBytes maxSlots)
          Fault.IsAssertion :=
        (ensures_assertThat _ _).bind fun _ _ => removeSlot_ensures sound _
      exact removed.bind fun _ sound' => sound'
  | clean =>
      have cursor : (clean window).rankinsert = some 0 := by
        rw [clean, keeps rfl]
        exact if_pos rfl
      exact sound.of_sameLimits balanced_clean ⟨Nat.le_refl 0, 0, cursor, Nat.le_refl 0⟩
        ⟨rfl, rfl, rfl⟩
  | setinsertrank rank =>
      have set : Ensures (setInsertRank window rank) (Sound space maxKBytes maxSlots)
          Fault.IsAssertion :=
        (ensures_assertThat _ _).bind fun _ _ => (ensures_assertThat _ _).bind fun _ _ =>
          ⟨⟨sound.balanced.availMem, sound.balanced.availSlots, sound.balanced.atMost⟩,
            sound.cursors, sound.maxKBytes, sound.maxSlots⟩
      exact set.bind fun _ sound' => sound'
  | puttupleslot tuple timestamp forced =>
      exact (putTupleSlot_ensures negDblMax sound tuple timestamp forced).bind
        fun _ sound' => sound'

end TupleWindowState

/-! ## Windows with pointers -/

namespace LinkedWindow

open Ring

/-- The tuple in a chunk, if there is one. -/
def heldTuple (slots : HandleTable (Cell (TupleWindowSlot (Option T) R))) (address : Nat) :
    Option T :=
  (valueOf slots address).bind TupleWindowSlot.tuple

/-- The memory of the chunks at these addresses and of their tuples. -/
def heldSpace (slots : HandleTable (Cell (TupleWindowSlot (Option T) R))) (ring : List Nat) :
    Nat :=
  (ring.map fun address => (heldTuple slots address).elim 0 space.tuple + space.windowSlot).sum

/-- The slots form a ring through the sentinel, the accounts agree with them and
both cursors are in the ring. -/
structure WellFormed (maxKBytes maxSlots : Int) (state : LinkedWindow T R) (ring : List Nat) :
    Prop where
  isRing : IsRing state.slots state.nil ring
  holds : ∀ address ∈ ring, heldTuple state.slots address ≠ none
  availSlots : maxSlots ≠ -1 → state.availSlots + ring.length = maxSlots
  availMem : state.availMem + heldSpace space state.slots ring = maxKBytes * 1024
  current : state.current = state.nil ∨ state.current ∈ ring
  rankinsert : state.rankinsert = state.nil ∨ state.rankinsert ∈ ring

variable {space} {maxKBytes maxSlots : Int} {state : LinkedWindow T R}
variable {window : TupleWindowState T R} {ring : List Nat}

theorem Represents.heldTuples_eq (represents : Represents ring state window) :
    ring.map (heldTuple state.slots) = window.slots.map fun slot => some slot.tuple := by
  have tuples := congrArg (List.map fun value => value.bind TupleWindowSlot.tuple) represents.values
  rwa [List.map_map, List.map_map] at tuples

theorem Represents.heldSpace_eq (represents : Represents ring state window) :
    heldSpace space state.slots ring = TupleWindowState.heldMem space window.slots := by
  have spaces := congrArg (List.map fun tuple => Option.elim tuple 0 space.tuple + space.windowSlot)
    represents.heldTuples_eq
  rw [List.map_map, List.map_map] at spaces
  exact congrArg List.sum spaces

/-- What represents a sound window is well formed. -/
theorem Represents.wellFormed (represents : Represents ring state window)
    (sound : TupleWindowState.Sound space maxKBytes maxSlots window) :
    WellFormed space maxKBytes maxSlots state ring where
  isRing := represents.isRing
  holds := by
    intro address mem
    have held := List.mem_map_of_mem (f := heldTuple state.slots) mem
    rw [represents.heldTuples_eq] at held
    rcases List.mem_map.mp held with ⟨slot, _, same⟩
    rw [← same]
    exact Option.some_ne_none _
  availSlots := by
    intro limited
    have count := sound.balanced.availSlots
    rw [sound.maxSlots, if_neg limited] at count
    rw [represents.availSlots, represents.length_eq, count, Int.sub_add_cancel]
  availMem := by
    have mem := sound.balanced.availMem
    rw [sound.maxKBytes] at mem
    rw [represents.availMem, represents.heldSpace_eq, mem, Int.sub_add_cancel]
  current := List.mem_cons.mp (mem_of_addressAt represents.current)
  rankinsert := by
    rcases sound.cursors with ⟨_, pos, position, _⟩
    have cursor := represents.rankinsert
    rw [position] at cursor
    exact List.mem_cons.mp (mem_of_addressAt cursor)

/-- The rank cursor of a well-formed ring is not behind on a freed slot. -/
theorem Represents.exists_position (represents : Represents ring state window) {other : List Nat}
    (wellFormed : WellFormed space maxKBytes maxSlots state other) :
    ∃ pos, window.rankinsert = some pos := by
  have cursor := represents.rankinsert
  cases position : window.rankinsert with
  | some pos => exact ⟨pos, rfl⟩
  | none =>
      rw [position] at cursor
      exact absurd cursor (wellFormed.isRing.not_freed (List.mem_cons.mpr wellFormed.rankinsert))

variable [LE R] [DecidableLE R] [LT R] [DecidableLT R]

section Sessions

variable (space) (negDblMax : R)

/-- The call meets the assertions of the source. -/
def MeetsAssertions (state : LinkedWindow T R) (request : WindowRequest T R) : Prop :=
  ∀ condition, answer space negDblMax state request ≠ .error (.assertion condition)

omit [LE R] [DecidableLE R] [LT R] [DecidableLT R] in
/-- A window is cleaned only while its rank cursor is at the sentinel. -/
def CleansAtNil (state : LinkedWindow T R) (request : WindowRequest T R) : Prop :=
  request = .clean → state.rankinsert = state.nil

/-- The session succeeds and ends with a well-formed window. -/
def EndsWellFormed (dblMax : R) (maxKBytes maxSlots : Int) (policy : TupleWindowPolicy)
    (requests : List (WindowRequest T R)) : Prop :=
  ∃ replies state ring,
    Session.run (answer space negDblMax) (begin negDblMax dblMax maxKBytes maxSlots policy)
      requests = .ok (replies, state) ∧
    WellFormed space maxKBytes maxSlots state ring

variable {space} {negDblMax}

/-- A session that succeeds met the assertions. -/
theorem meetsAssertions_of_isOk {requests : List (WindowRequest T R)}
    (completed : (Session.run (answer space negDblMax) state requests).isOk = true) :
    Session.Allowed (answer space negDblMax) (MeetsAssertions space negDblMax) state requests := by
  cases ran : Session.run (answer space negDblMax) state requests with
  | error fault =>
      rw [ran] at completed
      cases completed
  | ok result =>
      apply Session.allowed_of_run ran
      intro state request result answered condition failed
      cases answered.symm.trans failed

/-- A request to a window that represents a sound one. -/
theorem answer_keeps (represented : Represented state window)
    (sound : TupleWindowState.Sound space maxKBytes maxSlots window)
    (request : WindowRequest T R) (meets : MeetsAssertions space negDblMax state request)
    (keeps : CleansAtNil state request) :
    ∃ reply state' window', answer space negDblMax state request = .ok (reply, state') ∧
      Represented state' window' ∧
      TupleWindowState.Sound space maxKBytes maxSlots window' := by
  have lockstep := answer_lockstep space negDblMax represented request
  rcases represented with ⟨ring, represents⟩
  have ensures := TupleWindowState.answer_ensures negDblMax sound request (by
    intro isClean
    rcases sound.cursors with ⟨_, pos, position, _⟩
    have cursor := represents.rankinsert
    rw [position] at cursor
    rw [position, (represents.eq_nil_iff cursor).mp (keeps isClean)])
  cases answered : TupleWindowState.answer space negDblMax window request with
  | error fault =>
      rcases ensures.error answered with ⟨condition, rfl⟩
      exact absurd (lockstep.error_of_error answered) (meets condition)
  | ok result =>
      rcases result with ⟨reply, window'⟩
      rcases lockstep.exists_first answered with ⟨⟨reply', state'⟩, answered', same, related⟩
      exact ⟨reply', state', window', answered', related, ensures.ok answered⟩

/-- A session whose calls meet their assertions and that cleans the window only at
the sentinel. -/
theorem endsWellFormed_of_allowed {dblMax : R} {policy : TupleWindowPolicy}
    {requests : List (WindowRequest T R)}
    (meets : Session.Allowed (answer space negDblMax) (MeetsAssertions space negDblMax)
      (begin negDblMax dblMax maxKBytes maxSlots policy) requests)
    (keeps : Session.Allowed (answer space negDblMax) CleansAtNil
      (begin negDblMax dblMax maxKBytes maxSlots policy) requests) :
    EndsWellFormed space negDblMax dblMax maxKBytes maxSlots policy requests := by
  have step : ∀ (state : LinkedWindow T R) (request : WindowRequest T R),
      (∃ window, Represented state window ∧
        TupleWindowState.Sound space maxKBytes maxSlots window) →
      MeetsAssertions space negDblMax state request ∧ CleansAtNil state request →
      ∃ reply state', answer space negDblMax state request = .ok (reply, state') ∧
        ∃ window, Represented state' window ∧
          TupleWindowState.Sound space maxKBytes maxSlots window := by
    rintro state request ⟨window, represented, sound⟩ ⟨meetsNow, keepsNow⟩
    rcases answer_keeps represented sound request meetsNow keepsNow with
      ⟨reply, state', window', answered, represented', sound'⟩
    exact ⟨reply, state', answered, window', represented', sound'⟩
  have begun : ∃ window : TupleWindowState T R,
      Represented (begin negDblMax dblMax maxKBytes maxSlots policy) window ∧
        TupleWindowState.Sound space maxKBytes maxSlots window :=
    ⟨_, ⟨[], represents_begin negDblMax dblMax maxKBytes maxSlots policy⟩,
      TupleWindowState.sound_begin negDblMax maxKBytes maxSlots policy⟩
  rcases Session.run_of_invariant _ step begun (meets.and keeps) with
    ⟨replies, state, completed, window, ⟨ring, represents⟩, sound⟩
  exact ⟨replies, state, ring, completed, represents.wellFormed sound⟩

end Sessions

/-- In a session whose calls meet their assertions the window is well formed after
every operation exactly if it is cleaned only while its rank cursor is at the
sentinel. -/
theorem tupleWindow_wellFormed_iff (space : ChunkSpace T) (negDblMax dblMax : R)
    (maxKBytes maxSlots : Int) (policy : TupleWindowPolicy) (requests : List (WindowRequest T R))
    (meets : Session.Allowed (answer space negDblMax) (MeetsAssertions space negDblMax)
      (begin negDblMax dblMax maxKBytes maxSlots policy) requests) :
    (∀ before, before <+: requests →
        EndsWellFormed space negDblMax dblMax maxKBytes maxSlots policy before) ↔
      Session.Allowed (answer space negDblMax) CleansAtNil
        (begin negDblMax dblMax maxKBytes maxSlots policy) requests := by
  constructor
  · intro wellFormed
    rw [Session.allowed_iff]
    rintro before request after replies state split reached rfl
    rcases wellFormed (before ++ [.clean]) ⟨after, by rw [split]; simp⟩ with
      ⟨replies', state', other, cleaned, formed⟩
    rw [Session.run_append reached, Session.run] at cleaned
    have related := run_lockstep space negDblMax dblMax maxKBytes maxSlots policy before
    rcases related.exists_second reached with ⟨⟨_, window⟩, _, _, ring, represents⟩
    rcases (clean_lockstep represents).exists_first rfl with
      ⟨after', cleanEq, ring', represents'⟩
    have answered : answer space negDblMax state .clean = .ok (.done, after') := by
      simp only [answer, cleanEq, ok_bind, pure_eq_ok]
    simp only [answered, Session.run_nil, Except.ok.injEq, Prod.mk.injEq] at cleaned
    rcases cleaned with ⟨_, rfl⟩
    -- The rank cursor was not reset, so it must have been at the end before.
    rcases represents'.exists_position formed with ⟨pos, position⟩
    have cursor := represents.rankinsert
    simp only [TupleWindowState.clean] at position
    split at position
    · next atEnd =>
        rw [atEnd] at cursor
        exact (represents.eq_nil_iff cursor).mpr rfl
    · cases position
  · rintro keeps before ⟨after, rfl⟩
    exact endsWellFormed_of_allowed meets.append_left keeps.append_left

/-- A forced put into a full window of one slot, which is cleaned behind its end. -/
theorem tupleWindow_wellFormed_iff_forced :
    let space : ChunkSpace Nat := ⟨fun tuple => 16 + tuple, 48, fun size => 8 * size⟩
    let start : LinkedWindow Nat Int := begin (-1000) 1000 4 1 .entropy
    let requests : List (WindowRequest Nat Int) :=
      [.setinsertrank 3, .puttupleslot 1 0 false, .rewind, .setinsertrank 5, .movenext,
        .puttupleslot 2 0 true, .clean]
    (∀ before, before <+: requests →
        EndsWellFormed space (-1000) 1000 4 1 .entropy before) ↔
      Session.Allowed (answer space (-1000)) CleansAtNil start requests :=
  tupleWindow_wellFormed_iff _ _ _ _ _ _ _ (meetsAssertions_of_isOk (by decide +kernel))

/-- Behind a clean that follows a rewind the rank cursor points to the freed slot,
and a put follows it. -/
theorem tupleWindow_clean_leavesRankCursor :
    let space : ChunkSpace Nat := ⟨fun tuple => 16 + tuple, 48, fun size => 8 * size⟩
    let start : LinkedWindow Nat Int := begin (-1000) 1000 4 (-1) .entropy
    let requests : List (WindowRequest Nat Int) :=
      [.setinsertrank 3, .puttupleslot 1 0 false, .rewind, .clean]
    Session.Allowed (answer space (-1000)) (MeetsAssertions space (-1000)) start requests ∧
      ¬ EndsWellFormed space (-1000) 1000 4 (-1) .entropy requests ∧
      Session.run (answer space (-1000)) start (requests ++ [.puttupleslot 2 0 false]) =
        .error .invalidRead := by
  intro space start requests
  refine ⟨meetsAssertions_of_isOk (by decide +kernel), ?_, rfl⟩
  rintro ⟨replies, state, ring, completed, formed⟩
  cases completed
  exact formed.isRing.not_freed (List.mem_cons.mpr formed.rankinsert) ⟨by decide, rfl⟩

end LinkedWindow

end PgSkyline
