import PgSkyline.Dominance.Reference
import PgSkyline.Passes.Core
import PgSkyline.Window.Invariant

/-!
# Admitting a tuple to a window

The comparison of a tuple with a valid window is an elimination scan of the
window slots.  A tuple that survives the scan is put into the window exactly if
there is free space.
-/

namespace PgSkyline

open TupleWindowState

variable {T D R : Type} [LE R] [DecidableLE R] [LT R] [DecidableLT R]
variable (env : ExecEnv T D R) (node : Skyline D)

/-- The window slot drops the tuple. -/
def stopsTuple (slot : T) : TupleWindowSlot T R → Bool :=
  slotStops (fun inner => isDominating env node inner slot) node.skylineDistinct

/-- The tuple dominates the window slot. -/
def evictsSlot (slot : T) : TupleWindowSlot T R → Bool :=
  slotEvicted (fun inner => isDominating env node inner slot)

/-- What an admission to a window did, given the result of scanning its slots. -/
def Admitted (window : TupleWindowState T R) (scanned : Bool × List (TupleWindowSlot T R))
    (slot : T) (timestamp : Nat) (admission : Admission T R) : Prop :=
  match admission.disposition with
  | .dropped => scanned.1 = false ∧ admission.window.slots = scanned.2
  | .stored => scanned.1 = true ∧
      (∃ rank, admission.window.slots.Perm (⟨slot, timestamp, rank⟩ :: scanned.2)) ∧
      HasRoom env.space window.maxKBytes window.maxSlots scanned.2
  | .overflows => scanned.1 = true ∧ admission.window.slots = scanned.2 ∧
      ¬ HasRoom env.space window.maxKBytes window.maxSlots scanned.2

/-- The window of an admission is valid and has the limits it had. -/
structure ValidAdmission (window : TupleWindowState T R) (admission : Admission T R) : Prop where
  balanced : Balanced env.space admission.window
  limits : SameLimits window admission.window

variable {env} {node}

omit [LE R] [DecidableLE R] [LT R] [DecidableLT R] in
/-- The ranked policies set the insert rank of a rewound window. -/
theorem setRank_spec {window : TupleWindowState T R} (balanced : Balanced env.space window)
    (slot : T) (drawn : Nat) :
    ∃ window' drawn', setRank env node (slFlagsOf window.policy) slot (rewind window) drawn =
        .ok (window', drawn') ∧
      window'.slots = window.slots ∧ window'.current = 0 ∧ CursorsValid window' ∧
      Balanced env.space window' ∧ SameLimits window window' := by
  have rewound : ∀ rank, CursorsValid { rewind window with insertrank := rank } ∧
      Balanced env.space { rewind window with insertrank := rank } ∧
      SameLimits window { rewind window with insertrank := rank } := by
    intro rank
    exact ⟨⟨Nat.zero_le _, 0, rfl, Nat.le_refl 0⟩,
      ⟨balanced.availMem, balanced.availSlots, balanced.atMost⟩, rfl, rfl, rfl⟩
  unfold setRank
  cases policy : window.policy with
  | append | prepend =>
      exact ⟨rewind window, drawn, rfl, rfl, rfl, cursorsValid_rewind window,
        balanced_rewind balanced, rfl, rfl, rfl⟩
  | entropy =>
      refine ⟨{ rewind window with insertrank := env.rank node slot }, drawn, ?_, rfl, rfl,
        rewound _⟩
      simp [slFlagsOf, setInsertRank, rewind, policy, TupleWindowPolicy.isRanked]
  | random =>
      refine ⟨{ rewind window with insertrank := env.random drawn }, drawn + 1, ?_, rfl, rfl,
        rewound _⟩
      simp [slFlagsOf, setInsertRank, rewind, policy, TupleWindowPolicy.isRanked]

/-- Behind the scan: the tuple is put into the window, overflows, or is dropped. -/
theorem offerToWindow_of_compare
    {secondDominates : TupleWindowState T R → Except Fault (TupleWindowState T R)}
    {timestamp : Nat} {slot : T} {window scannedWindow : TupleWindowState T R} {drawn drawn' : Nat}
    {innerSlot innerSlot' : Option T} {scanned : Bool × List (TupleWindowSlot T R)}
    (compared : compareWithWindow env node secondDominates (slFlagsOf window.policy) slot window
      drawn innerSlot = .ok (scanned.1, scannedWindow, drawn', innerSlot'))
    (slots : scannedWindow.slots = scanned.2) (cursors : CursorsValid scannedWindow)
    (balanced : Balanced env.space scannedWindow) (limits : SameLimits window scannedWindow) :
    ∃ admission, offerToWindow env node secondDominates timestamp (slFlagsOf window.policy) slot
        window drawn innerSlot = .ok admission ∧
      ValidAdmission env window admission ∧
      Admitted env window scanned slot timestamp admission := by
  unfold offerToWindow
  simp only [compared, ok_bind, pure_eq_ok]
  have roomIff : hasFreespace scannedWindow = true ↔
      HasRoom env.space window.maxKBytes window.maxSlots scanned.2 := by
    rw [hasFreespace_iff balanced, slots, limits.1, limits.2.1]
  cases survived : scanned.1 with
  | false => exact ⟨_, rfl, ⟨balanced, limits⟩, survived, slots⟩
  | true =>
      by_cases free : hasFreespace scannedWindow = true
      · obtain ⟨window', rank, put, added, balanced', limits'⟩ :=
          putTupleSlot_spec env.negDblMax balanced cursors free slot timestamp
        simp only [free, if_true, put, ok_bind]
        exact ⟨_, rfl, ⟨balanced', limits.trans limits'⟩, survived, ⟨rank, slots ▸ added⟩,
          roomIff.mp free⟩
      · simp only [free, if_true]
        exact ⟨_, rfl, ⟨balanced, limits⟩, survived, slots, fun room => free (roomIff.mpr room)⟩

omit [LT R] [DecidableLT R] in
/-- A comparison that removes the window tuples that the new tuple dominates. -/
theorem compareWithWindow_removeCurrent {window : TupleWindowState T R}
    (balanced : Balanced env.space window) (slot : T) (drawn : Nat) (innerSlot : Option T) :
    ∃ scannedWindow drawn' innerSlot', compareWithWindow env node (removeCurrent env.space)
        (slFlagsOf window.policy) slot window drawn innerSlot =
          .ok ((Elimination.scan (stopsTuple env node slot) (evictsSlot env node slot)
            window.slots).1, scannedWindow, drawn', innerSlot') ∧
      scannedWindow.slots = (Elimination.scan (stopsTuple env node slot)
        (evictsSlot env node slot) window.slots).2 ∧
      CursorsValid scannedWindow ∧ Balanced env.space scannedWindow ∧
      SameLimits window scannedWindow := by
  obtain ⟨ranked, drawn', rankEq, slots, current, cursors, balanced', limits⟩ :=
    @setRank_spec T D R env node window balanced slot drawn
  obtain ⟨scannedWindow, innerSlot', loop, slots', cursors', balanced'', limits'⟩ :=
    probeLoop_removeCurrent (fun inner => isDominating env node inner slot) node.skylineDistinct
      (ranked.slots.length + 1) innerSlot (List.nil_append _).symm current (Nat.lt_succ_self _)
      cursors balanced'
  rw [slots] at loop slots'
  refine ⟨scannedWindow, drawn', innerSlot', ?_, slots', cursors', balanced'',
    limits.trans limits'⟩
  simp only [compareWithWindow, rankEq, ok_bind, probe, slots, loop, pure_eq_ok]
  rfl

/-- Block nested loop admission removes the window tuples that the new tuple
dominates. -/
theorem offerToWindow_removeCurrent {window : TupleWindowState T R}
    (balanced : Balanced env.space window) (timestamp : Nat) (slot : T) (drawn : Nat)
    (innerSlot : Option T) :
    ∃ admission, offerToWindow env node (removeCurrent env.space) timestamp
        (slFlagsOf window.policy) slot window drawn innerSlot = .ok admission ∧
      ValidAdmission env window admission ∧
      Admitted env window (Elimination.scan (stopsTuple env node slot) (evictsSlot env node slot)
        window.slots) slot timestamp admission := by
  rcases @compareWithWindow_removeCurrent T D R _ _ env node window balanced slot drawn innerSlot
    with ⟨scannedWindow, drawn', innerSlot', compared, slots, cursors, balanced', limits⟩
  exact offerToWindow_of_compare compared slots cursors balanced' limits

/-- Sort filter skyline admission leaves the window tuples alone.  With assertion
checking it stops at a window tuple that the new tuple dominates. -/
theorem offerToWindow_assertNotSecondDominates {window : TupleWindowState T R}
    (balanced : Balanced env.space window) (timestamp : Nat) (slot : T) (drawn : Nat)
    (innerSlot : Option T) :
    (env.assertChecking = true ∧ (∃ held ∈ window.slots, evictsSlot env node slot held = true) ∧
      offerToWindow env node (assertNotSecondDominates env.assertChecking) timestamp
        (slFlagsOf window.policy) slot window drawn innerSlot =
          .error (.assertion "cmp != SYKLINE_CMP_SECOND_DOMINATES")) ∨
    ∃ admission, offerToWindow env node (assertNotSecondDominates env.assertChecking) timestamp
        (slFlagsOf window.policy) slot window drawn innerSlot = .ok admission ∧
      ValidAdmission env window admission ∧
      Admitted env window (!window.slots.any (stopsTuple env node slot), window.slots) slot
        timestamp admission := by
  obtain ⟨ranked, drawn', rankEq, slots, current, cursors, balanced', limits⟩ :=
    @setRank_spec T D R env node window balanced slot drawn
  have looped := probeLoop_assertNotSecondDominates
    (fun inner => isDominating env node inner slot) node.skylineDistinct env.assertChecking
    (ranked.slots.length + 1) innerSlot (List.nil_append _).symm current (Nat.lt_succ_self _)
    cursors balanced'
  rw [slots] at looped
  rcases looped with ⟨checking, evicted, loop⟩ |
    ⟨scannedWindow, innerSlot', loop, slots', cursors', balanced'', limits'⟩
  · refine Or.inl ⟨checking, evicted, ?_⟩
    simp only [offerToWindow, compareWithWindow, rankEq, ok_bind, probe, slots, loop, error_bind]
  · have compared : compareWithWindow env node (assertNotSecondDominates env.assertChecking)
        (slFlagsOf window.policy) slot window drawn innerSlot =
          .ok (!window.slots.any (stopsTuple env node slot), scannedWindow, drawn',
            innerSlot') := by
      simp only [compareWithWindow, rankEq, ok_bind, probe, slots, loop, pure_eq_ok]
      rfl
    exact Or.inr
      (offerToWindow_of_compare compared slots' cursors' balanced'' (limits.trans limits'))

/-! ## What an admission means for the clause -/

section Clause

omit [LE R] [DecidableLE R] [LT R] [DecidableLT R]

variable (env) (node)

/-- The drop test of the node. -/
abbrev NodeBeats : T → T → Prop :=
  Beats env.slotGetattr node.cols node.skylineDistinct

/-- The results are the input sieved by the drop test of the node. -/
abbrev NodeSieved : List T → List T → Prop :=
  Sieved env.slotGetattr node.cols node.skylineDistinct

variable {env} {node}

theorem stopsTuple_iff (slot : T) (held : TupleWindowSlot T R) :
    stopsTuple env node slot held = true ↔ NodeBeats env node held.tuple slot := by
  simp [stopsTuple, slotStops, dropsSlot, Beats, Dominates, AllEq, isDominating]

theorem evictsSlot_iff (lawful : LawfulCols node.cols) (slot : T) (held : TupleWindowSlot T R) :
    evictsSlot env node slot held = true ↔
      Dominates env.slotGetattr node.cols slot held.tuple := by
  rw [← secondDominates_iff lawful]
  simp [evictsSlot, slotEvicted, isDominating]

theorem beats_of_evictsSlot (lawful : LawfulCols node.cols) {slot : T}
    {held : TupleWindowSlot T R} (evicted : evictsSlot env node slot held = true) :
    NodeBeats env node slot held.tuple :=
  Beats.of_dominates _ ((evictsSlot_iff lawful slot held).mp evicted)

/-- A tuple that survives the scan is apart from the slots that are left. -/
theorem apart_of_survived (lawful : LawfulCols node.cols) {slot : T}
    {slots : List (TupleWindowSlot T R)}
    (survived : (Elimination.scan (stopsTuple env node slot) (evictsSlot env node slot)
      slots).1 = true) :
    ∀ held ∈ (Elimination.scan (stopsTuple env node slot) (evictsSlot env node slot) slots).2,
      Covering.Apart (NodeBeats env node) held.tuple slot := by
  intro held heldMem
  obtain ⟨noStop, noEvict⟩ := Elimination.scan_survived survived held heldMem
  refine apart_of_not_beats lawful ?_ ?_
  · exact fun beats => by simp [(stopsTuple_iff slot held).mpr beats] at noStop
  · exact fun dominates => by simp [(evictsSlot_iff lawful slot held).mpr dominates] at noEvict

end Clause

end PgSkyline
