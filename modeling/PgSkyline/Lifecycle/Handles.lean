import PgSkyline.Lifecycle.Core

/-!
# Windows and tuplestores over the life of a node

Every live window and tuplestore stays within reach of the state, and none is
used or ended after its end, as long as a node is not rescanned at two moments:
behind the end of block nested loop, whose window pointer dangles, and while
`ExecSkyline_1Dim` returns its tuplestore, which the next scan would forget.
-/

namespace PgSkyline

open Fallible Resumable TupleWindowState

variable {T D R : Type}

/-- The computation has no fault of the life cycle. -/
abbrev NoHandleFault {α : Type} (x : Except Fault α) : Prop :=
  Ensures x (fun _ => True) fun fault => ¬ fault.OfHandle

/-! ## Window operations -/

section Operations

variable (space : ChunkSpace T)

theorem noHandleFault_assertThat (condition : Bool) (text : String) :
    NoHandleFault (assertThat condition text) := by
  cases condition with
  | true => trivial
  | false => simp [Fault.OfHandle]

theorem noHandleFault_removeSlot (window : TupleWindowState T R) (pos : Nat) :
    NoHandleFault (removeSlot space window pos) := by
  unfold removeSlot
  split
  · simp [Fault.OfHandle]
  · trivial

theorem noHandleFault_removeCurrent (window : TupleWindowState T R) :
    NoHandleFault (removeCurrent space window) :=
  (noHandleFault_assertThat _ _).bind fun _ _ => noHandleFault_removeSlot space window _

theorem noHandleFault_getTupleSlot (window : TupleWindowState T R) (removeit : Bool) :
    NoHandleFault (getTupleSlot space window removeit) := by
  unfold getTupleSlot
  split
  · trivial
  · split
    · exact (noHandleFault_removeSlot space window _).bind fun _ _ => trivial
    · trivial

private theorem noHandleFault_timestampCurrent (window : TupleWindowState T R) :
    NoHandleFault (timestampCurrent window) := by
  unfold timestampCurrent
  split
  · simp [Fault.OfHandle]
  · trivial

theorem noHandleFault_setInsertRank (window : TupleWindowState T R) (rank : R) :
    NoHandleFault (setInsertRank window rank) :=
  (noHandleFault_assertThat _ _).bind fun _ _ =>
    (noHandleFault_assertThat _ _).bind fun _ _ => trivial

theorem noHandleFault_putTupleSlotImpl (window : TupleWindowState T R) (tuple : T)
    (timestamp insertbefore : Nat) (rank : R) :
    NoHandleFault (putTupleSlotImpl space window tuple timestamp insertbefore rank) :=
  (noHandleFault_assertThat _ _).bind fun _ _ => trivial

private theorem noHandleFault_putUnranked (negDblMax : R) (window : TupleWindowState T R)
    (tuple : T) (timestamp insertbefore : Nat) (forced : Bool) :
    NoHandleFault (putUnranked space negDblMax window tuple timestamp insertbefore forced) := by
  unfold putUnranked
  split
  · split
    · exact noHandleFault_putTupleSlotImpl space window tuple timestamp insertbefore negDblMax
    · trivial
  · exact (noHandleFault_assertThat _ _).bind fun _ _ =>
      noHandleFault_putTupleSlotImpl space window tuple timestamp insertbefore negDblMax

variable [LT R] [DecidableLT R]

private theorem noHandleFault_putRanked (window : TupleWindowState T R) (tuple : T)
    (timestamp : Nat)
    (forced : Bool) : NoHandleFault (putRanked space window tuple timestamp forced) := by
  have roomMade : NoHandleFault (makeRoom space window forced) := by
    unfold makeRoom
    split
    · split
      · simp [Fault.OfHandle]
      · split
        · exact noHandleFault_removeSlot space window _
        · trivial
    · trivial
  apply roomMade.bind
  intro window _
  split
  · split
    · simp [Fault.OfHandle]
    · exact noHandleFault_putTupleSlotImpl space window tuple timestamp _ _
  · trivial

theorem noHandleFault_putTupleSlot (negDblMax : R) (window : TupleWindowState T R) (tuple : T)
    (timestamp : Nat) (forced : Bool) :
    NoHandleFault (putTupleSlot space negDblMax window tuple timestamp forced) := by
  unfold putTupleSlot
  cases window.policy with
  | append | prepend =>
      exact noHandleFault_putUnranked space negDblMax window tuple timestamp _ forced
  | entropy | random => exact noHandleFault_putRanked space window tuple timestamp forced

end Operations

/-! ## Passes of the window methods -/

variable [LE R] [DecidableLE R] [LT R] [DecidableLT R]
variable (env : ExecEnv T D R) (node : Skyline D)

omit [LT R] [DecidableLT R] in
theorem noHandleFault_probeLoop (compare : T → SkylineCmp) (distinct : Bool)
    {secondDominates : TupleWindowState T R → Except Fault (TupleWindowState T R)}
    (safe : ∀ window, NoHandleFault (secondDominates window)) (fuel : Nat)
    (window : TupleWindowState T R) (innerSlot : Option T) :
    NoHandleFault (probeLoop env.space compare distinct secondDominates fuel window innerSlot) := by
  induction fuel generalizing window innerSlot with
  | zero => simp [probeLoop, Fault.OfHandle]
  | succ fuel ih =>
      unfold probeLoop
      split
      · trivial
      · apply (noHandleFault_getTupleSlot env.space window false).bind
        rintro ⟨fetched, window⟩ _
        cases fetched with
        | none => simp [Fault.OfHandle]
        | some inner =>
            simp only
            split
            · trivial
            · split
              · exact (safe window).bind fun window _ => ih window _
              · exact ih _ _

theorem noHandleFault_offerToWindow
    {secondDominates : TupleWindowState T R → Except Fault (TupleWindowState T R)}
    (safe : ∀ window, NoHandleFault (secondDominates window)) (timestamp : Nat) (flags : SlFlags)
    (slot : T) (window : TupleWindowState T R) (drawn : Nat) (innerSlot : Option T) :
    NoHandleFault (offerToWindow env node secondDominates timestamp flags slot window drawn
      innerSlot) := by
  have ranked : NoHandleFault (setRank env node flags slot (rewind window) drawn) := by
    unfold setRank
    split
    · split
      · exact (noHandleFault_setInsertRank _ _).bind fun _ _ => trivial
      · split
        · exact (noHandleFault_setInsertRank _ _).bind fun _ _ => trivial
        · simp [Fault.OfHandle]
    · trivial
  have compared : NoHandleFault
      (compareWithWindow env node secondDominates flags slot window drawn innerSlot) := by
    apply ranked.bind
    rintro ⟨window, drawn⟩ _
    apply (noHandleFault_probeLoop env _ node.skylineDistinct safe _ window innerSlot).bind
    intro _ _
    trivial
  apply compared.bind
  rintro ⟨atEnd, window, drawn, innerSlot⟩ _
  simp only
  split
  · split
    · exact (noHandleFault_putTupleSlot env.space env.negDblMax window slot timestamp false).bind
        fun _ _ => trivial
    · trivial
  · trivial

omit [LE R] [DecidableLE R] [LT R] [DecidableLT R] in
theorem noHandleFault_pipeOut (pass : Pass T R) : NoHandleFault (pass.pipeOut env) := by
  apply (noHandleFault_getTupleSlot env.space pass.window true).bind
  rintro ⟨resultSlot, window⟩ _
  cases resultSlot with
  | none => trivial
  | some result => trivial

private theorem noHandleFault_blockNestedLoopPass (flags : SlFlags) (pass : Pass T R) :
    NoHandleFault (blockNestedLoopPass env node flags pass) := by
  unfold blockNestedLoopPass
  cases pass.status with
  | init | done => trivial
  | process =>
      cases pass.pending with
      | nil =>
          simp only
          split
          · trivial
          · trivial
      | cons slot rest =>
          exact (noHandleFault_offerToWindow env node (noHandleFault_removeCurrent env.space) _
            flags slot _ _ none).bind fun _ _ => trivial
  | pipeout =>
      simp only
      split
      · trivial
      · apply (noHandleFault_timestampCurrent pass.window).bind
        intro timestamp _
        split
        · exact noHandleFault_pipeOut env pass
        · trivial
  | finalPipeout =>
      simp only
      split
      · trivial
      · exact noHandleFault_pipeOut env pass

private theorem noHandleFault_sortFilterPass (flags : SlFlags) (pass : Pass T R) :
    NoHandleFault (sortFilterPass env node flags pass) := by
  have checked : ∀ window : TupleWindowState T R,
      NoHandleFault (assertNotSecondDominates env.assertChecking window) :=
    fun window => (noHandleFault_assertThat _ _).bind fun _ _ => trivial
  unfold sortFilterPass
  cases pass.status with
  | init | done => trivial
  | process =>
      cases pass.pending with
      | nil =>
          simp only
          split
          · trivial
          · trivial
      | cons slot rest =>
          apply (noHandleFault_offerToWindow env node checked 0 flags slot _ _ none).bind
          intro admission _
          simp only
          split
          · trivial
          · trivial
  | pipeout | finalPipeout => simp [Fault.OfHandle]

/-! ## Ownership over a run -/

variable {env node} {state : SkylineState T R}

/-- Every live window and tuplestore can be reached from the state. -/
structure HandlesReachable (state : SkylineState T R) : Prop where
  windows : ∀ handle, state.windows.Live handle → state.window = some handle
  stores : ∀ handle, state.stores.Live handle → state.tempIn = some handle ∨
    state.tempOut = some handle ∨ state.tuplestorestate = some handle

/-- A rescan finds no ended window and no tuplestore that is still returned. -/
def MayRescan (node : Skyline D) (state : SkylineState T R) : Prop :=
  ¬ (node.skylineMethod = .blockNestedLoop ∧ state.status = .done) ∧
  ¬ (node.skylineMethod = .oneDim ∧ state.status = .pipeout)

/-- What a method without a window owns. -/
structure ScanOwned (node : Skyline D) (state : SkylineState T R) : Prop where
  windows : ∀ handle, ¬ state.windows.Live handle
  tempIn : state.tempIn = none
  tempOut : state.tempOut = none
  oneDim : node.skylineMethod = .oneDim → StoreOwned state
  others : node.skylineMethod ≠ .oneDim → ∀ handle, ¬ state.stores.Live handle

omit [LE R] [DecidableLE R] [LT R] [DecidableLT R] in
theorem ScanOwned.of_sameFiles (owned : ScanOwned node state) {state' : SkylineState T R}
    (same : SameFiles state state') (oneDim : node.skylineMethod = .oneDim → StoreOwned state')
    (others : node.skylineMethod ≠ .oneDim → state'.stores = state.stores) :
    ScanOwned node state' where
  windows handle live := owned.windows handle (same.windows ▸ live)
  tempIn := same.tempIn.trans owned.tempIn
  tempOut := same.tempOut.trans owned.tempOut
  oneDim := oneDim
  others different handle live := owned.others different handle (others different ▸ live)

/-- A pass of a method without a window keeps what the node owns. -/
theorem execSkyline_scanOwned (unwindowed : ¬ node.skylineMethod.IsWindowed)
    (owned : ScanOwned node state) :
    Ensures (execSkyline env node state) (fun result => ScanOwned node result.1)
      fun fault => ¬ fault.OfHandle := by
  have untouched : ∀ {pass : Except Fault (SkylineState T R × Outcome T)},
      node.skylineMethod ≠ .oneDim → TouchesNothing state pass →
        Ensures pass (fun result => ScanOwned node result.1) fun fault => ¬ fault.OfHandle :=
    fun different nothing => nothing.mono fun _ same =>
      owned.of_sameFiles same.toSameFiles (fun oneDim => absurd oneDim different)
        fun _ => same.stores
  unfold execSkyline
  cases method : node.skylineMethod with
  | blockNestedLoop => exact absurd (Or.inl method) unwindowed
  | sfs => exact absurd (Or.inr method) unwindowed
  | oneDim =>
      apply (execSkyline1Dim_owned env node (owned.oneDim method)).mono
      rintro result ⟨same, storeOwned⟩
      exact owned.of_sameFiles same (fun _ => storeOwned) fun different => absurd method different
  | oneDimDistinct =>
      exact untouched (by simp [method]) (execSkyline1DimDistinct_touchesNothing env node state)
  | twoDimPresort =>
      exact untouched (by simp [method]) (execSkyline2DimPreSort_touchesNothing env node state)
  | materializedNestedLoop =>
      exact untouched (by simp [method])
        (execSkylineMaterializedNestedLoop_touchesNothing env node state)
  | unknown | elimFilter => simp [Fault.OfHandle]

omit [LE R] [DecidableLE R] [LT R] [DecidableLT R] in
/-- Before its first pass such a method owns nothing. -/
theorem scanOwned_of_idle (windows : ∀ handle, ¬ state.windows.Live handle)
    (stores : ∀ handle, ¬ state.stores.Live handle) (tempIn : state.tempIn = none)
    (tempOut : state.tempOut = none) (init : state.status = .init) : ScanOwned node state where
  windows := windows
  tempIn := tempIn
  tempOut := tempOut
  oneDim _ := ⟨fun handle live => absurd live (stores handle),
    fun pipeout => by simp [init] at pipeout,
    fun _ => stores⟩
  others _ := stores

omit [LE R] [DecidableLE R] [LT R] [DecidableLT R] in
/-- Outside `SS_PIPEOUT` of `ExecSkyline_1Dim` no tuplestore is live. -/
theorem ScanOwned.noStore (owned : ScanOwned node state) (may : MayRescan node state) :
    ∀ handle, ¬ state.stores.Live handle := by
  by_cases oneDim : node.skylineMethod = .oneDim
  · exact (owned.oneDim oneDim).closed fun pipeout => may.2 ⟨oneDim, pipeout⟩
  · exact owned.others oneDim

theorem Reachable.scanOwned (unwindowed : ¬ node.skylineMethod.IsWindowed)
    (reachable : Reachable env node (MayRescan node) state) : ScanOwned node state := by
  induction reachable with
  | init initialized =>
      rcases execInitSkyline_of_unwindowed unwindowed initialized with ⟨policy, _, rfl⟩
      apply scanOwned_of_idle
      · simp [HandleTable.Live, makeSkylineState]
      · simp [HandleTable.Live, makeSkylineState]
      · rfl
      · rfl
      · rfl
  | call _ step ih => exact (execSkyline_scanOwned unwindowed ih).ok step
  | rescan _ may rescanned ih =>
      rw [rescanWith_of_unwindowed unwindowed ih.tempIn ih.tempOut] at rescanned
      cases rescanned
      exact scanOwned_of_idle ih.windows (ih.noStore may) ih.tempIn ih.tempOut rfl

/-! ## The life cycle -/

omit [LE R] [DecidableLE R] [LT R] [DecidableLT R] in
theorem handlesReachable_of_files {state : SkylineState T R}
    (windows : ∀ handle, state.windows.Live handle → state.window = some handle)
    (files : state.files.Open) : HandlesReachable state := by
  refine ⟨windows, fun handle live => ?_⟩
  rcases files with closed | ⟨pending, overflow, reading⟩
  · exact absurd live (closed.owned handle)
  · rcases reading.owned handle live with tempIn | tempOut
    · exact Or.inl tempIn
    · exact Or.inr (Or.inl tempOut)

omit [LE R] [DecidableLE R] [LT R] [DecidableLT R] in
theorem WindowTracked.handlesReachable (windowed : node.skylineMethod.IsWindowed)
    {policy : TupleWindowPolicy} {windowSize windowSlots : Int}
    (tracked : WindowTracked env node policy windowSize windowSlots state) :
    HandlesReachable state := by
  by_cases ended : WindowEnded node state
  · rcases ended with ⟨method, done⟩
    rcases tracked.blockNestedLoop method with ⟨pass, common, contents⟩
    rw [← common.status, done] at contents
    exact handlesReachable_of_files (fun handle live => absurd live (contents.1 handle))
      (Or.inl contents.2.2)
  · rcases tracked.holds windowed ended with ⟨⟨window, holds⟩, isOpen, _⟩
    exact handlesReachable_of_files holds.owned isOpen

theorem WindowTracked.noHandleFault (windowed : node.skylineMethod.IsWindowed)
    {policy : TupleWindowPolicy} {windowSize windowSlots : Int}
    (tracked : WindowTracked env node policy windowSize windowSlots state) {fault : Fault}
    (failed : execSkyline env node state = .error fault) : ¬ fault.OfHandle := by
  rcases windowed with method | method
  · rw [execSkyline_eq_blockNestedLoop method] at failed
    rcases tracked.blockNestedLoop method with ⟨pass, view⟩
    exact (noHandleFault_blockNestedLoopPass env node (slFlagsOf policy) pass).error
      (blockNestedLoop_simulates.exists_error view failed)
  · rw [execSkyline_eq_sfs method] at failed
    rcases tracked.sortFilter method with ⟨pass, view⟩
    exact (noHandleFault_sortFilterPass env node (slFlagsOf policy) pass).error
      (sortFilter_simulates.exists_error view failed)

omit [LE R] [DecidableLE R] [LT R] [DecidableLT R] in
theorem ScanOwned.handlesReachable (owned : ScanOwned node state) : HandlesReachable state := by
  refine ⟨fun handle live => absurd live (owned.windows handle), fun handle live => ?_⟩
  by_cases oneDim : node.skylineMethod = .oneDim
  · exact Or.inr (Or.inr ((owned.oneDim oneDim).owned handle live))
  · exact absurd live (owned.others oneDim handle)

/-- In every run that rescans the node neither behind the end of block nested loop
nor while `ExecSkyline_1Dim` returns its tuplestore: no live handle is out of
reach, before and after `ExecEndSkyline`, and neither the next pass nor the next
rescan uses or ends a handle that was ended. -/
theorem skyline_handles_safe (env : ExecEnv T D R) (node : Skyline D) (state : SkylineState T R)
    (reachable : Reachable env node (MayRescan node) state) :
    HandlesReachable state ∧ HandlesReachable (execEndSkyline node state) ∧
      (∀ fault, execSkyline env node state = .error fault → ¬ fault.OfHandle) ∧
      ∀ tuples paramsChanged fault, MayRescan node state →
        rescanWith env node tuples paramsChanged state = .error fault → ¬ fault.OfHandle := by
  by_cases windowed : node.skylineMethod.IsWindowed
  · rcases reachable.windowTracked windowed with ⟨policy, windowSize, windowSlots, tracked⟩
    have reached := tracked.handlesReachable windowed
    refine ⟨reached, ⟨reached.windows, reached.stores⟩, ?_, ?_⟩
    · exact fun fault failed => tracked.noHandleFault windowed failed
    · intro tuples paramsChanged fault may failed
      rcases tracked.rescan windowed may.1 tuples paramsChanged with ⟨state', rescanned, _⟩
      rw [rescanned] at failed
      cases failed
  · have owned := reachable.scanOwned windowed
    have reached := owned.handlesReachable
    refine ⟨reached, ⟨reached.windows, reached.stores⟩, ?_, ?_⟩
    · exact fun fault failed => (execSkyline_scanOwned windowed owned).error failed
    · intro tuples paramsChanged fault _ failed
      rw [rescanWith_of_unwindowed windowed owned.tempIn owned.tempOut] at failed
      cases failed

/-- Block nested loop is rescanned in the middle of its scan, with a tuple in
`tempOut`. -/
theorem skyline_handles_safe_rescanned :
    let node : Skyline Int :=
      ⟨[integerCol 1 .min, integerCol 2 .min], false, [⟨"slots", .integer 1⟩], .blockNestedLoop,
        false⟩
    ∃ state, Reachable integerEnv node (MayRescan node) state ∧
      HandlesReachable state ∧ HandlesReachable (execEndSkyline node state) ∧
      (∀ fault, execSkyline integerEnv node state = .error fault → ¬ fault.OfHandle) ∧
      ∀ (tuples : List IntegerRow) paramsChanged fault, MayRescan node state →
        rescanWith integerEnv node tuples paramsChanged state = .error fault →
        ¬ fault.OfHandle := by
  intro node
  have reached : ∃ state, Reachable integerEnv node (MayRescan node) state ∧
      (state.status, state.timestampOut) = (.process, 1) :=
    @exists_reachable IntegerRow Int Int integerEnv node _ _ _ _ _ 7
      [[some 1, some 2], [some 2, some 1]] 0 _
      (fun state => (state.status, state.timestampOut)) _ rfl
  rcases reached with ⟨state, reachable, midScan⟩
  have status : state.status = .process := congrArg Prod.fst midScan
  have may : MayRescan node state := by simp [MayRescan, status]
  rcases reachable.windowTracked (Or.inl rfl) with ⟨_, _, _, tracked⟩
  rcases tracked.rescan (Or.inl rfl) may.1 [] true with ⟨rescanned, rescannedEq, _⟩
  have reachable' := reachable.rescan may rescannedEq
  exact ⟨rescanned, reachable', skyline_handles_safe integerEnv node rescanned reachable'⟩

/-- A rescan behind the end of block nested loop ends the window a second time, and
a rescan while `ExecSkyline_1Dim` returns its tuplestore loses that tuplestore. -/
theorem skyline_handles_lostByRescan :
    let bnl : Skyline Int :=
      ⟨[integerCol 1 .min, integerCol 2 .min], false, [], .blockNestedLoop, false⟩
    let oneDim : Skyline Int := ⟨[integerCol 1 .min], false, [], .oneDim, false⟩
    (∃ state, Reachable integerEnv bnl (fun _ => True) state ∧
      rescanWith integerEnv bnl [] false state = .error .endedTwice) ∧
    ∃ state, Reachable integerEnv oneDim (fun _ => True) state ∧ ¬ HandlesReachable state := by
  intro bnl oneDim
  constructor
  · have reached : ∃ state, Reachable integerEnv bnl (fun _ => True) state ∧
        state.status = .done :=
      @exists_reachable IntegerRow Int Int integerEnv bnl _ _ _ _ _ 3 [] 0 _ SkylineState.status _
        rfl
    rcases reached with ⟨state, reachable, done⟩
    rcases reachable.windowTracked (Or.inl rfl) with ⟨_, _, _, tracked⟩
    exact ⟨state, reachable, tracked.rescan_ended ⟨rfl, done⟩ [] false⟩
  · -- The first call returns the only tuple, the node is rescanned and called again.
    have observed : (do
        let start ← execInitSkyline integerEnv oneDim (OuterPlan.init [[some 1]]) 0
        let called ← afterPasses integerEnv oneDim 1 start
        let rescanned ← rescanWith integerEnv oneDim [] false called
        let last ← afterPasses integerEnv oneDim 1 rescanned
        return (decide ((last.stores.read 0).isSome), last.tempIn, last.tempOut,
          last.tuplestorestate)) = .ok (true, none, none, none) := rfl
    rcases (bind_eq_ok_iff _ _ _).mp observed with ⟨start, inited, observed⟩
    rcases (bind_eq_ok_iff _ _ _).mp observed with ⟨called, passed, observed⟩
    rcases (bind_eq_ok_iff _ _ _).mp observed with ⟨rescanned, rescannedEq, observed⟩
    rcases (bind_eq_ok_iff _ _ _).mp observed with ⟨last, ended, observed⟩
    have reachable : Reachable integerEnv oneDim (fun _ => True) last :=
      .passes 1 (.rescan (.passes 1 (.init inited) passed) trivial rescannedEq) ended
    refine ⟨last, reachable, fun reached => ?_⟩
    simp only [pure_eq_ok, Except.ok.injEq, Prod.mk.injEq, decide_eq_true_eq] at observed
    rcases observed with ⟨held, tempIn, tempOut, tuplestorestate⟩
    have live : last.stores.Live 0 := Option.isSome_iff_ne_none.mp held
    rcases reached.stores 0 live with found | found | found
    · simp [tempIn] at found
    · simp [tempOut] at found
    · simp [tuplestorestate] at found

end PgSkyline
