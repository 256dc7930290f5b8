import PgSkyline.Executor.ElimFilter
import PgSkyline.Executor.Node
import PgSkyline.Lib.Filtering
import PgSkyline.Passes.Admission
import PgSkyline.Passes.View

/-!
# The elimination filter is transparent

Every window tuple of the filter has been returned, however tuples leave the
window: by dominance, by the ranked replacement, or because they never got in.
So the filter drops a tuple only if it returned another one before that beats it.
-/

namespace PgSkyline

open Covering Resumable TupleWindowState

variable {T D R : Type} {env : ExecEnv T D R} {node : Skyline D}

namespace ElimFilter

/-! ## Initialization -/

/-- A successful initialization begins one empty window over the outer plan. -/
theorem exists_window_of_init {input : List T} {drawn : Nat} {state : SkylineState T R}
    (init : execInitElimFilter env node (OuterPlan.init input) drawn = .ok state) :
    ∃ policy, windowPolicyOption node "efwindowpolicy" = .ok policy ∧ state.status = .init ∧
      state.flags = slFlagsOf policy ∧ state.outerPlanState.upcoming = input ∧
      HoldsWindow state.windows state.window
        (begin env.negDblMax state.windowsize state.windowslots policy) := by
  rcases (bind_eq_ok_iff _ _ _).mp init with ⟨policy, policyEq, initWindow⟩
  rcases (bind_eq_ok_iff _ _ _).mp initWindow with ⟨windows, ended, sized⟩
  cases ended
  rcases (bind_eq_ok_iff _ _ _).mp sized with ⟨windowSize, _, slotted⟩
  rcases (bind_eq_ok_iff _ _ _).mp slotted with ⟨windowSlots, _, begun⟩
  have noWindow :
      ∀ handle, ¬ (HandleTable.empty : HandleTable (TupleWindowState T R)).Live handle :=
    fun handle => by simp [HandleTable.Live]
  split at begun
  · simp at begun
  · cases begun
    exact ⟨policy, policyEq, rfl, rfl, rfl, holdsWindow_alloc noWindow _⟩

/-! ## The invariant -/

variable (env) (node)

/-- The filter has read all but the upcoming tuples and returned `sent`. -/
structure Inv (start : TupleWindowState T R) (input sent : List T) (state : SkylineState T R) :
    Prop where
  status : state.status = .init ∨ state.status = .process
  flags : state.flags = slFlagsOf start.policy
  window : ∃ window, HoldsWindow state.windows state.window window ∧
    Balanced env.space window ∧ SameLimits start window ∧
    ∀ slot ∈ window.slots, slot.tuple ∈ sent
  filters : ∃ done, input = done ++ state.outerPlanState.upcoming ∧
    Filters (NodeBeats env node) [] done sent

/-- The upcoming tuples, and the step that leaves `SS_INIT`. -/
def variant (state : SkylineState T R) : Nat :=
  state.outerPlanState.upcoming.length + if state.status = .init then 1 else 0

/-- What a drained filter has done. -/
def Post (input sent : List T) (state : SkylineState T R) : Prop :=
  state.status = .done ∧ Filters (NodeBeats env node) [] input sent

variable {env} {node} [LE R] [DecidableLE R] [LT R] [DecidableLT R]
variable {start : TupleWindowState T R} {input sent : List T} {state : SkylineState T R}

/-- One tuple is dropped, or returned and offered to the window. -/
theorem tuple_step (inv : Inv env node start input sent state) (process : state.status = .process)
    (capacity : HasCapacity start.maxKBytes start.maxSlots) {slot : T} {rest : List T}
    (upcoming : state.outerPlanState.upcoming = slot :: rest) {outer : OuterPlan T}
    (advanced : outer.upcoming = rest) :
    ∃ result, elimFilterTuple env node { state with outerPlanState := outer } slot = .ok result ∧
      Progresses (Inv env node start input) (Post env node input) variant sent state result := by
  rcases inv.window with ⟨window, holds, balanced, limits, windowSent⟩
  rcases inv.filters with ⟨done, inputEq, filters⟩
  have progress : input = (done ++ [slot]) ++ rest := by simp [inputEq, upcoming]
  have fewer : rest.length < state.outerPlanState.upcoming.length := by simp [upcoming]
  have flags : state.flags = slFlagsOf window.policy := by rw [inv.flags, limits.2.2]
  rcases @compareWithWindow_removeCurrent T D R _ _ env node window balanced slot state.drawn
    state.resultSlot with
    ⟨scannedWindow, drawn', innerSlot', compared, slots, cursors, balanced', limits'⟩
  have sub := @Elimination.scan_sublist _ (stopsTuple env node slot) (evictsSlot env node slot)
    window.slots
  have keptSent : ∀ held ∈ scannedWindow.slots, held.tuple ∈ sent := by
    intro held keptMem
    rw [slots] at keptMem
    exact windowSent held (sub.subset keptMem)
  simp only [elimFilterTuple, holds.found.deref, ok_bind, flags, compared]
  cases survived : (Elimination.scan (stopsTuple env node slot) (evictsSlot env node slot)
      window.slots).1 with
  | false =>
      rcases Elimination.scan_stopped survived with ⟨held, keptMem, stop⟩
      have beaten : ∃ k ∈ [] ++ sent, NodeBeats env node k slot :=
        ⟨held.tuple, keptSent held (slots ▸ keptMem), (stopsTuple_iff slot held).mp stop⟩
      refine ⟨(_, .again), rfl, ⟨Or.inr process, flags.symm.trans inv.flags, ?_, ?_⟩, ?_⟩
      · exact ⟨scannedWindow, holds.assign _, balanced', limits.trans limits', keptSent⟩
      · exact ⟨done ++ [slot], by rw [progress, advanced], filters.snoc_drop beaten⟩
      · simp only [variant, advanced, process, reduceCtorEq, if_false]
        exact fewer
  | true =>
      have roomy : HasCapacity scannedWindow.maxKBytes scannedWindow.maxSlots := by
        rw [(limits.trans limits').1, (limits.trans limits').2.1]
        exact capacity
      rcases putTupleSlot_forced_spec env.negDblMax balanced' cursors roomy slot 0 with
        ⟨window', put, stored, balanced'', limits''⟩
      simp only [if_true, put, ok_bind]
      refine ⟨(_, .emit slot), rfl, ⟨Or.inr process, flags.symm.trans inv.flags, ?_, ?_⟩, ?_⟩
      · refine ⟨window', holds.assign _, balanced'', (limits.trans limits').trans limits'', ?_⟩
        intro held heldMem
        rcases stored held heldMem with new | old
        · rw [new]
          exact List.mem_append_right _ List.mem_cons_self
        · exact List.mem_append_left _ (keptSent held old)
      · exact ⟨done ++ [slot], by rw [progress, advanced], filters.snoc_keep slot⟩
      · simp only [variant, advanced, process, reduceCtorEq, if_false]
        exact fewer

/-- One iteration. -/
theorem step (capacity : HasCapacity start.maxKBytes start.maxSlots)
    (inv : Inv env node start input sent state) :
    ∃ result, execElimFilter env node state = .ok result ∧
      Progresses (Inv env node start input) (Post env node input) variant sent state result := by
  rcases inv.status with init | process
  · simp only [execElimFilter, init, pure_eq_ok]
    refine ⟨_, rfl, ⟨Or.inr rfl, inv.flags, inv.window, inv.filters⟩, ?_⟩
    simp [variant, init]
  · cases upcoming : state.outerPlanState.upcoming with
    | nil =>
        rcases inv.filters with ⟨done, inputEq, filters⟩
        rw [upcoming, List.append_nil] at inputEq
        subst inputEq
        simp only [execElimFilter, process, OuterPlan.procNode_of_upcoming_nil upcoming]
        exact ⟨(_, .finished), rfl, rfl, filters⟩
    | cons slot rest =>
        rcases OuterPlan.procNode_of_upcoming_cons upcoming with ⟨fetched, advanced⟩
        rw [fetched] at advanced
        rcases tuple_step inv process capacity upcoming advanced with ⟨result, stepEq, progress⟩
        refine ⟨result, ?_, progress⟩
        simp only [execElimFilter, process, fetched]
        exact process ▸ stepEq

end ElimFilter

/-! ## The results -/

variable (env) (node) [LE R] [DecidableLE R] [LT R] [DecidableLT R]

/-- The results of the elimination filter are a subsequence of its input, each
dropped tuple is beaten by a tuple returned before, and so the skyline of the
results is the skyline of the input. -/
theorem execElimFilter_transparent (lawful : LawfulCols node.cols) (input : List T) (drawn : Nat)
    (state : SkylineState T R)
    (init : execInitElimFilter env node (OuterPlan.init input) drawn = .ok state)
    (capacity : HasCapacity state.windowsize state.windowslots) :
    ∃ out last, Drains (execElimFilter env node) state out last ∧ last.status = .done ∧
      out.Sublist input ∧ Filters (NodeBeats env node) [] input out ∧
      SameSkyline env.slotGetattr node.cols node.skylineDistinct input out ∧
      ∀ result, IsSkyline env.slotGetattr node.cols node.skylineDistinct out result →
        IsSkyline env.slotGetattr node.cols node.skylineDistinct input result := by
  rcases ElimFilter.exists_window_of_init init with ⟨policy, _, status, flags, upcoming, holds⟩
  have inv : ElimFilter.Inv env node
      (begin env.negDblMax state.windowsize state.windowslots policy) input [] state := by
    refine ⟨Or.inl status, flags, ?_, [], by simp [upcoming], Filters.nil []⟩
    exact ⟨_, holds, balanced_begin _ _ _ _, SameLimits.refl _, by simp [begin]⟩
  rcases drains_of_variant (ElimFilter.Inv env node _ input) (ElimFilter.Post env node input)
    ElimFilter.variant (fun sent state inv => ElimFilter.step capacity inv) [] state inv with
    ⟨out, last, drains, done, filters⟩
  have covers := Filters.covers filters
  exact ⟨out, last, drains, done, filters.sublist, filters, sameSkyline_of_covers lawful covers,
    fun result skyline => skyline.of_covers lawful covers⟩

/-- One window slot with random ranks, so that a returned tuple is displaced. -/
theorem execElimFilter_transparent_oneSlot :
    let node : Skyline Int :=
      ⟨[(1, .min), (2, .max)].map fun column => integerCol column.1 column.2, true,
        [⟨"efslots", .integer 1⟩, ⟨"efwindowpolicy", .string "random"⟩], .elimFilter, true⟩
    let input : List IntegerRow :=
      [[some 2, some 2], [some 1, some 1], [some 2, some 1], [some 1, some 1], [some 3, none]]
    ∃ state, execInitElimFilter integerEnv node (OuterPlan.init input) 0 = .ok state ∧
      ∃ out last, Drains (execElimFilter integerEnv node) state out last ∧ last.status = .done ∧
        out.Sublist input ∧ Filters (NodeBeats integerEnv node) [] input out ∧
        SameSkyline integerEnv.slotGetattr node.cols node.skylineDistinct input out ∧
        ∀ result, IsSkyline integerEnv.slotGetattr node.cols node.skylineDistinct out result →
          IsSkyline integerEnv.slotGetattr node.cols node.skylineDistinct input result :=
  ⟨_, rfl, execElimFilter_transparent integerEnv _ (lawfulCols_integerCol _) _ 0 _ rfl (by decide)⟩

end PgSkyline
