import PgSkyline.BlockNestedLoop.Result
import PgSkyline.ElimFilter.Result
import PgSkyline.NestedLoop.Result
import PgSkyline.OneDim.Result
import PgSkyline.Planner.GroupingPlanner
import PgSkyline.Presort.Result
import PgSkyline.SortFilter.Result

/-!
# Plans read to their end

`UpperNode.Delivers` says what a node may have handed out so far.  This module says
what it has handed out once it is read to its end, and what each skyline method needs
of its input for this to be the skyline.
-/

namespace PgSkyline

open Comparison Covering Pipeline Resumable TupleWindowState

variable {T D R EC : Type} [LE R] [DecidableLE R] [LT R] [DecidableLT R]

/-- Over a plan that delivers `input` the node, read to its end, delivers `out`. -/
def UpperNode.Computes (env : ExecEnv T D R) (order : Oid → D → D → Int) (row : T → EC → Option D)
    (input out : List T) : UpperNode T D EC → Prop
  | .elimFilter node => ∃ drawn state last,
      execInitElimFilter env node (OuterPlan.init input) drawn = .ok state ∧
        Drains (execElimFilter env node) state out last
  | .sort pathkeys => out.Perm input ∧ SortedByPathkeys order pathkeys (out.map row)
  | .material => out = input
  | .skyline node => ∃ drawn state last,
      execInitSkyline env node (OuterPlan.init input) drawn = .ok state ∧
        Drains (execSkyline env node) state out last
  | .unique tuplesMatch => out = execUnique tuplesMatch input
  | .limit offset count => out = execLimit offset count input

/-- The nodes one above the other, each read to its end. -/
def ComputeInTurn (env : ExecEnv T D R) (order : Oid → D → D → Int) (row : T → EC → Option D) :
    List (UpperNode T D EC) → List T → List T → Prop :=
  Pipeline.InTurn fun node input out => node.Computes env order row input out

/-- The executor accepts the options of the node. -/
def UpperNode.Initializes (env : ExecEnv T D R) : UpperNode T D EC → Prop
  | .elimFilter node => ∀ input, ∃ drawn state,
      execInitElimFilter env node (OuterPlan.init input) drawn = .ok state
  | .skyline node => ∀ input, ∃ drawn state,
      execInitSkyline env node (OuterPlan.init input) drawn = .ok state
  | _ => True

section Computes

variable {env : ExecEnv T D R} {order : Oid → D → D → Int} {row : T → EC → Option D}
  {input out : List T}

/-- What a node computes it may have handed out. -/
theorem UpperNode.Computes.delivers {node : UpperNode T D EC}
    (computes : node.Computes env order row input out) :
    node.Delivers env order row input out := by
  cases node with
  | elimFilter node =>
      rcases computes with ⟨drawn, state, last, init, drains⟩
      rcases (exists_drains_iff_exists_run state out).mp ⟨last, drains⟩ with ⟨n, finished⟩
      exact ⟨drawn, state, n, init, by rw [finished]⟩
  | sort pathkeys => exact ⟨out, computes.1, computes.2, List.prefix_refl out⟩
  | material => exact computes ▸ List.prefix_refl out
  | skyline node =>
      rcases computes with ⟨drawn, state, last, init, drains⟩
      rcases (exists_drains_iff_exists_run state out).mp ⟨last, drains⟩ with ⟨n, finished⟩
      exact ⟨drawn, state, n, init, by rw [finished]⟩
  | unique tuplesMatch => exact computes ▸ List.prefix_refl out
  | limit offset count => exact computes ▸ List.prefix_refl out

/-- A run that finishes reads the filter to its end. -/
theorem computes_elimFilter_of_run {node : Skyline D} {state : SkylineState T R} (drawn n : Nat)
    (init : execInitElimFilter env node (OuterPlan.init input) drawn = .ok state)
    (finished : run (execElimFilter env node) n state = (out, .finished)) :
    (.elimFilter node : UpperNode T D EC).Computes env order row input out := by
  rcases (exists_drains_iff_exists_run state out).mpr ⟨n, finished⟩ with ⟨last, drains⟩
  exact ⟨drawn, state, last, init, drains⟩

theorem computes_skyline_of_run {node : Skyline D} {state : SkylineState T R} (drawn n : Nat)
    (init : execInitSkyline env node (OuterPlan.init input) drawn = .ok state)
    (finished : run (execSkyline env node) n state = (out, .finished)) :
    (.skyline node : UpperNode T D EC).Computes env order row input out := by
  rcases (exists_drains_iff_exists_run state out).mpr ⟨n, finished⟩ with ⟨last, drains⟩
  exact ⟨drawn, state, last, init, drains⟩

theorem ComputeInTurn.deliverInTurn {nodes : List (UpperNode T D EC)}
    (inTurn : ComputeInTurn env order row nodes input out) :
    DeliverInTurn env order row nodes input out :=
  inTurn.mono fun _ _ _ computes => computes.delivers

end Computes

/-! ## What each method needs -/

section Methods

variable (env : ExecEnv T D R) (node : Skyline D)

/-- What a method needs of its input, and of the server, to return the skyline. -/
def MethodFits (input : List T) : Prop :=
  match node.skylineMethod with
  | .oneDim => node.skylineDistinct = false ∧ ∃ col, node.cols = [col] ∧
      col.skylineOfDir ≠ .diff ∧ (env.typbyval col.skylineColIdx = true ∨ input ≠ [])
  | .oneDimDistinct => node.skylineDistinct = true ∧ ∃ col, node.cols = [col] ∧
      col.skylineOfDir ≠ .diff
  | .twoDimPresort => NoLaterDominates env.slotGetattr node.cols input ∧
      ∃ before : T → T → Prop, Relays (NodeBeats env node) before input ∧ input.Pairwise before
  | .materializedNestedLoop => True
  | .blockNestedLoop => ∀ windowSize windowSlots, WindowOptions env node windowSize windowSlots →
      HasCapacity windowSize windowSlots
  | .sfs => NoLaterDominates env.slotGetattr node.cols input ∧
      ∀ windowSize windowSlots, WindowOptions env node windowSize windowSlots →
        HasCapacity windowSize windowSlots
  | .unknown | .elimFilter => False

variable {env} {node} {input : List T} {drawn : Nat} {state : SkylineState T R}

/-- A one-dimensional method over one column that is not a DIFF column. -/
theorem oneDim_isSkyline {col : SkylineCol D} (lawful : LawfulCols node.cols)
    (cols : node.cols = [col]) (ordinary : col.skylineOfDir ≠ .diff)
    (method : node.skylineMethod = if node.skylineDistinct then .oneDimDistinct else .oneDim)
    (assigned : node.skylineMethod = .oneDim → env.typbyval col.skylineColIdx = true ∨ input ≠ [])
    (init : execInitSkyline env node (OuterPlan.init input) drawn = .ok state) :
    ∃ out last, Drains (execSkyline env node) state out last ∧
      IsSkyline env.slotGetattr node.cols node.skylineDistinct input out := by
  have unwindowed : ¬ node.skylineMethod.IsWindowed := by
    rw [method]
    split <;> simp [SkylineMethod.IsWindowed]
  rcases atStart_of_init unwindowed init with ⟨start, empty⟩
  cases input with
  | nil =>
      have byValue : node.skylineMethod = .oneDim → env.typbyval col.skylineColIdx = true :=
        fun isOneDim => (assigned isOneDim).resolve_right (not_not_intro rfl)
      rcases oneDim_drains_nil cols method byValue start empty with ⟨last, drains, _⟩
      have sieved : NodeSieved env node [] [] := ⟨Covers.refl _ _, List.Pairwise.nil⟩
      exact ⟨[], last, drains, sieved.isSkyline lawful⟩
  | cons tuple rest =>
      have threeWay : ThreeWay (col.compare env.slotGetattr) :=
        SkylineCol.compare_threeWay env.slotGetattr (lawful col (by simp [cols]))
      rcases oneDim_drains cols threeWay method tuple rest start empty with
        ⟨least, last, isLeast, drains, _⟩
      have skylineIff := OneDim.isSkyline_results_iff threeWay isLeast node.skylineDistinct
      rw [← cols] at skylineIff
      exact ⟨_, last, drains, skylineIff.mpr (Or.inl ordinary)⟩

/-- Where its needs are met, every method returns the skyline. -/
theorem MethodFits.isSkyline (lawful : LawfulCols node.cols) (fits : MethodFits env node input)
    (init : execInitSkyline env node (OuterPlan.init input) drawn = .ok state) :
    ∃ out last, Drains (execSkyline env node) state out last ∧
      IsSkyline env.slotGetattr node.cols node.skylineDistinct input out := by
  unfold MethodFits at fits
  cases method : node.skylineMethod with
  | oneDim =>
      rw [method] at fits
      rcases fits with ⟨distinct, col, cols, ordinary, assigned⟩
      exact oneDim_isSkyline lawful cols ordinary (by simp [method, distinct])
        (fun _ => assigned) init
  | oneDimDistinct =>
      rw [method] at fits
      rcases fits with ⟨distinct, col, cols, ordinary⟩
      exact oneDim_isSkyline lawful cols ordinary (by simp [method, distinct])
        (fun isOneDim => by simp [method] at isOneDim) init
  | twoDimPresort =>
      rw [method] at fits
      rcases fits with ⟨inOrder, before, relays, ordered⟩
      have unwindowed : ¬ node.skylineMethod.IsWindowed := by
        simp [SkylineMethod.IsWindowed, method]
      rcases presort_drains lawful method inOrder (atStart_of_init unwindowed init).1 with
        ⟨last, drains, _⟩
      have sieved := Presort.sieved_lastKept lawful inOrder relays ordered
      exact ⟨_, last, drains, sieved.isSkyline lawful⟩
  | materializedNestedLoop =>
      have unwindowed : ¬ node.skylineMethod.IsWindowed := by
        simp [SkylineMethod.IsWindowed, method]
      rcases nestedLoop_drains lawful method (atStart_of_init unwindowed init).1 with
        ⟨out, last, drains, _, skyline⟩
      exact ⟨out, last, drains, skyline⟩
  | blockNestedLoop =>
      rw [method] at fits
      rcases windowMethodStart_of_init (Or.inl method) init with ⟨policy, _, options, start⟩
      rcases blockNestedLoop_drains_of_start env node method start (fits _ _ options) with
        ⟨out, last, drains, _, sieved⟩
      exact ⟨out, last, drains, (sieved lawful).isSkyline lawful⟩
  | sfs =>
      rw [method] at fits
      rcases fits with ⟨inOrder, capacity⟩
      rcases windowMethodStart_of_init (Or.inr method) init with ⟨policy, _, options, start⟩
      rcases sortFilter_drains_or_misuse_of_start env node method start (capacity _ _ options) with
        ⟨out, last, drains, _, sieved⟩ | ⟨_, _, _, _, _, _, notPresorted⟩
      · exact ⟨out, last, drains, (sieved ⟨lawful, inOrder⟩).isSkyline lawful⟩
      · exact absurd ⟨lawful, inOrder⟩ notPresorted
  | unknown | elimFilter =>
      rw [method] at fits
      exact fits.elim

/-- The node, over a plan that delivers what its method needs, is read to its end and has
returned `out`. -/
def Skyline.Returns (env : ExecEnv T D R) (node : Skyline D) (input out : List T) : Prop :=
  MethodFits env node input ∧ ∃ drawn state last,
    execInitSkyline env node (OuterPlan.init input) drawn = .ok state ∧
      Drains (execSkyline env node) state out last

theorem returns_of_run {out : List T} (drawn n : Nat) (fits : MethodFits env node input)
    (init : execInitSkyline env node (OuterPlan.init input) drawn = .ok state)
    (finished : run (execSkyline env node) n state = (out, .finished)) :
    node.Returns env input out := by
  rcases (exists_drains_iff_exists_run state out).mpr ⟨n, finished⟩ with ⟨last, drains⟩
  exact ⟨fits, drawn, state, last, init, drains⟩

theorem Skyline.Returns.isSkyline {out : List T} (returns : node.Returns env input out)
    (lawful : LawfulCols node.cols) :
    IsSkyline env.slotGetattr node.cols node.skylineDistinct input out := by
  rcases returns with ⟨fits, drawn, state, last, init, drains⟩
  rcases fits.isSkyline lawful init with ⟨out', last', drains', skyline⟩
  rw [(drains.unique drains').1]
  exact skyline

/-- A materialized nested loop over the same columns, which needs nothing of its input. -/
def nestedLoopNode (node : Skyline D) : Skyline D :=
  { node with skylineOfOptions := [], skylineMethod := .materializedNestedLoop }

theorem exists_returns_nestedLoopNode (env : ExecEnv T D R) (lawful : LawfulCols node.cols)
    (input : List T) : ∃ out, (nestedLoopNode node).Returns env input out := by
  have fits : MethodFits env (nestedLoopNode node) input := trivial
  have lawfulNode : LawfulCols (nestedLoopNode node).cols := lawful
  have init : execInitSkyline env (nestedLoopNode node) (OuterPlan.init input) 0 = .ok _ := rfl
  rcases fits.isSkyline lawfulNode init with ⟨out, last, drains, _⟩
  exact ⟨out, fits, 0, _, last, init, drains⟩

/-- The options of an elimination filter leave its window room for a tuple. -/
def FilterFits (node : Skyline D) : Prop :=
  ∀ windowSize windowSlots, elimFilterWindowSizeOption node = .ok windowSize →
    elimFilterWindowSlotsOption node = .ok windowSlots → HasCapacity windowSize windowSlots

omit [LE R] [DecidableLE R] [LT R] [DecidableLT R] in
/-- What an initialized filter took from the options. -/
theorem elimFilterOptions_of_init
    (init : execInitElimFilter env node (OuterPlan.init input) drawn = .ok state) :
    elimFilterWindowSizeOption node = .ok state.windowsize ∧
      elimFilterWindowSlotsOption node = .ok state.windowslots := by
  rcases (bind_eq_ok_iff _ _ _).mp init with ⟨policy, _, initWindow⟩
  rcases (bind_eq_ok_iff _ _ _).mp initWindow with ⟨windows, _, sized⟩
  rcases (bind_eq_ok_iff _ _ _).mp sized with ⟨windowSize, size, slotted⟩
  rcases (bind_eq_ok_iff _ _ _).mp slotted with ⟨windowSlots, slots, begun⟩
  split at begun
  · simp at begun
  · cases begun
    exact ⟨size, slots⟩

/-- A filter that is read to its end has dropped only what its results beat. -/
theorem FilterFits.filters (fits : FilterFits node)
    (init : execInitElimFilter env node (OuterPlan.init input) drawn = .ok state) :
    ∃ out last, Drains (execElimFilter env node) state out last ∧
      Filters (NodeBeats env node) [] input out := by
  rcases ElimFilter.exists_window_of_init init with ⟨policy, _, status, flags, upcoming, holds⟩
  rcases elimFilterOptions_of_init init with ⟨size, slots⟩
  have inv : ElimFilter.Inv env node
      (begin env.negDblMax state.windowsize state.windowslots policy) input [] state := by
    refine ⟨Or.inl status, flags, ?_, [], by simp [upcoming], Filters.nil []⟩
    exact ⟨_, holds, balanced_begin _ _ _ _, SameLimits.refl _, by simp [begin]⟩
  rcases drains_of_variant (ElimFilter.Inv env node _ input) (ElimFilter.Post env node input)
    ElimFilter.variant (fun sent state inv => ElimFilter.step (fits _ _ size slots) inv) [] state
    inv with ⟨out, last, drains, _, filters⟩
  exact ⟨out, last, drains, filters⟩

end Methods

end PgSkyline
