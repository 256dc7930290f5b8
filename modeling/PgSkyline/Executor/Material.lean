import PgSkyline.Executor.Scans
import PgSkyline.Storage.Refinement

/-!
# Materialization nodes

Translation of `executor/nodeMaterial.c` for forward scans, and of
`ExecSkyline_MaterializedNestedLoop` over such a node.

A Material node collects the tuples of its subplan in a tuplestore as they are
asked for.  Seen from above it is an outer plan that delivers them all: the
tuples not collected yet are those the subplan still has to deliver.  The
parameters of the node itself do not change.
-/

namespace PgSkyline

open Resumable Tuplestorestate

structure MaterialState (T : Type) where
  eflags : ExecFlags
  eofUnderlying : Bool
  tuplestorestate : Option (Tuplestorestate T)
  outerPlanState : OuterPlan T

namespace MaterialState

variable {T : Type}

/-- `node->eflags != 0`. -/
def needsStore (node : MaterialState T) : Bool :=
  node.eflags.rewind || node.eflags.backward || node.eflags.mark

/-- `ExecInitMaterial` over a subplan. -/
def execInitMaterial (eflags : ExecFlags) (outer : OuterPlan T) : MaterialState T :=
  ⟨eflags, false, none, outer⟩

section Operations

variable (space : ChunkSpace T) (workMem : Int)

/-- If first time through, and we need a tuplestore, initialize it. -/
def initStore (node : MaterialState T) : Except Fault (Option (Tuplestorestate T)) :=
  match node.tuplestorestate with
  | some store => return some store
  | none =>
      if node.needsStore then do
        return some (← (Tuplestorestate.beginHeap space true workMem).setEflags node.eflags)
      else return none

/-- Fetch another row from the subplan and append it to the tuplestore. -/
def fetchRow (node : MaterialState T) : Option T × MaterialState T :=
  if node.eofUnderlying then (none, node)
  else
    let (slot, outer) := node.outerPlanState.procNode
    match slot with
    | none => (none, { node with outerPlanState := outer, eofUnderlying := true })
    | some tuple => (some tuple, { node with
        outerPlanState := outer
        tuplestorestate := node.tuplestorestate.map fun store => puttupleslot space store tuple })

/-- `ExecMaterial`, going forward. -/
def execMaterial (node : MaterialState T) : Except Fault (Option T × MaterialState T) := do
  let tuplestorestate ← initStore space workMem node
  let node := { node with tuplestorestate }
  match tuplestorestate with
  | none => return fetchRow space node
  | some store =>
      if store.eofReached then return fetchRow space node
      else
        let (slot, store) ← gettupleslot space store
        let node := { node with tuplestorestate := some store }
        match slot with
        | some tuple => return (some tuple, node)
        | none => return fetchRow space node

/-- `ExecMaterialMarkPos`. -/
def execMaterialMarkPos (node : MaterialState T) : Except Fault (MaterialState T) := do
  assertThat node.eflags.mark "node->eflags & EXEC_FLAG_MARK"
  match node.tuplestorestate with
  | none => return node
  | some store => do return { node with tuplestorestate := some (← markpos space store) }

/-- `ExecMaterialRestrPos`. -/
def execMaterialRestrPos (node : MaterialState T) : Except Fault (MaterialState T) := do
  assertThat node.eflags.mark "node->eflags & EXEC_FLAG_MARK"
  match node.tuplestorestate with
  | none => return node
  | some store => do return { node with tuplestorestate := some (← restorepos store) }

/-- `ExecMaterialReScan`. -/
def execMaterialReScan (node : MaterialState T) : Except Fault (MaterialState T) :=
  let outer :=
    if node.outerPlanState.chgParam.isNone then node.outerPlanState.reScan else node.outerPlanState
  if node.needsStore then
    match node.tuplestorestate with
    | none => return node
    | some store =>
        if node.outerPlanState.chgParam.isSome || !node.eflags.rewind then
          return { node with
            tuplestorestate := none, outerPlanState := outer, eofUnderlying := false }
        else do return { node with tuplestorestate := some (← rescan store) }
  else return { node with outerPlanState := outer, eofUnderlying := false }

end Operations

/-! ## Material nodes as outer plans -/

/-- `EXEC_FLAG_REWIND | EXEC_FLAG_MARK`, which the nested loop asks for. -/
def rewindMark : ExecFlags :=
  ⟨true, false, true⟩

/-- The node has stored the tuples before those that its subplan still delivers,
and reads them at the positions of the outer plan. -/
def Stores (node : MaterialState T) (outer : OuterPlan T) : Prop :=
  match node.tuplestorestate with
  | none => outer.pos = 0 ∧ outer.mark = 0 ∧ node.eofUnderlying = false ∧
      node.outerPlanState.upcoming = outer.tuples
  | some store => ∃ log, Represents 0 store log ∧ store.eflags = rewindMark ∧
      log.readPos = outer.pos ∧ log.markPos = outer.mark ∧
      log.entries ++ node.outerPlanState.upcoming = outer.tuples ∧
      (node.eofUnderlying = true → node.outerPlanState.upcoming = [])

/-- The node behaves as an outer plan with all the tuples at hand. -/
structure Refines (node : MaterialState T) (outer : OuterPlan T) : Prop where
  eflags : node.eflags = rewindMark
  settled : node.outerPlanState.chgParam = none
  outerSettled : outer.chgParam = none
  stores : Stores node outer

theorem refines_execInitMaterial (tuples : List T) :
    Refines (execInitMaterial rewindMark (OuterPlan.init tuples)) (OuterPlan.init tuples) :=
  ⟨rfl, rfl, rfl, rfl, rfl, rfl, rfl⟩

variable {node : MaterialState T} {outer : OuterPlan T}

/-- Before the first fetch the node begins a tuplestore. -/
theorem Refines.initStore (space : ChunkSpace T) (workMem : Int) (refines : Refines node outer) :
    ∃ store, initStore space workMem node = .ok (some store) ∧
      Refines { node with tuplestorestate := some store } outer := by
  have stores := refines.stores
  unfold Stores at stores
  unfold MaterialState.initStore
  cases begun : node.tuplestorestate with
  | some store =>
      refine ⟨store, rfl, refines.eflags, refines.settled, refines.outerSettled, ?_⟩
      rw [begun] at stores
      exact stores
  | none =>
      rw [begun] at stores
      rcases stores with ⟨pos, mark, underlying, upcoming⟩
      have needed : node.needsStore = true := by
        rw [needsStore, refines.eflags]
        rfl
      simp only [needed, if_true, refines.eflags]
      refine ⟨_, rfl, rfl, refines.settled, refines.outerSettled, MarkedLog.empty, ?_⟩
      refine ⟨represents_beginHeap true workMem rewindMark, rfl, pos.symm, mark.symm, upcoming, ?_⟩
      intro atEnd
      rw [underlying] at atEnd
      cases atEnd

/-- A row is fetched when everything stored was read: it is the next tuple. -/
theorem Refines.fetchRow (space : ChunkSpace T) (refines : Refines node outer)
    {store : Tuplestorestate T} (begun : node.tuplestorestate = some store)
    (atEnd : store.eofReached = true) :
    (fetchRow space node).1 = outer.procNode.1 ∧
      Refines (fetchRow space node).2 outer.procNode.2 := by
  have stores := refines.stores
  unfold Stores at stores
  rw [begun] at stores
  rcases stores with ⟨log, rep, eflags, readPos, markPos, contents, exhausted⟩
  have met : log.atEnd = true := rep.eofReached.symm.trans atEnd
  have position : outer.pos = log.entries.length := by
    rw [← readPos, log.readPos_of_atEnd met]
  have upcoming : outer.upcoming = node.outerPlanState.upcoming := by
    rw [OuterPlan.upcoming, OuterPlan.refresh_of_settled refines.outerSettled, ← contents, position,
      List.drop_left]
  have settledRefresh := OuterPlan.refresh_of_settled refines.settled
  have outerRefresh := OuterPlan.refresh_of_settled refines.outerSettled
  unfold MaterialState.fetchRow
  cases rest : node.outerPlanState.upcoming with
  | nil =>
      have ended := OuterPlan.procNode_of_upcoming_nil (upcoming.trans rest)
      have subplan := OuterPlan.procNode_of_upcoming_nil rest
      rw [ended, outerRefresh]
      by_cases underlying : node.eofUnderlying = true
      · rw [if_pos underlying]
        exact ⟨rfl, refines⟩
      · rw [if_neg underlying, subplan, settledRefresh]
        refine ⟨rfl, refines.eflags, refines.settled, refines.outerSettled, ?_⟩
        simp only [Stores, begun]
        exact ⟨log, rep, eflags, readPos, markPos, contents, fun _ => rest⟩
  | cons tuple later =>
      have underlying : ¬ node.eofUnderlying = true := by
        intro ended
        rw [exhausted ended] at rest
        cases rest
      rcases OuterPlan.procNode_of_upcoming_cons (upcoming.trans rest) with ⟨fetched, _⟩
      rcases OuterPlan.procNode_of_upcoming_cons rest with ⟨subplan, advanced⟩
      rw [fetched, outerRefresh, if_neg underlying]
      rw [subplan] at advanced ⊢
      rw [settledRefresh] at advanced ⊢
      refine ⟨rfl, refines.eflags, refines.settled, refines.outerSettled, ?_⟩
      simp only [Stores, begun, Option.map_some]
      refine ⟨log.append tuple, rep.puttupleslot space tuple, ?_, ?_, markPos, ?_, ?_⟩
      · rw [eflags_puttupleslot, eflags]
      · rw [MarkedLog.readPos_append_of_atEnd met, position]
      · rw [advanced, ← contents, rest, MarkedLog.append, List.append_assoc, List.singleton_append]
      · exact fun ended => absurd ended underlying

/-- `ExecMaterial` returns the next tuple of the outer plan. -/
theorem Refines.execMaterial (space : ChunkSpace T) (workMem : Int)
    (refines : Refines node outer) :
    ∃ node', execMaterial space workMem node = .ok (outer.procNode.1, node') ∧
      Refines node' outer.procNode.2 := by
  rcases refines.initStore space workMem with ⟨store, begun, refines'⟩
  have stores := refines'.stores
  rcases stores with ⟨log, rep, eflags, readPos, markPos, contents, exhausted⟩
  simp only [MaterialState.execMaterial, begun, ok_bind, pure_eq_ok]
  by_cases atEnd : store.eofReached = true
  · rcases refines'.fetchRow space rfl atEnd with ⟨slot, next⟩
    rw [if_pos atEnd]
    exact ⟨_, by rw [← slot], next⟩
  · rcases rep.gettupleslot space with ⟨store', read, rep', same⟩
    rw [if_neg atEnd, read]
    simp only [ok_bind]
    have outerRefresh := OuterPlan.refresh_of_settled refines.outerSettled
    by_cases inside : log.readPos < log.entries.length
    · rcases MarkedLog.next_of_lt inside with ⟨answer, next, _⟩
      have found : outer.tuples[outer.pos]? = some log.entries[log.readPos] := by
        rw [← contents, ← readPos, List.getElem?_append_left inside, List.getElem?_eq_getElem]
      have fetched : outer.procNode =
          (some log.entries[log.readPos], { outer with pos := outer.pos + 1 }) := by
        simp only [OuterPlan.procNode, outerRefresh, found]
      rw [answer, List.getElem?_eq_getElem inside, fetched]
      refine ⟨_, rfl, refines.eflags, refines.settled, refines.outerSettled, log.next.2, rep', ?_⟩
      rw [MarkedLog.entries_next, MarkedLog.markPos_next, next]
      exact ⟨same.trans eflags, congrArg Nat.succ readPos, markPos, contents, exhausted⟩
    · -- Everything stored was read, so the reader has met the end.
      rcases MarkedLog.next_of_not_lt inside with ⟨answer, next, ended⟩
      rw [answer]
      have behind : Refines { node with tuplestorestate := some store' } outer := by
        refine ⟨refines.eflags, refines.settled, refines.outerSettled, log.next.2, rep', ?_⟩
        rw [MarkedLog.entries_next, MarkedLog.markPos_next, next]
        exact ⟨same.trans eflags, readPos, markPos, contents, exhausted⟩
      rcases behind.fetchRow space rfl (rep'.eofReached.trans ended) with ⟨slot, next'⟩
      exact ⟨_, by rw [← slot], next'⟩

theorem Refines.execMaterialMarkPos (space : ChunkSpace T) (refines : Refines node outer) :
    ∃ node', execMaterialMarkPos space node = .ok node' ∧ Refines node' outer.markPos := by
  have stores := refines.stores
  unfold Stores at stores
  have mark : node.eflags.mark = true := by rw [refines.eflags]; rfl
  simp only [MaterialState.execMaterialMarkPos, mark, assertThat_true, ok_bind, pure_eq_ok]
  cases begun : node.tuplestorestate with
  | none =>
      rw [begun] at stores
      rcases stores with ⟨pos, _, underlying, upcoming⟩
      refine ⟨node, rfl, refines.eflags, refines.settled, refines.outerSettled, ?_⟩
      simp only [Stores, begun]
      exact ⟨pos, pos, underlying, upcoming⟩
  | some store =>
      rw [begun] at stores
      rcases stores with ⟨log, rep, eflags, readPos, _, contents, exhausted⟩
      rcases rep.markpos space (by rw [eflags]; rfl) with ⟨store', base, marked, rep', same, kept⟩
      have untrimmed : base = 0 := kept (by rw [canTrim, eflags]; rfl)
      rw [untrimmed] at rep'
      simp only [marked, ok_bind]
      refine ⟨_, rfl, refines.eflags, refines.settled, refines.outerSettled, log.mark, rep', ?_⟩
      exact ⟨same.trans eflags, readPos, readPos, contents, exhausted⟩

theorem Refines.execMaterialRestrPos (refines : Refines node outer) :
    ∃ node', execMaterialRestrPos node = .ok node' ∧ Refines node' outer.restrPos := by
  have stores := refines.stores
  unfold Stores at stores
  have mark : node.eflags.mark = true := by rw [refines.eflags]; rfl
  simp only [MaterialState.execMaterialRestrPos, mark, assertThat_true, ok_bind, pure_eq_ok]
  cases begun : node.tuplestorestate with
  | none =>
      rw [begun] at stores
      rcases stores with ⟨_, marked, underlying, upcoming⟩
      refine ⟨node, rfl, refines.eflags, refines.settled, refines.outerSettled, ?_⟩
      simp only [Stores, begun]
      exact ⟨marked, marked, underlying, upcoming⟩
  | some store =>
      rw [begun] at stores
      rcases stores with ⟨log, rep, eflags, _, markPos, contents, exhausted⟩
      rcases rep.restorepos (by rw [eflags]; rfl) with ⟨store', restored, rep', same⟩
      simp only [restored, ok_bind]
      refine ⟨_, rfl, refines.eflags, refines.settled, refines.outerSettled, log.restore, rep', ?_⟩
      exact ⟨same.trans eflags, markPos, markPos, contents, exhausted⟩

theorem Refines.execMaterialReScan (refines : Refines node outer) :
    ∃ node', execMaterialReScan node = .ok node' ∧ Refines node' outer.reScan := by
  have stores := refines.stores
  unfold Stores at stores
  have needed : node.needsStore = true := by
    rw [needsStore, refines.eflags]
    rfl
  have rewound : outer.reScan = { outer with pos := 0 } := by
    simp only [OuterPlan.reScan, refines.outerSettled]
  simp only [MaterialState.execMaterialReScan, needed, if_true, refines.settled, refines.eflags,
    rewindMark, rewound, pure_eq_ok]
  cases begun : node.tuplestorestate with
  | none =>
      rw [begun] at stores
      rcases stores with ⟨_, marked, underlying, upcoming⟩
      refine ⟨node, rfl, refines.eflags, refines.settled, refines.outerSettled, ?_⟩
      simp only [Stores, begun]
      exact ⟨trivial, marked, underlying, upcoming⟩
  | some store =>
      rw [begun] at stores
      rcases stores with ⟨log, rep, eflags, _, markPos, contents, exhausted⟩
      rcases rep.rescan (by rw [eflags]; rfl) with ⟨store', rescanned, rep', same⟩
      simp only [rescanned, ok_bind]
      refine ⟨_, rfl, rfl, refines.settled, refines.outerSettled, log.rewind, rep', ?_⟩
      exact ⟨same.trans eflags, rfl, markPos, contents, exhausted⟩

end MaterialState

/-! ## The nested loop -/

/-- Where a call of the nested loop is: in the outer loop, or in the inner loop
that has read this many tuples. -/
inductive LoopPoint where
  | outer
  | inner (slInnerpos : Nat)
  deriving DecidableEq, Repr

/-- The part of the executor state that the nested loop uses, over a Material
node. -/
structure NestedLoopState (T : Type) where
  status : SkylineStatus
  slPos : Nat
  resultSlot : Option T
  outerPlanState : MaterialState T
  point : LoopPoint

/-- What a call of `ExecProcNode` was made for, and what came of it. -/
inductive LoopEvent (T : Type) where
  /-- The outer loop got a tuple. -/
  | outer (slot : T)
  /-- The inner loop got a tuple. -/
  | inner (innerSlot : T)
  /-- The inner loop met the end and the result slot is returned. -/
  | returned (resultSlot : T)
  deriving DecidableEq, Repr

namespace LoopEvent

variable {T : Type}

def outer? : LoopEvent T → Option T
  | .outer slot => some slot
  | _ => none

def returned? : LoopEvent T → Option T
  | .returned resultSlot => some resultSlot
  | _ => none

end LoopEvent

section NestedLoop

variable {T D R : Type} (env : ExecEnv T D R) (node : Skyline D)

/-- The outer loop up to the first pass of the inner loop. -/
def outerLoopPass (state : NestedLoopState T) :
    Except Fault (NestedLoopState T × Outcome (LoopEvent T)) := do
  let outer ← state.outerPlanState.execMaterialRestrPos
  let (slot, outer) ← outer.execMaterial env.space env.workMem
  let outer ← outer.execMaterialMarkPos env.space
  let state := { state with slPos := state.slPos + 1, outerPlanState := outer }
  match slot with
  | none => return ({ state with status := .done }, .finished)
  | some result =>
      let outer ← state.outerPlanState.execMaterialReScan
      return ({ state with
        resultSlot := some result, outerPlanState := outer, point := .inner 0 },
        .emit (.outer result))

/-- One pass of the inner loop. -/
def innerLoopPass (state : NestedLoopState T) (slInnerpos : Nat) :
    Except Fault (NestedLoopState T × Outcome (LoopEvent T)) := do
  let (innerSlot, outer) ← state.outerPlanState.execMaterial env.space env.workMem
  let slInnerpos := slInnerpos + 1
  let state := { state with outerPlanState := outer }
  match state.resultSlot with
  | none => throw .nullPointer
  | some result =>
      match innerSlot with
      | none => return ({ state with point := .outer }, .emit (.returned result))
      | some innerSlot =>
          let cmp := isDominating env node innerSlot result
          if node.skylineDistinct = true ∧ cmp = .allEq ∧ slInnerpos < state.slPos then
            return ({ state with point := .outer }, .emit (.inner innerSlot))
          else if cmp = .firstDominates then
            return ({ state with point := .outer }, .emit (.inner innerSlot))
          else return ({ state with point := .inner slInnerpos }, .emit (.inner innerSlot))

/-- The passes of both loops of `ExecSkyline_MaterializedNestedLoop`, one for
each call of `ExecProcNode`. -/
def nestedLoopEvents : Body Fault (NestedLoopState T) (LoopEvent T) := fun state =>
  match state.status, state.point with
  | .init, _ => do
      let outer ← state.outerPlanState.execMaterialMarkPos env.space
      outerLoopPass env { state with outerPlanState := outer, slPos := 0, status := .process }
  | .process, .outer => outerLoopPass env state
  | .process, .inner slInnerpos => innerLoopPass env node state slInnerpos
  | .done, _ => return (state, .finished)
  | _, _ => throw (.assertion "0")

/-- `ExecSkyline_MaterializedNestedLoop` over a Material node: its caller sees
the returned tuples. -/
def execSkylineNestedLoopOverMaterial : Body Fault (NestedLoopState T) T :=
  observe LoopEvent.returned? (nestedLoopEvents env node)

/-- The initialized node over a Material node over a subplan. -/
def initNestedLoop (outer : OuterPlan T) : NestedLoopState T where
  status := .init
  slPos := 0
  resultSlot := none
  outerPlanState := MaterialState.execInitMaterial MaterialState.rewindMark outer
  point := .outer

end NestedLoop

end PgSkyline
