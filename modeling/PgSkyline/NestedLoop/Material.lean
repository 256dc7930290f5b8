import PgSkyline.Executor.Material
import PgSkyline.NestedLoop.Result

/-!
# The nested loop over a Material node

Outer and inner loop share one read position, the marked position takes turns
with it, and the Material node reads its subplan only as far as it is asked to.
Seen through the tuples that `ExecProcNode` returns, the nested loop visits the
input tuples in order and compares each with the input from its start.
-/

namespace PgSkyline

open Resumable MaterialState

variable {T D R : Type} (env : ExecEnv T D R) (node : Skyline D)

/-! ## The events of a run -/

/-- What the inner loop does from a position on. -/
def innerEvents (result : T) (slPos slInnerpos : Nat) (rest : List T) : List (LoopEvent T) :=
  let (dropped, count) := nestedLoopScan env node result slPos slInnerpos rest
  (rest.take count).map .inner ++ if dropped then [] else [.returned result]

/-- What the outer loop does for the tuples from a position on. -/
def nestedLoopTrace (input : List T) : Nat → List T → List (LoopEvent T)
  | _, [] => []
  | pos, result :: rest =>
      .outer result :: innerEvents env node result (pos + 1) 0 input ++
        nestedLoopTrace input (pos + 1) rest

/-- The tuple at this position of the input is returned: no tuple dominates it,
and with DISTINCT no earlier one is equal. -/
def IsReturned (input : List T) (entry : T × Nat) : Prop :=
  Undominated env.slotGetattr node.cols input entry.1 ∧
    (node.skylineDistinct = true →
      ∀ y ∈ input.take entry.2, ¬ AllEq env.slotGetattr node.cols y entry.1)

instance (input : List T) (entry : T × Nat) : Decidable (IsReturned env node input entry) :=
  inferInstanceAs (Decidable (_ ∧ _))

/-- The returned tuples in input order. -/
def returnedInOrder (input : List T) : List T :=
  (input.zipIdx.filter fun entry => decide (IsReturned env node input entry)).map Prod.fst

variable {env} {node}

/-- Without DISTINCT the undominated tuples are returned with their
multiplicity. -/
theorem returnedInOrder_of_not_distinct (all : node.skylineDistinct = false) (input : List T) :
    returnedInOrder env node input =
      input.filter fun x => decide (Undominated env.slotGetattr node.cols input x) := by
  have samePredicate : (fun entry : T × Nat => decide (IsReturned env node input entry)) =
      (fun x => decide (Undominated env.slotGetattr node.cols input x)) ∘ Prod.fst := by
    funext entry
    simp [IsReturned, all]
  rw [returnedInOrder, samePredicate, ← List.filter_map, List.zipIdx_map_fst]

@[simp]
theorem innerEvents_nil (result : T) (slPos slInnerpos : Nat) :
    innerEvents env node result slPos slInnerpos [] = [.returned result] :=
  rfl

theorem innerEvents_cons (result : T) (slPos slInnerpos : Nat) (innerSlot : T) (rest : List T) :
    innerEvents env node result slPos slInnerpos (innerSlot :: rest) =
      .inner innerSlot ::
        if (node.skylineDistinct = true ∧ isDominating env node innerSlot result = .allEq ∧
            slInnerpos + 1 < slPos) ∨
          isDominating env node innerSlot result = .firstDominates then []
        else innerEvents env node result slPos (slInnerpos + 1) rest := by
  unfold innerEvents
  rw [nestedLoopScan]
  by_cases early : node.skylineDistinct = true ∧
      isDominating env node innerSlot result = .allEq ∧ slInnerpos + 1 < slPos
  · simp [early]
  · by_cases dominates : isDominating env node innerSlot result = .firstDominates
    · simp [dominates]
    · simp [early, dominates]

/-! ## The run -/

variable {input : List T} {result : T} {slPos pos slInnerpos : Nat} {state : NestedLoopState T}

/-- The outer loop goes on with the tuple at the marked position. -/
def AtOuter (input : List T) (pos : Nat) (state : NestedLoopState T) : Prop :=
  state.status = .process ∧ state.point = .outer ∧ state.slPos = pos ∧
    ∃ readPos, Refines state.outerPlanState ⟨input, readPos, pos, none⟩

/-- The inner loop has compared the result with the tuples before its position. -/
def AtInner (input : List T) (result : T) (pos slInnerpos : Nat) (state : NestedLoopState T) :
    Prop :=
  state.status = .process ∧ state.point = .inner slInnerpos ∧ state.slPos = pos ∧
    state.resultSlot = some result ∧ Refines state.outerPlanState ⟨input, slInnerpos, pos, none⟩

/-- The inner loop takes the remaining tuples until one of them drops the result. -/
theorem innerLoop_drains (inner : AtInner input result pos slInnerpos state) {rest : List T}
    (remaining : input.drop slInnerpos = rest) :
    ∃ state', AtOuter input pos state' ∧ ∀ out last,
      Drains (nestedLoopEvents env node) state' out last →
        Drains (nestedLoopEvents env node) state
          (innerEvents env node result pos slInnerpos rest ++ out) last := by
  induction rest generalizing state slInnerpos with
  | nil =>
      rcases inner with ⟨status, point, slPos, resultSlot, refines⟩
      rcases refines.execMaterial env.space env.workMem with ⟨outer, fetched, refines'⟩
      have ended : input[slInnerpos]? = none := by
        rw [← List.head?_drop, remaining, List.head?_nil]
      simp only [OuterPlan.procNode, OuterPlan.refresh, Option.isSome_none, Bool.false_eq_true,
        if_false, ended] at fetched refines'
      refine ⟨{ state with outerPlanState := outer, point := .outer },
        ⟨status, rfl, slPos, slInnerpos, refines'⟩, fun out last drains => ?_⟩
      apply Drains.emit _ drains
      simp only [nestedLoopEvents, status, point, innerLoopPass, fetched, resultSlot, ok_bind,
        pure_eq_ok]
  | cons innerSlot rest ih =>
      rcases inner with ⟨status, point, slPos, resultSlot, refines⟩
      rcases refines.execMaterial env.space env.workMem with ⟨outer, fetched, refines'⟩
      have found : input[slInnerpos]? = some innerSlot := by
        rw [← List.head?_drop, remaining, List.head?_cons]
      have later : input.drop (slInnerpos + 1) = rest := by
        rw [← List.tail_drop, remaining, List.tail_cons]
      simp only [OuterPlan.procNode, OuterPlan.refresh, Option.isSome_none, Bool.false_eq_true,
        if_false, found] at fetched refines'
      rw [innerEvents_cons]
      by_cases leaves : (node.skylineDistinct = true ∧
          isDominating env node innerSlot result = .allEq ∧ slInnerpos + 1 < pos) ∨
          isDominating env node innerSlot result = .firstDominates
      · rw [if_pos leaves]
        refine ⟨{ state with outerPlanState := outer, point := .outer },
          ⟨status, rfl, slPos, slInnerpos + 1, refines'⟩, fun out last drains => ?_⟩
        apply Drains.emit _ drains
        simp only [nestedLoopEvents, status, point, innerLoopPass, fetched, resultSlot, slPos,
          ok_bind, pure_eq_ok]
        split
        · rfl
        · rename_i notEqual
          rw [if_pos (leaves.resolve_left notEqual)]
      · rw [if_neg leaves]
        rcases not_or.mp leaves with ⟨notEqual, notDominated⟩
        have next : AtInner input result pos (slInnerpos + 1)
            { state with outerPlanState := outer, point := .inner (slInnerpos + 1) } :=
          ⟨status, rfl, slPos, resultSlot, refines'⟩
        rcases ih next later with ⟨state', atOuter, continues⟩
        refine ⟨state', atOuter, fun out last drains => ?_⟩
        apply Drains.emit _ (continues out last drains)
        simp only [nestedLoopEvents, status, point, innerLoopPass, fetched, resultSlot, slPos,
          ok_bind, pure_eq_ok, notEqual, notDominated, if_false]

/-- A pass of the outer loop fetches the tuple at the marked position. -/
theorem outerLoopPass_eq {readPos : Nat} (status : state.status = .process)
    (slPos : state.slPos = pos)
    (refines : Refines state.outerPlanState ⟨input, readPos, pos, none⟩) :
    (input[pos]? = none ∧ ∃ state', outerLoopPass env state = .ok (state', .finished) ∧
        state'.status = .done) ∨
      ∃ slot state', input[pos]? = some slot ∧
        outerLoopPass env state = .ok (state', .emit (.outer slot)) ∧
        AtInner input slot (pos + 1) 0 state' := by
  rcases refines.execMaterialRestrPos with ⟨restored, restoredEq, refines'⟩
  rcases refines'.execMaterial env.space env.workMem with ⟨fetched, fetchedEq, refines''⟩
  rcases refines''.execMaterialMarkPos env.space with ⟨marked, markedEq, refinesMarked⟩
  simp only [outerLoopPass, restoredEq, fetchedEq, markedEq, ok_bind, pure_eq_ok, slPos]
  cases found : input[pos]? with
  | none =>
      simp only [OuterPlan.procNode, OuterPlan.refresh, OuterPlan.restrPos, Option.isSome_none,
        Bool.false_eq_true, if_false, found]
      exact Or.inl ⟨trivial, _, rfl, rfl⟩
  | some slot =>
      simp only [OuterPlan.procNode, OuterPlan.refresh, OuterPlan.restrPos, Option.isSome_none,
        Bool.false_eq_true, if_false, found] at refinesMarked ⊢
      rcases refinesMarked.execMaterialReScan with ⟨rescanned, rescannedEq, refinesStart⟩
      simp only [rescannedEq, ok_bind]
      exact Or.inr ⟨slot, _, rfl, rfl, status, rfl, rfl, rfl, refinesStart⟩

/-- The outer loop drains from every position. -/
theorem outerLoop_drains (atOuter : AtOuter input pos state) {rest : List T}
    (remaining : input.drop pos = rest) :
    ∃ last, Drains (nestedLoopEvents env node) state
        (nestedLoopTrace env node input pos rest) last ∧
      last.status = .done := by
  induction rest generalizing state pos with
  | nil =>
      rcases atOuter with ⟨status, point, slPos, readPos, refines⟩
      have ended : input[pos]? = none := by
        rw [← List.head?_drop, remaining, List.head?_nil]
      rcases @outerLoopPass_eq T D R env input pos state readPos status slPos refines with
        ⟨_, last, passEq, done⟩ | ⟨slot, _, found, _⟩
      · refine ⟨last, .finished ?_, done⟩
        simp only [nestedLoopEvents, status, point, passEq]
      · rw [ended] at found
        cases found
  | cons result rest ih =>
      rcases atOuter with ⟨status, point, slPos, readPos, refines⟩
      have found : input[pos]? = some result := by
        rw [← List.head?_drop, remaining, List.head?_cons]
      have later : input.drop (pos + 1) = rest := by
        rw [← List.tail_drop, remaining, List.tail_cons]
      rcases @outerLoopPass_eq T D R env input pos state readPos status slPos refines with
        ⟨ended, _⟩ | ⟨slot, state', slotFound, passEq, inner⟩
      · rw [found] at ended
        cases ended
      · cases found.symm.trans slotFound
        rcases @innerLoop_drains T D R env node input result (pos + 1) 0 state' inner input rfl with
          ⟨next, nextOuter, continues⟩
        rcases ih nextOuter later with ⟨last, drains, done⟩
        refine ⟨last, .emit ?_ (continues _ _ drains), done⟩
        simp only [nestedLoopEvents, status, point, passEq]

private theorem nestedLoop_drains_trace (env : ExecEnv T D R) (node : Skyline D) (input : List T) :
    ∃ last, Drains (nestedLoopEvents env node) (initNestedLoop (OuterPlan.init input))
      (nestedLoopTrace env node input 0 input) last ∧ last.status = .done := by
  rcases (refines_execInitMaterial input).execMaterialMarkPos env.space with
    ⟨marked, markedEq, refines⟩
  have atOuter : AtOuter input 0
      { @initNestedLoop T (OuterPlan.init input) with
        status := .process, outerPlanState := marked } :=
    ⟨rfl, rfl, rfl, 0, refines⟩
  rcases @outerLoop_drains T D R env node input 0 _ atOuter input rfl with ⟨last, drains, done⟩
  have firstPass : nestedLoopEvents env node (initNestedLoop (OuterPlan.init input)) =
      nestedLoopEvents env node { @initNestedLoop T (OuterPlan.init input) with
        status := .process, outerPlanState := marked } := by
    simp only [nestedLoopEvents, initNestedLoop, markedEq, ok_bind]
  exact ⟨last, drains.of_body_eq firstPass, done⟩

/-! ## What the events tell -/

/-- The inner loop reports no tuple of the outer loop. -/
theorem filterMap_outer_innerEvents (result : T) (slPos slInnerpos : Nat) (rest : List T) :
    (innerEvents env node result slPos slInnerpos rest).filterMap LoopEvent.outer? = [] := by
  induction rest generalizing slInnerpos with
  | nil => rfl
  | cons innerSlot rest ih =>
      rw [innerEvents_cons, List.filterMap_cons]
      simp only [LoopEvent.outer?]
      split
      · rfl
      · exact ih (slInnerpos + 1)

/-- The outer loop visits each tuple once, in order. -/
theorem filterMap_outer_nestedLoopTrace (input : List T) (pos : Nat) (rest : List T) :
    (nestedLoopTrace env node input pos rest).filterMap LoopEvent.outer? = rest := by
  induction rest generalizing pos with
  | nil => rfl
  | cons result rest ih =>
      rw [nestedLoopTrace, List.cons_append, List.filterMap_cons, List.filterMap_append,
        filterMap_outer_innerEvents, ih (pos + 1)]
      rfl

/-- The inner loop either is cut short, or it sees all the tuples and returns the
result. -/
theorem innerEvents_eq (result : T) (slPos slInnerpos : Nat) (rest : List T) :
    ((nestedLoopScan env node result slPos slInnerpos rest).1 = true ∧
        ∃ seen : List T, innerEvents env node result slPos slInnerpos rest = seen.map .inner) ∨
      (nestedLoopScan env node result slPos slInnerpos rest).1 = false ∧
        innerEvents env node result slPos slInnerpos rest =
          rest.map .inner ++ [.returned result] := by
  induction rest generalizing slInnerpos with
  | nil => exact Or.inr ⟨rfl, rfl⟩
  | cons innerSlot rest ih =>
      have drops :=
        @NestedLoop.nestedLoopScan_cons_iff T D R env node result slPos slInnerpos innerSlot rest
      rw [innerEvents_cons]
      by_cases leaves : (node.skylineDistinct = true ∧
          isDominating env node innerSlot result = .allEq ∧ slInnerpos + 1 < slPos) ∨
          isDominating env node innerSlot result = .firstDominates
      · rw [if_pos leaves]
        exact Or.inl ⟨drops.mpr (Or.inl leaves.symm), [innerSlot], rfl⟩
      · rw [if_neg leaves]
        have stays : ¬ NestedLoop.DropsAt env node result slPos slInnerpos innerSlot :=
          fun dropsAt => leaves (Or.symm dropsAt)
        rw [or_iff_right stays] at drops
        rcases ih (slInnerpos + 1) with ⟨dropped, seen, events⟩ | ⟨kept, events⟩
        · exact Or.inl ⟨drops.mpr dropped, innerSlot :: seen, by rw [events, List.map_cons]⟩
        · refine Or.inr ⟨?_, by rw [events, List.map_cons, List.cons_append]⟩
          rw [← Bool.not_eq_true] at kept ⊢
          exact fun dropped => kept (drops.mp dropped)

/-- The scan for the tuple behind `done` leaves it exactly if it is returned. -/
theorem nestedLoopScan_eq_false_iff {done rest : List T}
    (inputEq : input = done ++ result :: rest) :
    (nestedLoopScan env node result (done.length + 1) 0 input).1 = false ↔
      IsReturned env node input (result, done.length) := by
  have drops := @NestedLoop.nestedLoopScan_append_iff T D R env node result (done.length + 1) 0 done
    (result :: rest) (by rw [Nat.zero_add])
  have before : input.take done.length = done := by
    rw [inputEq, List.take_left]
  rw [← inputEq] at drops
  rw [← Bool.not_eq_true, drops, IsReturned, before]
  simp [Undominated]

/-- The caller sees the returned tuples in input order. -/
theorem filterMap_returned_nestedLoopTrace {done rest : List T} (inputEq : input = done ++ rest) :
    (nestedLoopTrace env node input done.length rest).filterMap LoopEvent.returned? =
      ((rest.zipIdx done.length).filter fun entry =>
        decide (IsReturned env node input entry)).map Prod.fst := by
  induction rest generalizing done with
  | nil => rfl
  | cons result rest ih =>
      have later := @ih (done ++ [result]) (by rw [inputEq, List.append_assoc]; rfl)
      rw [List.length_append, List.length_singleton] at later
      have returns := @nestedLoopScan_eq_false_iff T D R env node input result done rest inputEq
      have noneSeen : ∀ seen : List T,
          (seen.map LoopEvent.inner).filterMap LoopEvent.returned? = [] := by
        intro seen
        rw [List.filterMap_map]
        exact List.filterMap_eq_nil_iff.mpr fun _ _ => rfl
      rw [nestedLoopTrace, List.cons_append, List.filterMap_cons, List.filterMap_append, later,
        List.zipIdx_cons, List.filter_cons]
      rcases @innerEvents_eq T D R env node result (done.length + 1) 0 input with
        ⟨dropped, seen, events⟩ | ⟨kept, events⟩
      · have notReturned : ¬ IsReturned env node input (result, done.length) := by
          rw [← returns, dropped]
          simp
        rw [events, noneSeen, if_neg (by simpa using notReturned)]
        rfl
      · rw [events, List.filterMap_append, noneSeen, if_pos (by simpa using returns.mp kept)]
        rfl

/-- A split at an entry that only occurs at the end is a split at the end. -/
theorem split_at_last {α : Type} {entries before after : List α} {last entry : α}
    (fresh : entry ∉ entries) (split : entries ++ [last] = before ++ entry :: after) :
    before = entries ∧ entry = last := by
  rcases List.append_eq_append_iff.mp split with ⟨as, beforeEq, single⟩ | ⟨bs, entriesEq, single⟩
  · cases as with
    | nil =>
        cases single
        exact ⟨by rw [beforeEq, List.append_nil], rfl⟩
    | cons _ as => simp at single
  · cases bs with
    | nil =>
        cases single
        exact ⟨by rw [entriesEq, List.append_nil], rfl⟩
    | cons head bs =>
        cases single
        refine absurd ?_ fresh
        rw [entriesEq]
        exact List.mem_append_right _ List.mem_cons_self

/-- Before a tuple is returned, its inner loop has seen the whole input. -/
theorem exists_full_scan {rest : List T} {before after : List (LoopEvent T)}
    (split : nestedLoopTrace env node input pos rest = before ++ .returned result :: after) :
    ∃ earlier, before = earlier ++ .outer result :: input.map .inner := by
  induction rest generalizing pos before with
  | nil => simp [nestedLoopTrace] at split
  | cons first rest ih =>
      cases before with
      | nil => simp [nestedLoopTrace] at split
      | cons head before =>
          rw [nestedLoopTrace, List.cons_append, List.cons_append, List.cons.injEq] at split
          rcases split with ⟨rfl, split⟩
          rcases List.append_eq_append_iff.mp split with ⟨as, beforeEq, later⟩ | ⟨bs, events, later⟩
          · rcases ih later with ⟨earlier, asEq⟩
            exact ⟨.outer first :: innerEvents env node first (pos + 1) 0 input ++ earlier,
              by rw [beforeEq, asEq]; simp⟩
          · cases bs with
            | nil =>
                have noEarlier := @ih (pos + 1) [] later.symm
                simp at noEarlier
            | cons returned bs =>
                cases later
                rcases @innerEvents_eq T D R env node first (pos + 1) 0 input with
                  ⟨_, seen, seenEq⟩ | ⟨_, full⟩
                · have mem : LoopEvent.returned result ∈ seen.map LoopEvent.inner := by
                    rw [← seenEq, events]
                    exact List.mem_append_right _ List.mem_cons_self
                  simp at mem
                · rw [full] at events
                  rcases split_at_last (by simp) events with ⟨rfl, sameResult⟩
                  cases sameResult
                  exact ⟨[], rfl⟩

/-- The nested loop over any outer plan returns the same tuples. -/
theorem nestedLoopPass_drains {done rest : List T} (inputEq : input = done ++ rest) {scan : Scan T}
    (position : Scan.nestedLoopPass env node scan =
      Scan.nestedLoopFrom env node input done.length) :
    Drains (Scan.nestedLoopPass env node) scan
      (((rest.zipIdx done.length).filter fun entry =>
        decide (IsReturned env node input entry)).map Prod.fst) .done := by
  induction rest generalizing done scan with
  | nil =>
      have beyond : input[done.length]? = none := by simp [inputEq]
      apply Drains.finished
      rw [position, Scan.nestedLoopFrom, beyond]
      rfl
  | cons result rest ih =>
      have found : input[done.length]? = some result := by simp [inputEq]
      have nextPosition : Scan.nestedLoopPass env node (.nested input (done.length + 1)) =
          Scan.nestedLoopFrom env node input (done ++ [result]).length := by
        simp [Scan.nestedLoopPass]
      have later := ih (by rw [inputEq, List.append_assoc]; rfl) nextPosition
      rw [List.length_append, List.length_singleton] at later
      have returns := @nestedLoopScan_eq_false_iff T D R env node input result done rest inputEq
      rw [List.zipIdx_cons, List.filter_cons]
      by_cases returned : IsReturned env node input (result, done.length)
      · have kept := returns.mpr returned
        rw [if_pos (by simpa using returned), List.map_cons]
        apply Drains.emit _ later
        simp only [position, Scan.nestedLoopFrom, found, kept, Bool.false_eq_true, if_false,
          pure_eq_ok]
      · have dropped : (nestedLoopScan env node result (done.length + 1) 0 input).1 = true := by
          rw [← Bool.not_eq_false]
          exact fun kept => returned (returns.mp kept)
        rw [if_neg (by simpa using returned)]
        apply Drains.again _ later
        simp only [position, Scan.nestedLoopFrom, found, dropped, if_true, pure_eq_ok]

/-- The returned tuples form the skyline of the input. -/
theorem returnedInOrder_isSkyline (lawful : LawfulCols node.cols) (input : List T) :
    IsSkyline env.slotGetattr node.cols node.skylineDistinct input
      (returnedInOrder env node input) := by
  rcases @NestedLoop.nestedLoopFrom_drains T D R env node input [] [] input rfl (.start input) rfl
    with ⟨out, drains, sieved⟩
  have inOrder := @nestedLoopPass_drains T D R env node input [] input rfl (.start input) rfl
  have known := NestedLoop.known_start env node input
  rw [List.length_nil] at inOrder
  rw [returnedInOrder, ← (drains.unique inOrder).1]
  exact (sieved lawful known).isSkyline lawful

/-- Over a Material node, whether or not it spills, the nested loop returns the
undominated tuples in input order, with DISTINCT only the first one of each
class of equal tuples, and ends.  Its outer loop visits every tuple once, and the
inner loop of a returned tuple has seen the whole input. -/
theorem nestedLoopOverMaterial_correct (env : ExecEnv T D R) (node : Skyline D) (input : List T) :
    ∃ events last,
      Drains (nestedLoopEvents env node) (initNestedLoop (OuterPlan.init input)) events last ∧
      last.status = .done ∧
      Drains (execSkylineNestedLoopOverMaterial env node) (initNestedLoop (OuterPlan.init input))
        (returnedInOrder env node input) last ∧
      events.filterMap LoopEvent.outer? = input ∧
      ∀ before result after, events = before ++ .returned result :: after →
        ∃ earlier, before = earlier ++ .outer result :: input.map .inner := by
  rcases nestedLoop_drains_trace env node input with ⟨last, drains, done⟩
  have returned := drains.observe LoopEvent.returned?
  have inOrder := @filterMap_returned_nestedLoopTrace T D R env node input [] input rfl
  rw [List.length_nil] at inOrder
  rw [inOrder] at returned
  refine ⟨_, last, drains, done, returned, filterMap_outer_nestedLoopTrace input 0 input, ?_⟩
  exact fun before result after split => exists_full_scan split

end PgSkyline
