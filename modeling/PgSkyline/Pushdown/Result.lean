import PgSkyline.Parser.Result
import PgSkyline.Pushdown.Tree

/-!
# Pushed quals keep the results

Whatever `set_subquery_pathlist` pushes into a subquery, the quals that stay behind keep
the same rows of the changed subquery as all quals keep of the given one.
-/

namespace PgSkyline

open QueryMeaning

variable {E R X J S D : Type}

/-! ## Range tables -/

section RangeTable

variable {Q : Type} {rtable : List (RangeTblEntry Q X)} {rtindex other : Nat} {subquery found : Q}

private theorem rtindex_pos_of_fetched (fetched : fetchSubquery rtindex rtable = .ok found) :
    0 < rtindex := by
  cases rtindex with
  | zero => simp [fetchSubquery, rtFetch] at fetched
  | succ index => exact Nat.succ_pos index

/-- The subquery at the replaced index. -/
theorem fetchSubquery_replaceSubquery_self (fetched : fetchSubquery rtindex rtable = .ok found) :
    fetchSubquery rtindex (replaceSubquery rtindex subquery rtable) = .ok subquery := by
  cases rtindex with
  | zero => simp [fetchSubquery, rtFetch] at fetched
  | succ index =>
      cases entry : rtable[index]? with
      | none => simp [fetchSubquery, rtFetch, entry] at fetched
      | some rte => simp [fetchSubquery, rtFetch, replaceSubquery, entry]

private theorem fetchSubquery_replaceSubquery_of_ne (pos : 0 < rtindex) (apart : other ≠ rtindex) :
    fetchSubquery other (replaceSubquery rtindex subquery rtable) = fetchSubquery other rtable := by
  cases other with
  | zero => rfl
  | succ index =>
      have apart' : rtindex - 1 ≠ index := by omega
      simp [fetchSubquery, rtFetch, replaceSubquery, apart']

end RangeTable

/-! ## Components -/

/-- What parse analysis promises of a component query, and what the checks do not look at:
its visible columns pass the tests on output columns. -/
structure ComponentFits (utils : ClauseUtils E) (catalog : Catalog D) (component : Subquery E R J) :
    Prop where
  numbered : Numbered component.targetList
  outputs : ∀ tle ∈ visible component.targetList,
    outputIsPushdownSafe utils catalog component.distinctClause tle = true

section Components

variable {meaning : QueryMeaning E R X J S D} {utils : ClauseUtils E} {catalog : Catalog D}
  {rti : Nat} {qual : E} {component : Subquery E R J}

/-- The visible columns of a component are safe. -/
theorem ComponentFits.outputIsSafe (fits : ComponentFits utils catalog component) {index : Nat}
    {tle : TargetEntry E} (atIndex : (visible component.targetList)[index]? = some tle) :
    OutputIsSafe utils catalog component.toQuery (index + 1) := by
  have mem := List.mem_of_getElem? atIndex
  have notJunk : tle.resjunk = false := by simpa [visible] using (List.mem_filter.mp mem).2
  exact ⟨Nat.succ_ne_zero index, tle, (fits.numbered index tle atIndex).2, notJunk,
    fits.outputs tle mem⟩

end Components

/-! ## The tree -/

section Tree

variable {meaning : QueryMeaning E R X J S D} {utils : ClauseUtils E} {catalog : Catalog D}
  {rtable rtable' : List (RangeTblEntry (Subquery E R J) X)} {tree : SetOperationTree} {rti : Nat}
  {qual : E}

/-- A component takes the qual. -/
structure Takes (utils : ClauseUtils E) (catalog : Catalog D) (rti : Nat) (qual : E)
    (component : Subquery E R J) : Prop where
  takes : TakesQuals component.toQuery
  safe : SafeQual utils catalog component.toQuery rti qual

theorem Takes.of_sameOutput {first second : Subquery E R J}
    (takes : Takes utils catalog rti qual first)
    (same : SameOutput first.toQuery second.toQuery) : Takes utils catalog rti qual second :=
  ⟨takes.takes.of_sameOutput same, takes.safe.of_sameOutput same⟩

/-- Every component of the tree has got the qual, and nothing else has changed. -/
theorem recursePushQual_spec (sound : meaning.Sound utils)
    (pushed : recursePushQual utils rti qual tree rtable = .ok rtable')
    (each : ∀ rtindex ∈ tree.leaves, ∀ component, fetchSubquery rtindex rtable = .ok component →
      Takes utils catalog rti qual component) :
    ∀ rtindex, (rtindex ∈ tree.leaves →
        PushedAt meaning catalog rtable rtable' (meaning.qualHolds qual) rtindex) ∧
      (rtindex ∉ tree.leaves → fetchSubquery rtindex rtable' = fetchSubquery rtindex rtable) := by
  induction tree generalizing rtable rtable' with
  | rangeTblRef leaf =>
      rcases (bind_eq_ok_iff _ _ _).mp pushed with ⟨component, fetched, replaced⟩
      cases replaced
      intro rtindex
      constructor
      · intro mem
        have here : rtindex = leaf := by simpa [SetOperationTree.leaves] using mem
        subst here
        have takes := each rtindex mem component fetched
        refine ⟨component, _, fetched, fetchSubquery_replaceSubquery_self fetched, ?_, rfl, ?_⟩
        · exact sameOutput_attachQual utils component.toQuery rti qual
        · exact sound.componentResults_push takes.takes takes.safe
      · intro notMem
        have apart : rtindex ≠ leaf := by simpa [SetOperationTree.leaves] using notMem
        exact fetchSubquery_replaceSubquery_of_ne (rtindex_pos_of_fetched fetched) apart
  | setOperationStmt op all larg rarg colTypes leftIh rightIh =>
      rw [recursePushQual] at pushed
      rcases (bind_eq_ok_iff _ _ _).mp pushed with ⟨between, left, right⟩
      have afterLeft := leftIh left fun rtindex mem =>
        each rtindex (List.mem_append_left _ mem)
      have eachRight : ∀ rtindex ∈ rarg.leaves, ∀ component,
          fetchSubquery rtindex between = .ok component →
            Takes utils catalog rti qual component := by
        intro rtindex mem component fetched
        by_cases inLeft : rtindex ∈ larg.leaves
        · rcases (afterLeft rtindex).1 inLeft with ⟨first, second, fetched', fetched'', into⟩
          cases fetched.symm.trans fetched''
          exact (each rtindex (List.mem_append_right _ mem) first fetched').of_sameOutput into.same
        · rw [(afterLeft rtindex).2 inLeft] at fetched
          exact each rtindex (List.mem_append_right _ mem) component fetched
      have afterRight := rightIh right eachRight
      intro rtindex
      by_cases inLeft : rtindex ∈ larg.leaves <;> by_cases inRight : rtindex ∈ rarg.leaves
      · rcases (afterLeft rtindex).1 inLeft with ⟨first, second, fetched, fetched', into⟩
        rcases (afterRight rtindex).1 inRight with ⟨second', third, again, fetched'', into'⟩
        cases again.symm.trans fetched'
        exact ⟨fun _ => ⟨first, third, fetched, fetched'', into.trans into'⟩,
          fun notMem => absurd (List.mem_append_left _ inLeft) notMem⟩
      · rcases (afterLeft rtindex).1 inLeft with ⟨first, second, fetched, fetched', into⟩
        rw [← (afterRight rtindex).2 inRight] at fetched'
        exact ⟨fun _ => ⟨first, second, fetched, fetched', into⟩,
          fun notMem => absurd (List.mem_append_left _ inLeft) notMem⟩
      · rcases (afterRight rtindex).1 inRight with ⟨first, second, fetched, fetched', into⟩
        rw [(afterLeft rtindex).2 inLeft] at fetched
        exact ⟨fun _ => ⟨first, second, fetched, fetched', into⟩,
          fun notMem => absurd (List.mem_append_right _ inRight) notMem⟩
      · rw [(afterRight rtindex).2 inRight, (afterLeft rtindex).2 inLeft]
        refine ⟨fun mem => ?_, fun _ => rfl⟩
        rcases List.mem_append.mp mem with mem | mem
        · exact absurd mem inLeft
        · exact absurd mem inRight
  | other nodeTag => simp [recursePushQual] at pushed

end Tree

/-! ## The query -/

section Top

variable {meaning : QueryMeaning E R X J S D} {utils : ClauseUtils E} {catalog : Catalog D}
  {types : TypeUtils} {marked : Nat → Bool} {subquery subquery' : TopQuery E R X J}
  {rti : Nat} {qual : E}

/-- What parse analysis promises of a query with set operations, and of its components. -/
structure SetOperationsFit (utils : ClauseUtils E) (catalog : Catalog D) (types : TypeUtils)
    (subquery : TopQuery E R X J) (topop : SetOperationTree) : Prop where
  numbered : Numbered subquery.targetList
  columns : (visible subquery.targetList).length = topop.colTypes.length
  merged : TypesMerged utils subquery.rtable types topop
  components : ∀ rtindex ∈ topop.leaves, ∀ component,
    fetchSubquery rtindex subquery.rtable = .ok component → ComponentFits utils catalog component

/-- A query that has passed the checks. -/
structure Accepts (utils : ClauseUtils E) (catalog : Catalog D) (types : TypeUtils)
    (marked : Nat → Bool) (subquery : TopQuery E R X J) : Prop where
  takes : TakesQuals subquery.toQuery
  fits : ∀ topop, subquery.setOperations = some topop →
    SetOperationsFit utils catalog types subquery topop
  components : ∀ topop, subquery.setOperations = some topop → ∀ rtindex ∈ topop.leaves,
    ∃ component, fetchSubquery rtindex subquery.rtable = .ok component ∧
      ComponentTakesQuals utils topop.colTypes marked component

/-- An output column is a column of the set operations. -/
theorem SetOperationsFit.exists_column {topop : SetOperationTree}
    (fits : SetOperationsFit utils catalog types subquery topop) {resno : Nat}
    (output : OutputIsSafe utils catalog subquery.toQuery resno) :
    ∃ index colType, resno = index + 1 ∧ topop.colTypes[index]? = some colType := by
  rcases output with ⟨_, tle, found, notJunk, _⟩
  have mem : tle ∈ visible subquery.targetList :=
    List.mem_filter.mpr ⟨List.mem_of_find?_eq_some found, by simp [notJunk]⟩
  rcases List.mem_iff_getElem?.mp mem with ⟨index, atIndex⟩
  have number : tle.resno = resno := by simpa using List.find?_some found
  have inRange : index < topop.colTypes.length := by
    rw [← fits.columns]
    exact (List.getElem?_eq_some_iff.mp atIndex).1
  exact ⟨index, topop.colTypes[index], number.symm.trans (fits.numbered index tle atIndex).1,
    List.getElem?_eq_getElem inRange⟩

/-- The same column of a component: it is safe, and of the same type unless it is marked. -/
theorem ComponentTakesQuals.exists_column {colTypes : List Oid} {component : Subquery E R J}
    (passed : ComponentTakesQuals utils colTypes marked component)
    (fits : ComponentFits utils catalog component) {index : Nat} {colType : Oid}
    (atIndex : colTypes[index]? = some colType) (notMarked : marked (index + 1) = false) :
    OutputIsSafe utils catalog component.toQuery (index + 1) ∧
      (targetTypes utils component.targetList)[index]? = some colType := by
  rcases exists_of_forall₂ passed.types atIndex with ⟨tle, tleAt, sameType⟩
  have number := (fits.numbered index tle tleAt).1
  refine ⟨fits.outputIsSafe tleAt, ?_⟩
  rw [targetTypes, List.getElem?_map, tleAt, Option.map_some, sameType (number ▸ notMarked)]

/-- What the qual reads is not converted anywhere in the tree. -/
theorem Accepts.unconverted {topop : SetOperationTree}
    (accepts : Accepts utils catalog types marked subquery)
    (operations : subquery.setOperations = some topop) {resno : Nat}
    (output : OutputIsSafe utils catalog subquery.toQuery resno)
    (notMarked : marked resno = false) :
    Unconverted utils subquery.rtable topop resno := by
  have fits := accepts.fits topop operations
  rcases fits.exists_column output with ⟨index, colType, rfl, atIndex⟩
  refine ⟨index, colType, rfl,
    typeThroughout_of_leaves fits.merged (fits.merged.ne_unknown atIndex) ?_⟩
  intro rtindex mem
  rcases accepts.components topop operations rtindex mem with ⟨component, fetched, passed⟩
  have column := passed.exists_column (fits.components rtindex mem component fetched) atIndex
    notMarked
  simpa only [columnTypes, fetched] using column.2

/-- A qual that passes the checks is safe for the query itself and for every component. -/
theorem Accepts.takes_component {topop : SetOperationTree}
    (accepts : Accepts utils catalog types marked subquery)
    (operations : subquery.setOperations = some topop)
    (safe : qualIsPushdownSafe utils catalog subquery.toQuery rti qual marked = .ok true)
    (notVolatile : utils.containVolatileFunctions qual = false) :
    ∀ rtindex ∈ topop.leaves, ∀ component,
      fetchSubquery rtindex subquery.rtable = .ok component →
        Takes utils catalog rti qual component := by
  intro rtindex mem component fetched
  have fits := accepts.fits topop operations
  rcases accepts.components topop operations rtindex mem with ⟨other, fetched', passed⟩
  cases fetched'.symm.trans fetched
  rcases qualIsPushdownSafe_spec safe with ⟨noSubplans, vars⟩
  refine ⟨passed.takes, noSubplans, notVolatile, fun var varMem => ?_⟩
  rcases vars var varMem with ⟨varno, notMarked, output⟩
  rcases fits.exists_column output with ⟨index, colType, number, atIndex⟩
  rw [number] at notMarked ⊢
  exact ⟨varno, (passed.exists_column (fits.components rtindex mem component fetched) atIndex
    notMarked).1⟩

private theorem safeQual_of_qualIsPushdownSafe {R' : Type} {query : Query E R' J}
    (safe : qualIsPushdownSafe utils catalog query rti qual marked = .ok true)
    (notVolatile : utils.containVolatileFunctions qual = false) :
    SafeQual utils catalog query rti qual := by
  rcases qualIsPushdownSafe_spec safe with ⟨noSubplans, vars⟩
  exact ⟨noSubplans, notVolatile, fun var mem => ⟨(vars var mem).1, (vars var mem).2.2⟩⟩

/-- What has passed the checks passes them with the qual. -/
theorem Accepts.of_pushed {topop : SetOperationTree}
    {rtable' : List (RangeTblEntry (Subquery E R J) X)} {q : ResultRow D → Bool}
    (accepts : Accepts utils catalog types marked subquery)
    (operations : subquery.setOperations = some topop)
    (pushed : ∀ rtindex ∈ topop.leaves,
      PushedAt meaning catalog subquery.rtable rtable' q rtindex) :
    Accepts utils catalog types marked { subquery with rtable := rtable' } := by
  have fits := accepts.fits topop operations
  refine ⟨⟨accepts.takes.limitOffset, accepts.takes.limitCount, accepts.takes.skylineClause⟩,
    fun topop' operations' => ?_, fun topop' operations' rtindex mem => ?_⟩
  · cases operations.symm.trans operations'
    refine ⟨fits.numbered, fits.columns, fits.merged.of_pushed pushed, ?_⟩
    intro rtindex mem component fetched
    rcases pushed rtindex mem with ⟨first, second, before, after, into⟩
    cases after.symm.trans fetched
    have firstFits := fits.components rtindex mem first before
    refine ⟨?_, ?_⟩
    · rw [into.same.targetList]
      exact firstFits.numbered
    · rw [into.same.targetList, into.same.distinctClause]
      exact firstFits.outputs
  · cases operations.symm.trans operations'
    rcases accepts.components topop operations rtindex mem with ⟨component, fetched, passed⟩
    rcases pushed rtindex mem with ⟨first, second, before, after, into⟩
    cases before.symm.trans fetched
    refine ⟨second, after, passed.takes.of_sameOutput into.same,
      into.setOperations.trans passed.setOperations, ?_⟩
    rw [into.same.targetList]
    exact passed.types

/-- Pushing a safe qual down keeps the rows on which it holds. -/
theorem subqueryPushQual_spec (sound : meaning.Sound utils)
    (accepts : Accepts utils catalog types marked subquery)
    (safe : qualIsPushdownSafe utils catalog subquery.toQuery rti qual marked = .ok true)
    (notVolatile : utils.containVolatileFunctions qual = false)
    (pushed : subqueryPushQual utils subquery rti qual = .ok subquery') :
    Accepts utils catalog types marked subquery' ∧
      meaning.results catalog utils subquery' =
        keep (meaning.qualHolds qual) '' meaning.results catalog utils subquery := by
  have safeQual := safeQual_of_qualIsPushdownSafe safe notVolatile
  unfold subqueryPushQual at pushed
  cases operations : subquery.setOperations with
  | none =>
      simp only [operations] at pushed
      cases pushed
      have same := sameOutput_attachQual utils subquery.toQuery rti qual
      have sameFrom := attachQual_from utils subquery.toQuery rti qual
      constructor
      · exact ⟨accepts.takes.of_sameOutput same,
          fun topop none_ => by simp at none_, fun topop none_ => by simp at none_⟩
      · simp only [results, operations, sameFrom]
        exact sound.finish_push accepts.takes safeQual _
  | some topop =>
      simp only [operations] at pushed
      rcases (bind_eq_ok_iff _ _ _).mp pushed with ⟨rtable', replaced, result⟩
      rw [← operations] at result
      cases result
      have spec := recursePushQual_spec sound replaced 
        (accepts.takes_component operations safe notVolatile)
      have pushedAt := fun rtindex mem => (spec rtindex).1 mem
      have reads : ReadsUnconverted utils subquery.rtable topop (meaning.qualHolds qual) := by
        intro x y same
        refine sound.reads qual x y safeQual.noSubplans notVolatile fun var mem => ?_
        rcases (qualIsPushdownSafe_spec safe).2 var mem with ⟨_, notMarked, output⟩
        exact ⟨output.1, same _ (accepts.unconverted operations output notMarked)⟩
      refine ⟨accepts.of_pushed operations pushedAt, ?_⟩
      have rowsOf : ∀ rows, meaning.finish catalog subquery.toQuery (keep (meaning.qualHolds qual)
          rows) = _ := sound.finish_keep accepts.takes (sound.readsSafe safeQual)
      ext out
      simp only [results, operations, treeResults_keep reads pushedAt, Set.mem_ofPred_eq,
        Set.mem_image]
      constructor
      · rintro ⟨_, ⟨rows, rowsMem, rfl⟩, outMem⟩
        have outMem' : out ∈ meaning.finish catalog subquery.toQuery
            (keep (meaning.qualHolds qual) rows) := outMem
        rw [rowsOf] at outMem'
        rcases outMem' with ⟨all, allMem, rfl⟩
        exact ⟨all, ⟨rows, rowsMem, allMem⟩, rfl⟩
      · rintro ⟨all, ⟨rows, rowsMem, allMem⟩, rfl⟩
        refine ⟨_, ⟨rows, rowsMem, rfl⟩, ?_⟩
        have kept : keep (meaning.qualHolds qual) all ∈ meaning.finish catalog subquery.toQuery
            (keep (meaning.qualHolds qual) rows) := by
          rw [rowsOf]
          exact ⟨all, allMem, rfl⟩
        exact kept

/-- The restriction clauses are true of a row. -/
def restrictionsHold (meaning : QueryMeaning E R X J S D) (restrictions : List (RestrictInfo E))
    (row : ResultRow D) : Bool :=
  restrictions.all fun rinfo => meaning.qualHolds rinfo.clause row

theorem keep_restrictionsHold_cons (rinfo : RestrictInfo E) (rest : List (RestrictInfo E))
    (resultSet : Set (Multiset (ResultRow D))) :
    keep (restrictionsHold meaning (rinfo :: rest)) '' resultSet =
      keep (meaning.qualHolds rinfo.clause) ''
        (keep (restrictionsHold meaning rest) '' resultSet) := by
  rw [← Set.image_comp]
  refine Set.image_congr fun rows _ => ?_
  simp [keep, restrictionsHold]

private theorem keep_comm (p q : ResultRow D → Bool) (rows : Multiset (ResultRow D)) :
    keep p (keep q rows) = keep q (keep p rows) :=
  Multiset.filter_comm _ _ _

/-- The loop over the restriction clauses. -/
theorem pushRestrictions_spec (sound : meaning.Sound utils)
    {restrictions upper : List (RestrictInfo E)}
    (notVolatile : ∀ rinfo ∈ restrictions, utils.containVolatileFunctions rinfo.clause = false)
    (accepts : Accepts utils catalog types marked subquery)
    (pushed : pushRestrictions utils catalog rti marked restrictions subquery =
      .ok (subquery', upper)) :
    keep (restrictionsHold meaning upper) '' meaning.results catalog utils subquery' =
      keep (restrictionsHold meaning restrictions) '' meaning.results catalog utils subquery := by
  induction restrictions generalizing subquery upper with
  | nil =>
      cases pushed
      rfl
  | cons rinfo rest ih =>
      have restStable := fun rinfo mem => notVolatile rinfo (List.mem_cons_of_mem _ mem)
      rw [pushRestrictions] at pushed
      rcases (bind_eq_ok_iff _ _ _).mp pushed with ⟨safe, checked, pushed⟩
      cases safe with
      | true =>
          rcases (bind_eq_ok_iff _ _ _).mp pushed with ⟨between, one, others⟩
          have checkedQual : qualIsPushdownSafe utils catalog subquery.toQuery rti rinfo.clause
              marked = .ok true := by
            unfold restrictionIsPushdownSafe at checked
            split at checked
            · simp at checked
            · exact checked
          rcases subqueryPushQual_spec sound accepts checkedQual
            (notVolatile rinfo List.mem_cons_self) one with ⟨acceptsNext, results⟩
          rw [ih restStable acceptsNext others, results, keep_restrictionsHold_cons,
            Set.image_comm (keep_comm _ _)]
      | false =>
          rcases (bind_eq_ok_iff _ _ _).mp pushed with ⟨⟨last, upperRest⟩, others, result⟩
          cases result
          rw [keep_restrictionsHold_cons, keep_restrictionsHold_cons,
            ih restStable accepts others]

/-- There is a SKYLINE OF in the query or in a component of its set operations. -/
def HasSkyline (subquery : TopQuery E R X J) : Prop :=
  subquery.skylineClause ≠ none ∨ ∃ topop, subquery.setOperations = some topop ∧
    ∃ rtindex ∈ topop.leaves, ∃ component,
      fetchSubquery rtindex subquery.rtable = .ok component ∧ component.skylineClause ≠ none

/-- The quals that stay behind keep of the changed subquery what all quals keep of the given
one, and no qual goes into a subquery with SKYLINE OF. -/
theorem setSubqueryPathlist_keeps (meaning : QueryMeaning E R X J S D) (utils : ClauseUtils E)
    (sound : meaning.Sound utils) (catalog : Catalog D) (types : TypeUtils)
    (subquery : TopQuery E R X J)
    (fits : ∀ topop, subquery.setOperations = some topop →
      SetOperationsFit utils catalog types subquery topop)
    (rti : Nat) (baserestrictinfo upperrestrictlist : List (RestrictInfo E))
    (notVolatile : ∀ rinfo ∈ baserestrictinfo,
      utils.containVolatileFunctions rinfo.clause = false)
    (subquery' : TopQuery E R X J)
    (pushed : setSubqueryPathlist utils catalog rti subquery baserestrictinfo =
      .ok (subquery', upperrestrictlist)) :
    keep (restrictionsHold meaning upperrestrictlist) '' meaning.results catalog utils subquery' =
        keep (restrictionsHold meaning baserestrictinfo) '' meaning.results catalog utils subquery ∧
      (HasSkyline subquery → subquery' = subquery ∧ upperrestrictlist = baserestrictinfo) := by
  unfold setSubqueryPathlist at pushed
  split at pushed
  · cases pushed
    exact ⟨rfl, fun _ => ⟨rfl, rfl⟩⟩
  · rcases (bind_eq_ok_iff _ _ _).mp pushed with ⟨⟨safe, marked⟩, checked, pushed⟩
    cases safe with
    | false =>
        cases pushed
        exact ⟨rfl, fun _ => ⟨rfl, rfl⟩⟩
    | true =>
        rcases subqueryIsPushdownSafe_spec checked with ⟨takes, components⟩
        refine ⟨pushRestrictions_spec sound notVolatile ⟨takes, fits, components⟩ pushed, ?_⟩
        intro skyline
        rcases skyline with own | ⟨topop, operations, rtindex, mem, component, fetched, ofComponent⟩
        · exact absurd takes.skylineClause own
        · rcases components topop operations rtindex mem with ⟨other, fetched', passed⟩
          cases fetched'.symm.trans fetched
          exact absurd passed.takes.skylineClause ofComponent

end Top

/-! ## Integer columns -/

/-- Conditions on integer columns; they are true if their value is 1. -/
inductive ColumnExpr where
  | column (ofVar : Var)
  | atMost (arg : ColumnExpr) (bound : Int)
  | both (left right : ColumnExpr)
  | always
  deriving DecidableEq, Repr

namespace ColumnExpr

def eval (read : Var → Option Int) : ColumnExpr → Option Int
  | .column ofVar => read ofVar
  | .atMost arg bound => (arg.eval read).map fun datum => if datum ≤ bound then 1 else 0
  | .both left right =>
      some (if left.eval read = some 1 ∧ right.eval read = some 1 then 1 else 0)
  | .always => some 1

def vars : ColumnExpr → List Var
  | .column ofVar => [ofVar]
  | .atMost arg _ => arg.vars
  | .both left right => left.vars ++ right.vars
  | .always => []

/-- The expressions of the target list for the columns. -/
def resolve (tlist : List (TargetEntry ColumnExpr)) : ColumnExpr → ColumnExpr
  | .column ofVar =>
      match getTleByResno tlist ofVar.varattno with
      | some tle => tle.expr
      | none => .column ofVar
  | .atMost arg bound => .atMost (arg.resolve tlist) bound
  | .both left right => .both (left.resolve tlist) (right.resolve tlist)
  | .always => .always

private theorem eval_congr {first second : Var → Option Int} {expr : ColumnExpr}
    (same : ∀ var ∈ expr.vars, first var = second var) : expr.eval first = expr.eval second := by
  induction expr with
  | column ofVar => exact same ofVar (by simp [vars])
  | atMost arg bound ih => rw [eval, eval, ih same]
  | both left right leftIh rightIh =>
      rw [eval, eval, leftIh fun var mem => same var (List.mem_append_left _ mem),
        rightIh fun var mem => same var (List.mem_append_right _ mem)]
  | always => rfl

private theorem eval_resolve {tlist : List (TargetEntry ColumnExpr)} {expr : ColumnExpr}
    (read : Var → Option Int)
    (found : ∀ var ∈ expr.vars, (getTleByResno tlist var.varattno).isSome = true) :
    (expr.resolve tlist).eval read = expr.eval fun var =>
      (getTleByResno tlist var.varattno).bind fun tle => tle.expr.eval read := by
  induction expr with
  | column ofVar =>
      rcases Option.isSome_iff_exists.mp (found ofVar (by simp [vars])) with ⟨tle, tleEq⟩
      simp [resolve, eval, tleEq]
  | atMost arg bound ih => rw [resolve, eval, eval, ih found]
  | both left right leftIh rightIh =>
      rw [resolve, eval, eval, leftIh fun var mem => found var (List.mem_append_left _ mem),
        rightIh fun var mem => found var (List.mem_append_right _ mem)]
  | always => rfl

end ColumnExpr

/-- The third column of a range table entry is an INT8, everything else an INT4. -/
def columnUtils : ClauseUtils ColumnExpr where
  exprType expr := if expr = .column ⟨1, 3⟩ then 20 else 23
  containSubplans _ := false
  pullVarClause := ColumnExpr.vars
  expressionReturnsSet _ := false
  containVolatileFunctions _ := false
  makeAndclause quals := quals.foldr .both .always
  resolveNew expr _ tlist := expr.resolve tlist

/-- An INT4 is coerced to an INT8. -/
def columnTypeUtils : TypeUtils where
  getBaseType typid := typid
  typeCategory _ := 0
  isPreferredType _ _ := false
  canCoerceType inputType targetType := inputType == 23 && targetType == 20
  formatTypeBe typid := if typid = 23 then "integer" else "bigint"

/-- The value for a row of FROM. -/
def columnValue (expr : ColumnExpr) (row : IntegerRow) : Option Int :=
  expr.eval fun var => integerEnv.slotGetattr row var.varattno

/-- FROM is given by its rows. -/
def columnMeaning : QueryMeaning ColumnExpr Unit Unit (List IntegerRow) IntegerRow Int where
  componentRows _ rows := rows
  topRows _ rows := rows
  holds expr row := columnValue expr row == some 1
  value := columnValue
  groupRows _ _ rows := rows
  targetRows tlist row :=
    [fun resno => (getTleByResno tlist resno).bind fun tle => columnValue tle.expr row]
  sortsBefore _ _ _ _ := False
  limitValue _ := none
  convert _ _ datum := datum
  qualHolds expr row := expr.eval (fun var => row var.varattno) == some 1

private theorem columnMeaning_sound : columnMeaning.Sound columnUtils where
  andclause quals row := by
    induction quals with
    | nil => rfl
    | cons qual quals ih =>
        rw [List.all_cons, ← ih]
        simp only [columnMeaning, columnValue, columnUtils, List.foldr_cons, ColumnExpr.eval]
        split <;> simp_all
  reads qual x y _ _ same := by
    have equal : qual.eval (fun var => x var.varattno) = qual.eval fun var => y var.varattno :=
      ColumnExpr.eval_congr fun var mem => (same var mem).2
    simp only [columnMeaning, equal]
  resolveNew qual rti tlist row _ _ found := by
    have equal := ColumnExpr.eval_resolve (fun var => integerEnv.slotGetattr row var.varattno)
      fun var mem => (found var mem).2.2
    simp only [columnMeaning, columnUtils, columnValue, equal]
  targetRows tlist row out resno tle mem found _ _ := by
    cases List.mem_singleton.mp mem
    simp only [columnMeaning, found, Option.bind_some]
  irrefl _ _ _ := id
  trans _ _ _ _ _ first _ := first

/-- SELECT of columns from the rows. -/
def columnQuery {R : Type} (rtable : R) (columns : List (TargetEntry ColumnExpr))
    (fromlist : List IntegerRow) : Query ColumnExpr R (List IntegerRow) where
  targetList := columns
  rtable
  fromlist
  quals := none
  havingQual := none
  sortClause := []
  groupClause := []
  distinctClause := []
  skylineClause := none
  limitOffset := none
  limitCount := none
  hasAggs := false
  rowMarks := []

/-- The entry for a column. -/
def columnTarget (resno varattno : Nat) : TargetEntry ColumnExpr :=
  ⟨.column ⟨1, varattno⟩, resno, none, 0, false⟩

theorem numbered_columnTargets (first second : Nat) :
    Numbered [columnTarget 1 first, columnTarget 2 second] := by
  intro index tle atIndex
  rcases index with _ | _ | index
  · cases atIndex
    exact ⟨rfl, rfl⟩
  · cases atIndex
    exact ⟨rfl, rfl⟩
  · simp [visible, columnTarget] at atIndex

/-- A UNION of two queries, the second columns of which have different types. -/
def unionQuery : TopQuery ColumnExpr Unit Unit (List IntegerRow) where
  toQuery := columnQuery
    [⟨some ⟨columnQuery () [columnTarget 1 1, columnTarget 2 2] [[some 1, some 7]], none⟩, ()⟩,
      ⟨some ⟨columnQuery () [columnTarget 1 2, columnTarget 2 3] [[some 0, some 9, some 4]], none⟩,
        ()⟩] [columnTarget 1 1, columnTarget 2 2] []
  setOperations := some (.setOperationStmt .union false (.rangeTblRef 1) (.rangeTblRef 2) [23, 20])

/-- The condition on the first column is pushed down, the one on the second is not. -/
theorem setSubqueryPathlist_keeps_union :
    let first : RestrictInfo ColumnExpr := ⟨.atMost (.column ⟨1, 1⟩) 5, false⟩
    let second : RestrictInfo ColumnExpr := ⟨.atMost (.column ⟨1, 2⟩) 5, false⟩
    ∃ pushed, setSubqueryPathlist columnUtils integerCatalog 1 unionQuery [first, second] =
        .ok (pushed, [second]) ∧
      keep (restrictionsHold columnMeaning [second]) '' columnMeaning.results integerCatalog
          columnUtils pushed =
        keep (restrictionsHold columnMeaning [first, second]) '' columnMeaning.results
          integerCatalog columnUtils unionQuery := by
  intro first second
  refine ⟨_, rfl, ?_⟩
  have fits : ∀ topop, unionQuery.setOperations = some topop →
      SetOperationsFit columnUtils integerCatalog columnTypeUtils unionQuery topop := by
    intro topop operations
    cases operations
    refine ⟨numbered_columnTargets 1 2, rfl, ?_, fun rtindex mem component fetched => ?_⟩
    · exact ⟨rfl, trivial, trivial⟩
    · have leaf : rtindex = 1 ∨ rtindex = 2 := by simpa [SetOperationTree.leaves] using mem
      rcases leaf with rfl | rfl
      · cases fetched
        exact ⟨numbered_columnTargets 1 2, fun _ _ => rfl⟩
      · cases fetched
        exact ⟨numbered_columnTargets 2 3, fun _ _ => rfl⟩
  exact (setSubqueryPathlist_keeps columnMeaning columnUtils columnMeaning_sound integerCatalog
    columnTypeUtils unionQuery fits 1 [first, second] [second] (fun _ _ => rfl) _ rfl).1

end PgSkyline
