import PgSkyline.Pushdown.Meaning

/-!
# A qual inside a single query

Attached to a query that it is safe for, a qual keeps those results on which it holds
and drops no others.
-/

namespace PgSkyline

variable {E R X J S D R' : Type}

/-- The rows kept before they are expanded are those kept afterwards. -/
theorem flatMap_filter_and {α β : Type} {f : α → List β} {p r : α → Bool} {q : β → Bool}
    (agree : ∀ s, ∀ row ∈ f s, r s = q row) (rows : List α) :
    (rows.filter fun s => p s && r s).flatMap f = ((rows.filter p).flatMap f).filter q := by
  induction rows with
  | nil => rfl
  | cons s rest ih =>
      cases passed : p s with
      | false => simp [passed, ih]
      | true =>
          cases kept : r s with
          | false =>
              have gone : (f s).filter q = [] :=
                List.filter_eq_nil_iff.mpr fun row mem => by simp [← agree s row mem, kept]
              simp [passed, kept, gone, ih]
          | true =>
              have whole : (f s).filter q = f s :=
                List.filter_eq_self.mpr fun row mem => by rw [← agree s row mem, kept]
              simp [passed, kept, whole, ih]

/-- The qual has no subplans and no volatile functions, and reads outputs that are safe. -/
structure SafeQual (utils : ClauseUtils E) (catalog : Catalog D) (query : Query E R' J) (rti : Nat)
    (qual : E) : Prop where
  noSubplans : utils.containSubplans qual = false
  notVolatile : utils.containVolatileFunctions qual = false
  vars : ∀ var ∈ utils.pullVarClause qual,
    var.varno = rti ∧ OutputIsSafe utils catalog query var.varattno

/-! ## Queries with the same output -/

/-- The output of both queries is the same, up to the quals. -/
structure SameOutput (first second : Query E R' J) : Prop where
  targetList : second.targetList = first.targetList
  distinctClause : second.distinctClause = first.distinctClause
  skylineClause : second.skylineClause = first.skylineClause
  limitOffset : second.limitOffset = first.limitOffset
  limitCount : second.limitCount = first.limitCount

theorem SameOutput.refl (query : Query E R' J) : SameOutput query query :=
  ⟨rfl, rfl, rfl, rfl, rfl⟩

theorem SameOutput.trans {first second third : Query E R' J}
    (left : SameOutput first second) (right : SameOutput second third) : SameOutput first third :=
  ⟨right.targetList.trans left.targetList, right.distinctClause.trans left.distinctClause,
    right.skylineClause.trans left.skylineClause, right.limitOffset.trans left.limitOffset,
    right.limitCount.trans left.limitCount⟩

theorem sameOutput_attachQual (utils : ClauseUtils E) (query : Query E R' J) (rti : Nat)
    (qual : E) : SameOutput query (attachQual utils query rti qual) := by
  unfold attachQual
  dsimp only
  split <;> exact ⟨rfl, rfl, rfl, rfl, rfl⟩

theorem TakesQuals.of_sameOutput {first second : Query E R' J}
    (takes : TakesQuals first) (same : SameOutput first second) : TakesQuals second :=
  ⟨same.limitOffset.trans takes.limitOffset, same.limitCount.trans takes.limitCount,
    same.skylineClause.trans takes.skylineClause⟩

theorem OutputIsSafe.of_sameOutput {utils : ClauseUtils E} {catalog : Catalog D}
    {first second : Query E R' J} {resno : Nat} (safe : OutputIsSafe utils catalog first resno)
    (same : SameOutput first second) :
    OutputIsSafe utils catalog second resno := by
  unfold OutputIsSafe
  rw [same.targetList, same.distinctClause]
  exact safe

theorem SafeQual.of_sameOutput {utils : ClauseUtils E} {catalog : Catalog D}
    {first second : Query E R' J} {rti : Nat} {qual : E}
    (safe : SafeQual utils catalog first rti qual) (same : SameOutput first second) :
    SafeQual utils catalog second rti qual :=
  ⟨safe.noSubplans, safe.notVolatile, fun var mem =>
    ⟨(safe.vars var mem).1, (safe.vars var mem).2.of_sameOutput same⟩⟩

namespace QueryMeaning

variable {meaning : QueryMeaning E R X J S D} {utils : ClauseUtils E} {catalog : Catalog D}
  {query : Query E R' J} {rti : Nat} {qual : E}

/-- On the rows of FROM the qual is what it is on the outputs. -/
theorem Sound.holds_resolveNew (sound : meaning.Sound utils)
    (safe : SafeQual utils catalog query rti qual) {s : S} {row : ResultRow D}
    (mem : row ∈ meaning.targetRows query.targetList s) :
    meaning.holds (utils.resolveNew qual rti query.targetList) s = meaning.qualHolds qual row := by
  rw [sound.resolveNew qual rti query.targetList s safe.noSubplans safe.notVolatile]
  · refine sound.reads qual _ _ safe.noSubplans safe.notVolatile fun var varMem => ?_
    rcases (safe.vars var varMem).2 with ⟨nonzero, tle, found, _, output⟩
    rcases (outputIsPushdownSafe_iff.mp output).2 with ⟨noSets, notVolatile⟩
    refine ⟨nonzero, ?_⟩
    rw [found, Option.bind_some]
    exact (sound.targetRows _ s row _ tle mem found noSets notVolatile).symm
  · intro var varMem
    rcases safe.vars var varMem with ⟨varno, nonzero, tle, found, _⟩
    exact ⟨varno, nonzero, by simp [found]⟩

theorem Sound.passes_makeAndQual (sound : meaning.Sound utils) (qual1 : Option E) (qual2 : E)
    (s : S) : meaning.passes (some (makeAndQual utils qual1 qual2)) s =
      (meaning.passes qual1 s && meaning.holds qual2 s) := by
  cases qual1 with
  | none => simp [passes, makeAndQual]
  | some qual1 => simp [passes, makeAndQual, sound.andclause]

private theorem attachQual_of_grouped (grouped : query.isGrouped = true) :
    attachQual utils query rti qual =
      { query with
        havingQual := some (makeAndQual utils query.havingQual
          (utils.resolveNew qual rti query.targetList)) } := by
  simp only [attachQual, grouped, if_true]

private theorem attachQual_of_ungrouped (ungrouped : query.isGrouped = false) :
    attachQual utils query rti qual =
      { query with
        quals := some (makeAndQual utils query.quals
          (utils.resolveNew qual rti query.targetList)) } := by
  simp only [attachQual, ungrouped, Bool.false_eq_true, if_false]

private theorem isGrouped_having (query : Query E R' J) (qual : E) :
    ({ query with havingQual := some qual } : Query E R' J).isGrouped = true := by
  simp [Query.isGrouped]

/-- The outputs of a query with the qual in WHERE or HAVING. -/
theorem Sound.selectRows_attachQual (sound : meaning.Sound utils)
    (safe : SafeQual utils catalog query rti qual) (rows : List S) :
    meaning.selectRows rows (attachQual utils query rti qual) =
      (meaning.selectRows rows query).filter (meaning.qualHolds qual) := by
  have agree : ∀ s, ∀ row ∈ meaning.targetRows query.targetList s,
      meaning.holds (utils.resolveNew qual rti query.targetList) s = meaning.qualHolds qual row :=
    fun s row mem => sound.holds_resolveNew safe mem
  have and_ := fun qual1 => funext (sound.passes_makeAndQual qual1
    (utils.resolveNew qual rti query.targetList))
  cases grouped : query.isGrouped with
  | true =>
      rw [attachQual_of_grouped grouped, selectRows, selectRows, isGrouped_having, grouped]
      simp only [if_true, and_]
      exact flatMap_filter_and agree _
  | false =>
      have stillUngrouped := grouped
      rw [attachQual_of_ungrouped grouped]
      simp only [Query.isGrouped] at stillUngrouped
      simp only [selectRows, Query.isGrouped, stillUngrouped, Bool.false_eq_true, if_false, and_]
      exact flatMap_filter_and agree _

/-- What comes after HAVING does not look at the quals. -/
theorem finish_attachQual (rows : Multiset (ResultRow D)) :
    meaning.finish catalog (attachQual utils query rti qual) rows =
      meaning.finish catalog query rows := by
  unfold attachQual
  dsimp only
  split <;> rfl

/-! ## Behind the quals -/

/-- The condition depends on nothing but safe outputs. -/
def ReadsSafe (utils : ClauseUtils E) (catalog : Catalog D) (query : Query E R' J)
    (q : ResultRow D → Bool) : Prop :=
  ∀ x y, (∀ resno, OutputIsSafe utils catalog query resno → x resno = y resno) → q x = q y

theorem Sound.readsSafe (sound : meaning.Sound utils)
    (safe : SafeQual utils catalog query rti qual) :
    ReadsSafe utils catalog query (meaning.qualHolds qual) := by
  intro x y same
  refine sound.reads qual x y safe.noSubplans safe.notVolatile fun var mem => ?_
  have output := (safe.vars var mem).2
  exact ⟨output.1, same _ output⟩

variable {q : ResultRow D → Bool}

private theorem sameOn_equivalence (query : Query E R' J) :
    Equivalence (SameOn (D := D) catalog query) where
  refl _ _ _ _ := rfl
  symm same tle mem inList := (same tle mem inList).symm
  trans first second tle mem inList := (first tle mem inList).trans (second tle mem inList)

/-- Rows that agree on the columns of DISTINCT agree on the condition. -/
theorem ReadsSafe.of_sameOn (reads : ReadsSafe utils catalog query q)
    (distinct : query.distinctClause.isEmpty = false) {x y : ResultRow D}
    (same : SameOn catalog query x y) : q x = q y := by
  refine reads x y fun resno output => ?_
  rcases output with ⟨_, tle, found, _, passed⟩
  have inList := (outputIsPushdownSafe_iff.mp passed).1 distinct
  have number : tle.resno = resno := by simpa using List.find?_some found
  have agree := same tle (List.mem_of_find?_eq_some found) inList
  rwa [number] at agree

theorem ReadsSafe.visibleRow (reads : ReadsSafe utils catalog query q) (row : ResultRow D) :
    q (visibleRow query.targetList row) = q row := by
  refine reads _ _ fun resno output => ?_
  rcases output with ⟨_, tle, found, notJunk, _⟩
  rw [QueryMeaning.visibleRow, found]
  simp only [notJunk, Bool.false_eq_true, if_false]

/-- The rows DISTINCT leaves of those with the condition. -/
theorem Sound.distinctRows_filter_iff (sound : meaning.Sound utils)
    (reads : ReadsSafe utils catalog query q) {rows out : Multiset (ResultRow D)} :
    meaning.DistinctRows catalog query (rows.filter fun row => q row = true) out ↔
      ∃ all, meaning.DistinctRows catalog query rows all ∧
        all.filter (fun row => q row = true) = out := by
  classical
  unfold DistinctRows
  cases distinct : query.distinctClause.isEmpty with
  | true =>
      simp only [if_true]
      constructor
      · rintro rfl
        exact ⟨rows, rfl, rfl⟩
      · rintro ⟨_, rfl, rfl⟩
        rfl
  | false =>
      simp only [Bool.false_eq_true, if_false]
      refine Bags.representatives_filter_iff (sameOn_equivalence query) (sound.irrefl _ _)
        (sound.trans _ _) fun x y same => ?_
      rw [reads.of_sameOn distinct same]

theorem finish_of_takesQuals (takes : TakesQuals query) (rows : Multiset (ResultRow D)) :
    meaning.finish catalog query rows =
      Multiset.map (QueryMeaning.visibleRow query.targetList) ''
        { distinct | meaning.DistinctRows catalog query rows distinct } := by
  ext out
  simp only [finish, SkylineRows, LimitRows, takes.limitOffset, takes.limitCount,
    takes.skylineClause, Set.mem_ofPred_eq, Set.mem_image]
  constructor
  · rintro ⟨_, _, limited, rfl, isDistinct, rfl, rfl⟩
    exact ⟨limited, isDistinct, rfl⟩
  · rintro ⟨distinct, isDistinct, rfl⟩
    exact ⟨rows, distinct, distinct, rfl, isDistinct, rfl, rfl⟩

/-- The results that have the condition. -/
def keep (q : ResultRow D → Bool) (rows : Multiset (ResultRow D)) : Multiset (ResultRow D) :=
  rows.filter fun row => q row = true

/-- A query with neither LIMIT nor SKYLINE OF returns those rows with the condition that it
returns without it. -/
theorem Sound.finish_keep (sound : meaning.Sound utils) (takes : TakesQuals query)
    (reads : ReadsSafe utils catalog query q) (rows : Multiset (ResultRow D)) :
    meaning.finish catalog query (keep q rows) = keep q '' meaning.finish catalog query rows := by
  have mapped : ∀ distinct : Multiset (ResultRow D),
      keep q (distinct.map (QueryMeaning.visibleRow query.targetList)) =
        (keep q distinct).map (QueryMeaning.visibleRow query.targetList) := by
    intro distinct
    rw [keep, keep, Multiset.filter_map]
    simp only [Function.comp_def, reads.visibleRow]
  rw [finish_of_takesQuals takes, finish_of_takesQuals takes]
  ext out
  simp only [Set.mem_image, Set.mem_ofPred_eq, keep, sound.distinctRows_filter_iff reads]
  constructor
  · rintro ⟨_, ⟨all, isDistinct, rfl⟩, rfl⟩
    exact ⟨_, ⟨all, isDistinct, rfl⟩, mapped all⟩
  · rintro ⟨_, ⟨all, isDistinct, rfl⟩, rfl⟩
    exact ⟨_, ⟨all, isDistinct, rfl⟩, (mapped all).symm⟩

theorem attachQual_from (utils : ClauseUtils E) (query : Query E R' J) (rti : Nat) (qual : E) :
    (attachQual utils query rti qual).rtable = query.rtable ∧
      (attachQual utils query rti qual).fromlist = query.fromlist := by
  unfold attachQual
  dsimp only
  split <;> exact ⟨rfl, rfl⟩

/-- The results of a query with a safe qual. -/
theorem Sound.finish_push (sound : meaning.Sound utils) (takes : TakesQuals query)
    (safe : SafeQual utils catalog query rti qual) (rows : List S) :
    meaning.finish catalog (attachQual utils query rti qual)
        ↑(meaning.selectRows rows (attachQual utils query rti qual)) =
      keep (meaning.qualHolds qual) '' meaning.finish catalog query
        ↑(meaning.selectRows rows query) := by
  have kept : ∀ outputs : List (ResultRow D), (↑(outputs.filter (meaning.qualHolds qual)) :
      Multiset (ResultRow D)) = keep (meaning.qualHolds qual) ↑outputs := by
    intro outputs
    simp [keep]
  rw [finish_attachQual, sound.selectRows_attachQual safe, kept]
  exact sound.finish_keep takes (sound.readsSafe safe) _

theorem Sound.componentResults_push (sound : meaning.Sound utils) {subquery : Subquery E R J}
    (takes : TakesQuals subquery.toQuery)
    (safe : SafeQual utils catalog subquery.toQuery rti qual) :
    meaning.componentResults catalog (componentPushQual utils rti qual subquery) =
      keep (meaning.qualHolds qual) '' meaning.componentResults catalog subquery := by
  have sameFrom := attachQual_from utils subquery.toQuery rti qual
  simp only [componentResults, componentPushQual, sameFrom]
  exact sound.finish_push takes safe _

end QueryMeaning

end PgSkyline
