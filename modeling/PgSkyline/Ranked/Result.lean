import PgSkyline.Ranked.Runs

/-!
# Ranked windows stay sorted and keep the best

Under the policies ENTROPY and RANDOM every window of the probing loops is the
ranking of some of the tuples put into it.  A new tuple goes to its place among
the tuples the scan has left, and a forced put into a full window of `k` slots
leaves the first `k` of the ranking with the new tuple.
-/

namespace PgSkyline

open Ranking TupleWindowState

variable {T D R : Type} [LinearOrder R]

/-! ## One comparison -/

section Comparison

variable {env : ExecEnv T D R} {node : Skyline D} {policy : TupleWindowPolicy}
variable {window scanned window' : TupleWindowState T R}
variable {secondDominates : TupleWindowState T R → Except Fault (TupleWindowState T R)}

private theorem proceeds_of_isProbing (probing : IsProbing env secondDominates) :
    Proceeds env.space secondDominates := by
  rcases probing with rfl | rfl
  · exact proceeds_removeCurrent
  · exact proceeds_assertNotSecondDominates env.assertChecking

omit [LinearOrder R] in
private theorem setRank_ranked (ranked : policy.isRanked = true)
    (windowPolicy : window.policy = policy) (slot : T) (drawn : Nat) :
    ∃ drawn', setRank env node (slFlagsOf policy) slot (rewind window) drawn =
      .ok ({ rewind window with insertrank := insertRankOf env node policy slot drawn },
        drawn') := by
  subst windowPolicy
  cases policy : window.policy with
  | append | prepend =>
      rw [policy] at ranked
      cases ranked
  | entropy =>
      refine ⟨drawn, ?_⟩
      simp [setRank, slFlagsOf, setInsertRank, rewind, policy, TupleWindowPolicy.isRanked,
        insertRankOf]
  | random =>
      refine ⟨drawn + 1, ?_⟩
      simp [setRank, slFlagsOf, setInsertRank, rewind, policy, TupleWindowPolicy.isRanked,
        insertRankOf]

/-- What a comparison leaves of a window. -/
structure Compared (env : ExecEnv T D R) (window scanned : TupleWindowState T R) (rank : R)
    (done rest : List (TupleWindowSlot T R)) : Prop where
  scanning : Scanning scanned done rest
  sublist : scanned.slots.Sublist window.slots
  balanced : Balanced env.space scanned
  limits : SameLimits window scanned
  insertrank : scanned.insertrank = rank

/-- A comparison is a scan from the start of the window. -/
theorem compareWithWindow_scans (ranked : policy.isRanked = true)
    (windowPolicy : window.policy = policy) (balanced : Balanced env.space window)
    (probing : IsProbing env secondDominates) {slot : T} {drawn drawn' : Nat}
    {innerSlot innerSlot' : Option T} {atEnd : Bool}
    (compared : compareWithWindow env node secondDominates (slFlagsOf policy) slot window drawn
      innerSlot = .ok (atEnd, scanned, drawn', innerSlot')) :
    ∃ done rest, Compared env window scanned (insertRankOf env node policy slot drawn) done rest ∧
      (atEnd = true → rest = []) := by
  rcases setRank_ranked ranked windowPolicy slot drawn with ⟨drawn'', rankSet⟩
  rw [compareWithWindow, rankSet, ok_bind] at compared
  rcases (bind_eq_ok_iff _ _ _).mp compared with ⟨⟨atEnd', scanned', innerSlot''⟩, looped, same⟩
  cases same
  have start := @scanning_rewind T R _ window (windowPolicy ▸ ranked)
    (insertRankOf env node policy slot drawn)
  have startBalanced : Balanced env.space
      { rewind window with insertrank := insertRankOf env node policy slot drawn } :=
    ⟨balanced.availMem, balanced.availSlots, balanced.atMost⟩
  rcases probeLoop_scans (proceeds_of_isProbing probing) startBalanced start looped with
    ⟨done, rest, sub, scanning, kept, ended⟩
  refine ⟨done, rest, ⟨scanning, ?_, kept.balanced, kept.limits, kept.insertrank⟩, ended⟩
  rw [scanning.slots]
  exact sub

omit [LinearOrder R] in
private theorem moveNext_slots [LE R] [DecidableLE R] (window : TupleWindowState T R) :
    (moveNext window).slots = window.slots ∧ (moveNext window).policy = window.policy := by
  rw [moveNext]
  split
  · exact ⟨rfl, rfl⟩
  · exact ⟨rfl, rfl⟩

omit [LinearOrder R] in
private theorem balanced_moveNext [LE R] [DecidableLE R] (balanced : Balanced env.space window) :
    Balanced env.space (moveNext window) := by
  rw [moveNext]
  split
  · exact balanced
  · exact ⟨balanced.availMem, balanced.availSlots, balanced.atMost⟩

omit [LinearOrder R] in
/-- Fetching the current slot leaves the others. -/
theorem getTupleSlot_sublist (balanced : Balanced env.space window) {slot : Option T}
    (fetched : getTupleSlot env.space window true = .ok (slot, window')) :
    window'.slots.Sublist window.slots ∧ window'.policy = window.policy ∧
      Balanced env.space window' := by
  by_cases inside : window.current < window.slots.length
  · rcases exists_split_at inside with ⟨done, current, rest, split, currentEq⟩
    rcases getTupleSlot_true balanced split currentEq with
      ⟨removed, fetched', slots, _, balanced', limits⟩
    cases fetched.symm.trans fetched'
    refine ⟨?_, limits.2.2, balanced'⟩
    rw [slots]
    conv_rhs => rw [split]
    exact (List.sublist_cons_self _ _).append_left _
  · rw [getTupleSlot, List.getElem?_eq_none (Nat.le_of_not_lt inside)] at fetched
    cases fetched
    exact ⟨List.Sublist.refl _, rfl, balanced⟩

end Comparison

/-! ## Runs -/

/-- The window is sorted, and it ranks some of the arrivals. -/
structure RankedWindow (space : ChunkSpace T) (policy : TupleWindowPolicy)
    (arrivals : List (TupleWindowSlot T R)) (window : TupleWindowState T R) : Prop where
  policyEq : window.policy = policy
  balanced : Balanced space window
  sorted : RankSorted window.slots
  ranked : ∃ kept, kept.Sublist arrivals ∧ window.slots = ranking TupleWindowSlot.rank kept

variable {env : ExecEnv T D R} {node : Skyline D} {policy : TupleWindowPolicy}
variable {arrivals : List (TupleWindowSlot T R)} {window scanned window' : TupleWindowState T R}

/-- What is left of a ranked window is ranked. -/
theorem RankedWindow.sublist {space : ChunkSpace T}
    (rankedWindow : RankedWindow space policy arrivals window)
    (samePolicy : window'.policy = window.policy) (balanced : Balanced space window')
    (sub : window'.slots.Sublist window.slots) : RankedWindow space policy arrivals window' := by
  rcases rankedWindow.ranked with ⟨kept, keptSub, slots⟩
  rcases exists_ranking_of_sublist (slots ▸ sub) with ⟨left, leftSub, slots'⟩
  exact ⟨samePolicy.trans rankedWindow.policyEq, balanced, rankedWindow.sorted.sublist sub, left,
    leftSub.trans keptSub, slots'⟩

/-- Every put of a run ranks the new tuple. -/
theorem RankedWindow.put (ranked : RankedWindow env.space policy arrivals scanned)
    {new : TupleWindowSlot T R} {forced : Bool} {front back : List (TupleWindowSlot T R)}
    (put : PutAt env.space scanned window' new forced front back) :
    RankedWindow env.space policy (arrivals ++ [new]) window' := by
  rcases ranked.ranked with ⟨kept, keptSub, slots⟩
  have whole := ranking_concat_of_split (slots.symm.trans put.slots) put.place.before
    put.place.behind
  rcases exists_ranking_of_sublist (whole ▸ put.sublist) with ⟨left, leftSub, slots'⟩
  refine ⟨put.limits.2.2.trans ranked.policyEq, put.balanced, ?_, left, ?_, slots'⟩
  · rw [RankSorted, slots']
    exact pairwise_ranking left
  · exact leftSub.trans (keptSub.append_right [new])

theorem ProbingRun.rankedWindow (ranked : policy.isRanked = true)
    (run : ProbingRun env node policy arrivals window) :
    RankedWindow env.space policy arrivals window := by
  induction run with
  | begin maxKBytes maxSlots =>
      exact ⟨rfl, balanced_begin _ _ _ _, List.Pairwise.nil, [], List.Sublist.refl _, rfl⟩
  | compared _ probing compared ih =>
      rcases compareWithWindow_scans ranked ih.policyEq ih.balanced probing compared with
        ⟨done, rest, left, _⟩
      exact ih.sublist left.limits.2.2 left.balanced left.sublist
  | put _ probing compared put ih =>
      rcases compareWithWindow_scans ranked ih.policyEq ih.balanced probing compared with
        ⟨done, rest, left, ended⟩
      have rankedScan := ih.sublist left.limits.2.2 left.balanced left.sublist
      have scanning := left.scanning
      rw [ended rfl] at scanning
      rcases putTupleSlot_ranked left.balanced scanning rankedScan.sorted put with
        ⟨front, back, putAt⟩
      rw [left.insertrank] at putAt
      exact rankedScan.put putAt
  | rewind _ ih => exact ih.sublist rfl (balanced_rewind ih.balanced) (List.Sublist.refl _)
  | @moveNext arrivals window _ ih =>
      have same := moveNext_slots window
      exact ih.sublist same.2 (balanced_moveNext ih.balanced) (same.1 ▸ List.Sublist.refl _)
  | fetched _ fetched ih =>
      rcases getTupleSlot_sublist ih.balanced fetched with ⟨sub, samePolicy, balanced⟩
      exact ih.sublist samePolicy balanced sub
  | clean _ ih => exact ih.sublist rfl balanced_clean (List.nil_sublist _)

/-! ## The results -/

/-- A put that returns has put `new` behind the slots of at least its rank and
before those of smaller rank, if it has stored it. -/
def PutsInPlace (env : ExecEnv T D R) (scanned : TupleWindowState T R)
    (new : TupleWindowSlot T R) : Prop :=
  ∀ forced window', putTupleSlot env.space env.negDblMax scanned new.tuple new.timestamp forced =
      .ok window' →
    ∃ front back, scanned.slots = front ++ back ∧ PlaceOf new.rank front back ∧
      window'.slots.Sublist (front ++ new :: back) ∧
      (hasFreespace scanned = true → window'.slots = front ++ new :: back)

/-- A forced put into a full window of `k` slots leaves the first `k` of the ranking
of its slots and the new one, where earlier arrivals come first within a rank. -/
def ForcedPutKeepsBest (env : ExecEnv T D R) (arrivals : List (TupleWindowSlot T R))
    (scanned : TupleWindowState T R) (new : TupleWindowSlot T R) : Prop :=
  ∀ k : Nat, 1 ≤ k → scanned.maxSlots = k → scanned.slots.length = k →
    ∃ window' kept,
      putTupleSlot env.space env.negDblMax scanned new.tuple new.timestamp true = .ok window' ∧
      kept.Sublist arrivals ∧ scanned.slots = ranking TupleWindowSlot.rank kept ∧
      window'.slots = (ranking TupleWindowSlot.rank (kept ++ [new])).take k

/-- Behind a scan both cursors are valid. -/
theorem Compared.cursorsValid {rank : R} {done rest : List (TupleWindowSlot T R)}
    (compared : Compared env window scanned rank done rest) : CursorsValid scanned := by
  rcases compared.scanning.cursor with ⟨front, back, split, rankinsert, _⟩
  have slots := compared.scanning.slots
  have current := compared.scanning.current
  refine ⟨?_, front.length, rankinsert, ?_⟩
  · rw [current, slots, List.length_append]
    exact Nat.le_add_right _ _
  · rw [current, split, List.length_append]
    exact Nat.le_add_right _ _

private theorem putsInPlace_of_compared {slot : T} {timestamp : Nat} {rank : R}
    {done : List (TupleWindowSlot T R)} (compared : Compared env window scanned rank done [])
    (sorted : RankSorted scanned.slots) : PutsInPlace env scanned ⟨slot, timestamp, rank⟩ := by
  intro forced window' put
  rcases putTupleSlot_ranked compared.balanced compared.scanning sorted put with
    ⟨front, back, putAt⟩
  rw [compared.insertrank] at putAt
  exact ⟨front, back, putAt.slots, putAt.place, putAt.sublist, putAt.stored⟩

private theorem forcedPutKeepsBest_of_compared {slot : T} {timestamp : Nat} {rank : R}
    {done : List (TupleWindowSlot T R)} (compared : Compared env window scanned rank done [])
    (ranked : RankedWindow env.space policy arrivals scanned) :
    ForcedPutKeepsBest env arrivals scanned ⟨slot, timestamp, rank⟩ := by
  intro k positive limit full
  have capacity : HasCapacity scanned.maxKBytes scanned.maxSlots := by
    rw [limit]
    exact Or.inl (by exact_mod_cast positive)
  rcases putTupleSlot_forced_spec env.negDblMax compared.balanced compared.cursorsValid capacity
    slot timestamp with ⟨window', put, _⟩
  rcases putTupleSlot_ranked compared.balanced compared.scanning ranked.sorted put with
    ⟨front, back, putAt⟩
  rw [compared.insertrank] at putAt
  rcases ranked.ranked with ⟨kept, keptSub, slots⟩
  have whole := ranking_concat_of_split (slots.symm.trans putAt.slots) putAt.place.before
    putAt.place.behind
  have limited : scanned.maxSlots ≠ -1 := by omega
  have noRoom : hasFreespace scanned = false := by
    rw [← Bool.not_eq_true, hasFreespace_iff compared.balanced, HasRoom, if_neg limited, limit,
      full]
    exact lt_irrefl _
  refine ⟨window', kept, put, keptSub, slots, ?_⟩
  have length : (front ++ (⟨slot, timestamp, rank⟩ : TupleWindowSlot T R) :: back).length =
      k + 1 := by
    rw [← full, putAt.slots, List.length_append, List.length_append, List.length_cons]
    rfl
  rw [putAt.replaced noRoom rfl limited, whole, List.dropLast_eq_take, length,
    Nat.add_sub_cancel]

/-- Under a ranked policy the windows of block nested loop, sort filter skyline and
the elimination filter are in a run of the probing loops; in such a run the window
is sorted and ranks some of the arrivals; and every put that follows a comparison
finds its place among the remaining tuples, and by force keeps the best. -/
theorem rankedWindow_keepsBest (env : ExecEnv T D R) (node : Skyline D)
    (policy : TupleWindowPolicy) (ranked : policy.isRanked = true) :
    (initWindowPolicy node = .ok policy → node.skylineMethod.IsWindowed →
      ∀ state window, Reachable env node (fun _ => True) state →
        HoldsWindow state.windows state.window window → Probed env node policy window) ∧
    (windowPolicyOption node "efwindowpolicy" = .ok policy →
      ∀ state, FilterLife env node state → FilterProbed env node policy state) ∧
    ∀ arrivals window, ProbingRun env node policy arrivals window →
      RankSorted window.slots ∧
      (∃ kept, kept.Sublist arrivals ∧ window.slots = ranking TupleWindowSlot.rank kept) ∧
      ∀ secondDominates slot drawn innerSlot scanned drawn' innerSlot',
        IsProbing env secondDominates →
        compareWithWindow env node secondDominates (slFlagsOf policy) slot window drawn innerSlot =
          .ok (true, scanned, drawn', innerSlot') →
        scanned.slots.Sublist window.slots ∧
        ∀ timestamp,
          PutsInPlace env scanned ⟨slot, timestamp, insertRankOf env node policy slot drawn⟩ ∧
          ForcedPutKeepsBest env arrivals scanned
            ⟨slot, timestamp, insertRankOf env node policy slot drawn⟩ := by
  refine ⟨?_, ?_, ?_⟩
  · exact fun policyEq windowed state window reachable holds =>
      reachable.probed windowed policyEq holds
  · exact fun policyEq state reachable => reachable.probed policyEq
  · intro arrivals window run
    have rankedWindow := run.rankedWindow ranked
    refine ⟨rankedWindow.sorted, rankedWindow.ranked, ?_⟩
    intro secondDominates slot drawn innerSlot scanned drawn' innerSlot' probing compareEq
    rcases compareWithWindow_scans ranked rankedWindow.policyEq rankedWindow.balanced probing
      compareEq with ⟨done, rest, compared, ended⟩
    rw [ended rfl] at compared
    have rankedScan := rankedWindow.sublist compared.limits.2.2 compared.balanced compared.sublist
    refine ⟨compared.sublist, fun timestamp => ⟨?_, ?_⟩⟩
    · exact putsInPlace_of_compared compared rankedScan.sorted
    · exact forcedPutKeepsBest_of_compared compared rankedScan

/-- One window slot with random ranks: the second tuple has the higher rank and
replaces the first. -/
theorem rankedWindow_keepsBest_oneSlot :
    let node : Skyline Int :=
      ⟨[(1, .min), (2, .max)].map fun column => integerCol column.1 column.2, true,
        [⟨"efslots", .integer 1⟩, ⟨"efwindowpolicy", .string "random"⟩], .elimFilter, true⟩
    ∃ window scanned drawn innerSlot,
      ProbingRun integerEnv node .random [⟨[some 2, some 2], 0, 0⟩] window ∧
      compareWithWindow integerEnv node (removeCurrent integerEnv.space) (slFlagsOf .random)
        [some 1, some 1] window 1 none = .ok (true, scanned, drawn, innerSlot) ∧
      ForcedPutKeepsBest integerEnv [⟨[some 2, some 2], 0, 0⟩] scanned
        ⟨[some 1, some 1], 0, 1⟩ := by
  intro node
  let window : TupleWindowState IntegerRow Int :=
    ⟨920, 0, 1, 1, .random, [⟨[some 2, some 2], 0, 0⟩], 1, 0, some 1⟩
  let scanned : TupleWindowState IntegerRow Int :=
    { window with insertrank := 1, rankinsert := some 0 }
  have first : compareWithWindow integerEnv node (removeCurrent integerEnv.space)
      (slFlagsOf .random) [some 2, some 2] (begin integerEnv.negDblMax 1 1 .random) 0 none =
        .ok (true, ⟨1024, 1, 1, 1, .random, [], 0, 0, some 0⟩, 1, none) := rfl
  have put : putTupleSlot integerEnv.space integerEnv.negDblMax
      ⟨1024, 1, 1, 1, .random, [], 0, 0, some 0⟩ [some 2, some 2] 0 false = .ok window := rfl
  have run : ProbingRun integerEnv node .random [⟨[some 2, some 2], 0, 0⟩] window :=
    .put (.begin 1 1) (Or.inl rfl) first put
  have second : compareWithWindow integerEnv node (removeCurrent integerEnv.space)
      (slFlagsOf .random) [some 1, some 1] window 1 none =
        .ok (true, scanned, 2, some [some 2, some 2]) := rfl
  have kept := (rankedWindow_keepsBest integerEnv node .random rfl).2.2 _ window run
  exact ⟨window, scanned, 2, _, run, second,
    ((kept.2.2 _ _ _ _ _ _ _ (Or.inl rfl) second).2 0).2⟩

end PgSkyline
