import PgSkyline.Planner.Order
import PgSkyline.Presort.Result
import PgSkyline.Parser.Result

/-!
# Skyline methods on presorted paths

`skyline_pathkeys_contained_in` accepts a path whose order contains the skyline path
keys anywhere.  On such a path no row dominates an earlier one, and the presorted
two-dimensional method returns the skyline, exactly if no key on another class
precedes a key on a class whose values the clause ranks.
-/

namespace PgSkyline

open Comparison Covering Resumable

variable {E D EC R : Type}

/-! ## Columns and path keys of one clause -/

/-- The support functions of a btree family are one order on the datums, and a family
is among those its equality belongs to. -/
structure FamilyOrders (catalog : Catalog D) (order : Oid → D → D → Int) : Prop where
  proc : ∀ opfamily opcintype cmpfunc,
    catalog.getOpfamilyProc opfamily opcintype = some cmpfunc → cmpfunc = order opfamily
  threeWay : ∀ opfamily, ThreeWay (order opfamily)
  mergejoin : ∀ opfamily opcintype equalityOp,
    catalog.getOpfamilyEquality opfamily opcintype = some equalityOp →
      opfamily ∈ catalog.getMergejoinOpfamilies equalityOp

/-- A class has the families it was asked for, and these have the same notion of
equality. -/
structure PlannerInfo.Lawful (root : PlannerInfo E EC) (order : Oid → D → D → Int) : Prop where
  ecOpfamilies_eq : ∀ expr opcintype opfamilies,
    root.ecOpfamilies (root.ecMerged (root.getEclassForSortExpr expr opcintype opfamilies)) =
      opfamilies
  sameEquality : ∀ eclass, ∀ first ∈ root.ecOpfamilies eclass,
    ∀ second ∈ root.ecOpfamilies eclass, ∀ a b, order first a b = 0 → order second a b = 0

/-- The attribute of a skyline item holds the value of the item's class. -/
def ReadsClasses (catalog : Catalog D) (root : PlannerInfo E EC) (tlist : List (TargetEntry E))
    (items : List SkylineOf) (slotGetattr : (EC → Option D) → Nat → Option D) : Prop :=
  ∀ item ∈ items, ∀ tle key, getSkylineclauseTle item tlist = .ok tle →
    makeSkylinePathkey catalog root tlist item = .ok key →
      ∀ row, slotGetattr row tle.resno = row (root.ecMerged key.pkEclass)

section Planned

variable {catalog : Catalog D} {order : Oid → D → D → Int} {root : PlannerInfo E EC}
  {tlist : List (TargetEntry E)} {items : List SkylineOf}
  {slotGetattr : (EC → Option D) → Nat → Option D}

/-- What is known of an item with a column and a path key. -/
theorem column_and_key_of_item (families : FamilyOrders catalog order)
    (reads : ReadsClasses catalog root tlist items slotGetattr) {item : SkylineOf}
    (itemMem : item ∈ items) {col : SkylineCol D} {key : PathKey EC}
    (colMade : makeSkylineCol catalog tlist item = .ok col)
    (keyMade : makeSkylinePathkey catalog root tlist item = .ok key) :
    col.compareOpFn = order key.pkOpfamily ∧
      (∃ expr opcintype opfamilies, key.pkOpfamily ∈ opfamilies ∧
        key.pkEclass = root.getEclassForSortExpr expr opcintype opfamilies) ∧
      ∀ x y, col.compare slotGetattr x y = (root.canonicalPathkey key).compare order x y := by
  have readsItem := reads item itemMem
  simp only [makeSkylineCol, bind_eq_ok_iff] at colMade
  rcases colMade with ⟨tle, found, selected, sortFunction, colMade⟩
  rcases selected with ⟨compareOpFn, compareFlags⟩
  have readsTle := readsItem tle key found keyMade
  simp only [makeSkylinePathkey, bind_eq_ok_iff] at keyMade
  rcases keyMade with ⟨expr, _, keyMade⟩
  unfold makePathkeyFromSortinfo at keyMade
  unfold Catalog.selectSortFunction Catalog.getCompareFunctionForOrderingOp at sortFunction
  cases properties : catalog.getOrderingOpProperties item.skylineop with
  | none => simp [properties] at keyMade
  | some orderingOp =>
      rcases orderingOp with ⟨opfamily, opcintype, strategy⟩
      simp only [properties] at keyMade sortFunction
      cases equality : catalog.getOpfamilyEquality opfamily opcintype with
      | none => simp [equality] at keyMade
      | some equalityOp =>
          cases proc : catalog.getOpfamilyProc opfamily opcintype with
          | none => simp [proc] at sortFunction
          | some cmpfunc =>
              simp only [equality] at keyMade
              split at keyMade
              · cases keyMade
              · cases keyMade
                simp only [proc, ok_bind, pure_eq_ok, Except.ok.injEq, Prod.mk.injEq]
                  at sortFunction colMade
                rcases sortFunction with ⟨rfl, rfl⟩
                cases colMade
                have isOrder := families.proc opfamily opcintype cmpfunc proc
                refine ⟨isOrder, ⟨expr, opcintype, _, families.mergejoin _ _ _ equality, rfl⟩, ?_⟩
                intro x y
                rw [SkylineCol.compare, readsTle, readsTle, isOrder]
                rfl

variable {cols : List (SkylineCol D)} {rawKeys keys : List (PathKey EC)}
  (colsMade : makeSkylineCols catalog tlist items = .ok cols)
  (keysMade : makePathkeysForSkylineclause catalog root tlist items = .ok rawKeys)

include colsMade keysMade

theorem map_fst_zip_canonical :
    (cols.zip (rawKeys.map root.canonicalPathkey)).map Prod.fst = cols := by
  apply List.map_fst_zip
  rw [List.length_map, (zip_of_mapM_eq_ok colsMade keysMade).1]

/-- Each column with its key comes from one item. -/
theorem exists_item_of_mem_zip {entry : SkylineCol D × PathKey EC}
    (entryMem : entry ∈ cols.zip (rawKeys.map root.canonicalPathkey)) :
    ∃ item ∈ items, ∃ key, makeSkylineCol catalog tlist item = .ok entry.1 ∧
      makeSkylinePathkey catalog root tlist item = .ok key ∧
      entry.2 = root.canonicalPathkey key := by
  rw [List.zip_map_right] at entryMem
  rcases List.mem_map.mp entryMem with ⟨⟨col, key⟩, pairMem, rfl⟩
  rcases (zip_of_mapM_eq_ok colsMade keysMade).2 (col, key) pairMem with
    ⟨item, itemMem, colMade, keyMade⟩
  exact ⟨item, itemMem, key, colMade, keyMade, rfl⟩

theorem keyed_zip (families : FamilyOrders catalog order) (lawful : root.Lawful order)
    (reads : ReadsClasses catalog root tlist items slotGetattr) :
    Keyed order slotGetattr (cols.zip (rawKeys.map root.canonicalPathkey)) := by
  constructor
  · intro entry entryMem x y
    rcases exists_item_of_mem_zip colsMade keysMade entryMem with
      ⟨item, itemMem, key, colMade, keyMade, keyEq⟩
    rw [keyEq]
    exact (column_and_key_of_item families reads itemMem colMade keyMade).2.2 x y
  · intro entry entryMem other otherMem same u v equal
    rcases exists_item_of_mem_zip colsMade keysMade entryMem with
      ⟨item, itemMem, key, colMade, keyMade, keyEq⟩
    rcases exists_item_of_mem_zip colsMade keysMade otherMem with
      ⟨item', itemMem', key', colMade', keyMade', keyEq'⟩
    rcases (column_and_key_of_item families reads itemMem colMade keyMade).2.1 with
      ⟨expr, opcintype, opfamilies, familyMem, eclassEq⟩
    rcases (column_and_key_of_item families reads itemMem' colMade' keyMade').2.1 with
      ⟨expr', opcintype', opfamilies', familyMem', eclassEq'⟩
    have listed := lawful.ecOpfamilies_eq expr opcintype opfamilies
    have listed' := lawful.ecOpfamilies_eq expr' opcintype' opfamilies'
    rw [← eclassEq] at listed
    rw [← eclassEq'] at listed'
    rw [keyEq, keyEq'] at same
    have agree := lawful.sameEquality (root.ecMerged key.pkEclass) key.pkOpfamily
      (by rwa [listed]) key'.pkOpfamily (by
        have sameClass : root.ecMerged key.pkEclass = root.ecMerged key'.pkEclass := same
        rwa [sameClass, listed'])
    rw [keyEq] at equal
    rw [keyEq']
    exact inlineApply_eq_zero_of_imp agree equal _

theorem lawfulCols_of_made (families : FamilyOrders catalog order)
    (reads : ReadsClasses catalog root tlist items slotGetattr) : LawfulCols cols := by
  intro col colMem
  rw [← @map_fst_zip_canonical E D EC catalog root tlist items cols rawKeys colsMade
    keysMade] at colMem
  rcases List.mem_map.mp colMem with ⟨entry, entryMem, rfl⟩
  rcases exists_item_of_mem_zip colsMade keysMade entryMem with
    ⟨item, itemMem, key, colMade, keyMade, _⟩
  rw [(column_and_key_of_item families reads itemMem colMade keyMade).1]
  exact families.threeWay _

variable [DecidableEq EC]

theorem represents_zip
    (contained : (skylinePathkeysContainedIn (canonicalizePathkeys root rawKeys) keys).1 = true) :
    Represents root keys (cols.zip (rawKeys.map root.canonicalPathkey)) := by
  have subset := (skylinePathkeysContainedIn_fst_iff _ _).mp contained
  have sameLength := (zip_of_mapM_eq_ok colsMade keysMade).1
  have seconds : (cols.zip (rawKeys.map root.canonicalPathkey)).map Prod.snd =
      rawKeys.map root.canonicalPathkey := by
    apply List.map_snd_zip
    rw [List.length_map, sameLength]
  intro entry entryMem
  have keyMem : entry.2 ∈ rawKeys.map root.canonicalPathkey := by
    rw [← seconds]
    exact List.mem_map_of_mem entryMem
  rcases List.mem_map.mp keyMem with ⟨raw, rawMem, rawEq⟩
  rcases @redundant_or_mem_canonicalizePathkeys E EC _ root _ _ rawMem with
    redundant | ⟨key, keyMem, same⟩
  · rw [rawEq] at redundant
    exact Or.inl redundant
  · right
    rcases exists_of_mem_canonicalizePathkeys keyMem with ⟨other, otherMem, otherEq⟩
    have isSecond : key ∈ (cols.zip (rawKeys.map root.canonicalPathkey)).map Prod.snd := by
      rw [seconds, otherEq]
      exact List.mem_map_of_mem otherMem
    rcases List.mem_map.mp isSecond with ⟨found, foundMem, foundEq⟩
    refine ⟨found, foundMem, ?_, ?_⟩
    · rw [foundEq]
      exact subset keyMem
    · rw [foundEq, same, rawEq]

end Planned

/-! ## Two columns -/

section TwoColumns

variable {order : Oid → D → D → Int} {root : PlannerInfo E EC} {keys : List (PathKey EC)}
  {slotGetattr : (EC → Option D) → Nat → Option D}
  {entries : List (SkylineCol D × PathKey EC)} {first second : SkylineCol D × PathKey EC}

/-- Among distinct members one comes before all others with the property. -/
theorem exists_leading {A : Type} {p : A → Prop} {items : List A} (nodup : items.Nodup)
    (some : ∃ a ∈ items, p a) :
    ∃ a ∈ items, p a ∧ ∀ before b after, items = before ++ b :: after → p b → a ∉ after := by
  induction items with
  | nil => simp at some
  | cons head tail ih =>
      rcases List.nodup_cons.mp nodup with ⟨headNotMem, tailNodup⟩
      by_cases atHead : p head
      · refine ⟨head, List.mem_cons_self, atHead, ?_⟩
        intro before b after split _ mem
        cases before with
        | nil =>
            cases split
            exact headNotMem mem
        | cons _ before =>
            cases split
            exact headNotMem (List.mem_append_right _ (List.mem_cons_of_mem _ mem))
      · have inTail : ∃ a ∈ tail, p a := by
          rcases some with ⟨a, mem, holds⟩
          rcases List.mem_cons.mp mem with rfl | tailMem
          · exact absurd holds atHead
          · exact ⟨a, tailMem, holds⟩
        rcases ih tailNodup inTail with ⟨a, mem, holds, leads⟩
        refine ⟨a, List.mem_cons_of_mem _ mem, holds, ?_⟩
        intro before b after split holdsB
        cases before with
        | nil =>
            cases split
            exact absurd holdsB atHead
        | cons _ before =>
            cases split
            exact leads before b after rfl holdsB

/-- If the key of the first column comes before all keys on the class of the second,
rows in the order of the path are in the order of the two columns. -/
theorem lexCompare_nonpos_of_leading (keyed : Keyed order slotGetattr entries)
    (lawful : ∀ opfamily, ThreeWay (order opfamily)) (canonical : root.Canonical keys)
    (represents : Represents root keys entries) (lead : RankedKeysLead order entries keys)
    (mem_iff : ∀ entry, entry ∈ entries ↔ entry = first ∨ entry = second)
    (ordinary : ∀ entry ∈ entries, entry.1.skylineOfDir ≠ .diff) (firstKey : first.2 ∈ keys)
    (leading : ∀ before key after, keys = before ++ key :: after →
      OnSkylineClass entries key.pkEclass → first.2 ∉ after)
    (ranked : first.2.pkEclass = second.2.pkEclass → Ranked order entries first.2.pkEclass)
    {x y : EC → Option D}
    (agree : ∀ eclass, root.ecMustBeRedundant eclass = true → x eclass = y eclass)
    (inOrder : comparePathkeys order keys x y ≤ 0) :
    lexCompare slotGetattr [first.1, second.1] x y ≤ 0 := by
  have firstMem := (mem_iff first).mpr (Or.inl rfl)
  have secondMem := (mem_iff second).mpr (Or.inr rfl)
  rw [lexCompare_pair_nonpos_iff, keyed.compare first firstMem, keyed.compare second secondMem]
  by_cases equal : first.2.compare order x y = 0
  · refine Or.inr ⟨equal, ?_⟩
    by_contra greater
    have apart : second.2.pkEclass ≠ first.2.pkEclass := by
      intro same
      have secondEqual := keyed.sameEquality first firstMem second secondMem same.symm _ _ equal
      rw [← same] at secondEqual
      unfold PathKey.compare at greater
      omega
    have secondRanked : Ranked order entries second.2.pkEclass := by
      apply ranked_of_single lawful secondMem _ (ordinary second secondMem)
        (u := x second.2.pkEclass) (v := y second.2.pkEclass)
      · unfold PathKey.compare at greater
        omega
      · intro other otherMem same
        rcases (mem_iff other).mp otherMem with rfl | rfl
        · exact absurd same.symm apart
        · rfl
    rcases exists_first_skyline_key keyed lawful canonical represents lead agree inOrder secondMem
      (by omega) secondRanked with ⟨_, key, _, found, _, _, less, foundMem, rfl⟩
    rcases (mem_iff found).mp foundMem with rfl | rfl <;> omega
  · left
    have firstRanked : Ranked order entries first.2.pkEclass := by
      by_cases same : first.2.pkEclass = second.2.pkEclass
      · exact ranked same
      · apply ranked_of_single lawful firstMem _ (ordinary first firstMem) equal
        intro other otherMem onClass
        rcases (mem_iff other).mp otherMem with rfl | rfl
        · rfl
        · exact absurd onClass.symm same
    rcases exists_first_skyline_key keyed lawful canonical represents lead agree inOrder firstMem
      equal firstRanked with ⟨before, key, after, found, rfl, beforeEqual, less, foundMem, foundKey⟩
    rcases List.mem_append.mp firstKey with inBefore | behind
    · exact absurd (beforeEqual first.2 inBefore) equal
    · rcases List.mem_cons.mp behind with same | inAfter
      · rw [same]
        exact less
      · exact absurd inAfter (leading before key after rfl ⟨found, foundMem, by rw [foundKey]⟩)

/-- In the order of two ordinary columns the last result stands for all earlier ones,
whichever of the two is first in the clause. -/
theorem relays_of_lexCompare (lawfulCols : LawfulCols (entries.map Prod.fst))
    (mem_iff : ∀ entry, entry ∈ entries ↔ entry = first ∨ entry = second)
    (ordinary : ∀ entry ∈ entries, entry.1.skylineOfDir ≠ .diff) (input : List (EC → Option D)) :
    Relays (Beats slotGetattr (entries.map Prod.fst) false)
      (fun x y => lexCompare slotGetattr [first.1, second.1] x y ≤ 0) input := by
  have subset : entries.map Prod.fst ⊆ [first.1, second.1] := by
    intro col colMem
    rcases List.mem_map.mp colMem with ⟨entry, entryMem, rfl⟩
    rcases (mem_iff entry).mp entryMem with rfl | rfl <;> simp
  have superset : [first.1, second.1] ⊆ entries.map Prod.fst := by
    intro col colMem
    simp only [List.mem_cons, List.not_mem_nil, or_false] at colMem
    rcases colMem with rfl | rfl
    · exact List.mem_map_of_mem ((mem_iff first).mpr (Or.inl rfl))
    · exact List.mem_map_of_mem ((mem_iff second).mpr (Or.inr rfl))
  have sameBeats : Beats slotGetattr (entries.map Prod.fst) false =
      Beats slotGetattr [first.1, second.1] false := by
    funext x y
    exact propext (beats_congr_of_subset subset superset false x y)
  rw [sameBeats]
  apply Presort.relays_of_sorted
  · exact fun col colMem => lawfulCols col (superset colMem)
  · exact Nat.le_refl 2
  · rintro col1 col2 cols _ isDiff
    cases cols
    exact absurd isDiff (ordinary second ((mem_iff second).mpr (Or.inr rfl)))

/-- Without a key on a skyline class all of them contain a constant. -/
theorem compare_eq_zero_of_no_key (keyed : Keyed order slotGetattr entries)
    (lawful : ∀ opfamily, ThreeWay (order opfamily)) (represents : Represents root keys entries)
    (noKey : ¬ ∃ key ∈ keys, OnSkylineClass entries key.pkEclass)
    {input : List (EC → Option D)} (agree : ConstantsAgree root input)
    {entry : SkylineCol D × PathKey EC} (entryMem : entry ∈ entries) {x y : EC → Option D}
    (xMem : x ∈ input) (yMem : y ∈ input) : entry.1.compare slotGetattr x y = 0 := by
  rcases represents entry entryMem with redundant | ⟨other, otherMem, otherKey, _⟩
  · rw [keyed.compare entry entryMem]
    exact PathKey.compare_of_eq lawful (agree x xMem y yMem _ redundant)
  · exact absurd ⟨other.2, otherKey, other, otherMem, rfl⟩ noKey

/-- Columns of one class that contradict each other leave no row to dominate another. -/
theorem not_beats_of_not_ranked (keyed : Keyed order slotGetattr entries)
    (lawful : ∀ opfamily, ThreeWay (order opfamily)) {eclass : EC}
    (onClass : ∀ entry ∈ entries, entry.2.pkEclass = eclass)
    (notRanked : ¬ Ranked order entries eclass) (x y : EC → Option D) :
    ¬ Beats slotGetattr (entries.map Prod.fst) false x y := by
  intro beats
  rw [beats_false_iff, dominates_iff_noWorse_and_exists] at beats
  rcases beats with ⟨noWorse, col, colMem, less⟩
  rcases List.mem_map.mp colMem with ⟨entry, entryMem, rfl⟩
  rw [keyed.compare entry entryMem] at less
  have isRanked := keyed.ranked_of_noWorse lawful noWorse entryMem (Int.ne_of_lt less)
  rw [onClass entry entryMem] at isRanked
  exact notRanked isRanked

/-- The presorted method finds the rows of a path in an order it can work with. -/
theorem exists_relaying_order (keyed : Keyed order slotGetattr entries)
    (lawfulCols : LawfulCols (entries.map Prod.fst))
    (lawful : ∀ opfamily, ThreeWay (order opfamily)) (canonical : root.Canonical keys)
    (represents : Represents root keys entries) (lead : RankedKeysLead order entries keys)
    (two : entries.length = 2) (ordinary : ∀ entry ∈ entries, entry.1.skylineOfDir ≠ .diff)
    {input : List (EC → Option D)} (agree : ConstantsAgree root input)
    (sorted : SortedByPathkeys order keys input) :
    ∃ before : (EC → Option D) → (EC → Option D) → Prop,
      Relays (Beats slotGetattr (entries.map Prod.fst) false) before input ∧
        input.Pairwise before := by
  rcases List.length_eq_two.mp two with ⟨first, second, entriesEq⟩
  have mem_iff : ∀ entry, entry ∈ entries ↔ entry = first ∨ entry = second := by
    intro entry
    simp [entriesEq]
  have mem_iff' : ∀ entry, entry ∈ entries ↔ entry = second ∨ entry = first :=
    fun entry => (mem_iff entry).trans or_comm
  by_cases ranked : first.2.pkEclass = second.2.pkEclass → Ranked order entries first.2.pkEclass
  · by_cases some : ∃ key ∈ keys, OnSkylineClass entries key.pkEclass
    · rcases exists_leading (List.Nodup.of_map _ canonical.nodup) some with
        ⟨key, keyMem, onClass, leading⟩
      rcases exists_entry_of_onSkylineClass canonical represents keyMem onClass with
        ⟨entry, entryMem, rfl⟩
      rcases (mem_iff entry).mp entryMem with rfl | rfl
      · refine ⟨_, relays_of_lexCompare lawfulCols mem_iff ordinary input, ?_⟩
        apply List.Pairwise.imp_of_mem _ sorted
        intro x y xMem yMem inOrder
        exact lexCompare_nonpos_of_leading keyed lawful canonical represents lead mem_iff ordinary
          keyMem leading ranked (agree x xMem y yMem) inOrder
      · refine ⟨_, relays_of_lexCompare lawfulCols mem_iff' ordinary input, ?_⟩
        apply List.Pairwise.imp_of_mem _ sorted
        intro x y xMem yMem inOrder
        apply lexCompare_nonpos_of_leading keyed lawful canonical represents lead mem_iff' ordinary
          keyMem leading _ (agree x xMem y yMem) inOrder
        intro same
        rw [same]
        exact ranked same.symm
    · -- Both classes contain a constant.
      have equal : ∀ entry ∈ entries, ∀ x ∈ input, ∀ y ∈ input,
          entry.1.compare slotGetattr x y = 0 :=
        fun _ entryMem _ xMem _ yMem =>
          compare_eq_zero_of_no_key keyed lawful represents some agree entryMem xMem yMem
      refine ⟨_, relays_of_lexCompare lawfulCols mem_iff ordinary input, ?_⟩
      apply List.Pairwise.imp_of_mem _ sorted
      intro x y xMem yMem _
      rw [lexCompare_pair_nonpos_iff]
      exact Or.inr ⟨equal first ((mem_iff first).mpr (Or.inl rfl)) x xMem y yMem,
        Int.le_of_eq (equal second ((mem_iff second).mpr (Or.inr rfl)) x xMem y yMem)⟩
  · -- The two columns of the class contradict each other: no row dominates another.
    rcases Classical.not_imp.mp ranked with ⟨same, notRanked⟩
    refine ⟨fun _ _ => True, ?_, List.pairwise_of_forall fun _ _ => trivial⟩
    have onClass : ∀ entry ∈ entries, entry.2.pkEclass = first.2.pkEclass := by
      intro entry entryMem
      rcases (mem_iff entry).mp entryMem with rfl | rfl
      · rfl
      · exact same.symm
    intro _ _ y _ _ _ _ _ x _ _ _ beats
    exact absurd beats (not_beats_of_not_ranked keyed lawful onClass notRanked x y)

end TwoColumns

/-! ## The exact condition -/

variable [DecidableEq EC] [LE R] [DecidableLE R] [LT R] [DecidableLT R]

/-- A path that `skyline_pathkeys_contained_in` accepts is a valid input exactly if its
keys on ranked classes lead. -/
theorem skylinePathkeysContainedIn_sound_iff (env : ExecEnv (EC → Option D) D R)
    (catalog : Catalog D) (order : Oid → D → D → Int) (families : FamilyOrders catalog order)
    (root : PlannerInfo E EC) (lawful : root.Lawful order) (tlist : List (TargetEntry E))
    (items : List SkylineOf) (reads : ReadsClasses catalog root tlist items env.slotGetattr)
    (cols : List (SkylineCol D)) (colsMade : makeSkylineCols catalog tlist items = .ok cols)
    (rawKeys : List (PathKey EC))
    (keysMade : makePathkeysForSkylineclause catalog root tlist items = .ok rawKeys)
    (keys2 : List (PathKey EC)) (canonical : root.Canonical keys2)
    (contained : (skylinePathkeysContainedIn (canonicalizePathkeys root rawKeys) keys2).1 = true) :
    (∀ input, ConstantsAgree root input → SortedByPathkeys order keys2 input →
      NoLaterDominates env.slotGetattr cols input ∧
        ∀ (node : Skyline D) (drawn : Nat) (state : SkylineState (EC → Option D) R),
          node.cols = cols → cols.length = 2 → (∀ col ∈ cols, col.skylineOfDir ≠ .diff) →
          node.skylineDistinct = false → node.skylineMethod = .twoDimPresort →
          execInitSkyline env node (OuterPlan.init input) drawn = .ok state →
          ∃ out last, Drains (execSkyline env node) state out last ∧ last.status = .done ∧
            IsSkyline env.slotGetattr cols false input out) ↔
      RankedKeysLead order (cols.zip (rawKeys.map root.canonicalPathkey)) keys2 := by
  have keyed := keyed_zip colsMade keysMade families lawful reads
  have represents := represents_zip colsMade keysMade contained
  have lawfulCols := lawfulCols_of_made colsMade keysMade families reads
  have firsts := @map_fst_zip_canonical E D EC catalog root tlist items cols rawKeys colsMade
    keysMade
  constructor
  · intro sound
    apply rankedKeysLead_of_noLaterDominates keyed families.threeWay canonical
    intro input agree sorted
    rw [firsts]
    exact (sound input agree sorted).1
  · intro lead input agree sorted
    have inOrder := noLaterDominates_of_rankedKeysLead keyed families.threeWay canonical represents
      lead agree sorted
    rw [firsts] at inOrder
    refine ⟨inOrder, ?_⟩
    rintro node drawn state rfl two ordinary distinct method init
    have unwindowed : ¬ node.skylineMethod.IsWindowed := by simp [SkylineMethod.IsWindowed, method]
    have start := (atStart_of_init unwindowed init).1
    rcases presort_drains lawfulCols method inOrder start with ⟨last, drains, done⟩
    have entriesTwo : (node.cols.zip (rawKeys.map root.canonicalPathkey)).length = 2 := by
      rw [← two, ← congrArg List.length firsts, List.length_map]
    have entriesOrdinary : ∀ entry ∈ node.cols.zip (rawKeys.map root.canonicalPathkey),
        entry.1.skylineOfDir ≠ .diff := by
      intro entry entryMem
      apply ordinary
      rw [← firsts]
      exact List.mem_map_of_mem entryMem
    rcases exists_relaying_order keyed (by rwa [firsts]) families.threeWay canonical represents lead
      entriesTwo entriesOrdinary agree sorted with ⟨before, relays, ordered⟩
    rw [firsts, ← distinct] at relays
    have sieved := Presort.sieved_lastKept lawfulCols inOrder relays ordered
    refine ⟨_, last, drains, done, ?_⟩
    rw [← distinct]
    exact sieved.isSkyline lawfulCols

/-! ## Rows of three columns -/

/-- Each column is a class of its own. -/
def columnInfo : PlannerInfo Nat (Nat × List Oid) where
  getEclassForSortExpr column _ opfamilies := (column, opfamilies)
  ecMerged eclass := eclass
  ecOpfamilies eclass := eclass.2
  ecHasConst _ := false
  ecBelowOuterJoin _ := false

theorem columnInfo_lawful : columnInfo.Lawful fun _ => intCompare :=
  ⟨fun _ _ _ => rfl, fun _ _ _ _ _ _ _ equal => equal⟩

theorem familyOrders_integerCatalog : FamilyOrders integerCatalog fun _ => intCompare where
  proc opfamily opcintype cmpfunc found := by
    simp only [integerCatalog] at found
    split at found
    · exact (Option.some.inj found).symm
    · cases found
  threeWay _ := threeWay_intCompare
  mergejoin opfamily opcintype equalityOp found := by
    simp only [integerCatalog] at found
    split at found
    · rename_i isInteger
      cases found
      simp [integerCatalog, isInteger.1]
    · cases found

/-- A server that reads the attributes of such rows. -/
def columnEnv : ExecEnv (Nat × List Oid → Option Int) Int Int where
  slotGetattr row attnum := row (attnum, [1976])
  space := ⟨fun _ => 72, 48, fun size => 8 * size⟩
  negDblMax := -1000000
  rank _ _ := 0
  random drawn := drawn
  workMem := 1024
  typbyval _ := true
  assertChecking := true

/-- `SELECT a, b, f … SKYLINE OF a MIN, b MIN`. -/
def targetsABF : List (TargetEntry Nat) :=
  [⟨1, 1, some "a", 1, false⟩, ⟨2, 2, some "b", 2, false⟩, ⟨3, 3, some "f", 0, false⟩]

def minAB : List SkylineOf :=
  [⟨1, 23, 97, false, .min⟩, ⟨2, 23, 97, false, .min⟩]

/-- An ascending path key on a column. -/
def ascending (column : Nat) : PathKey (Nat × List Oid) :=
  ⟨(column, [1976]), 1976, .less, false⟩

/-- A row with these values of `a`, `b` and `f`. -/
def rowABF (a b f : Int) (eclass : Nat × List Oid) : Option Int :=
  if eclass.1 = 1 then some a else if eclass.1 = 2 then some b else some f

theorem readsClasses_minAB :
    ReadsClasses integerCatalog columnInfo targetsABF minAB columnEnv.slotGetattr := by
  intro item itemMem tle key found made row
  simp only [minAB, List.mem_cons, List.not_mem_nil, or_false] at itemMem
  rcases itemMem with rfl | rfl
  · cases found
    cases made
    rfl
  · cases found
    cases made
    rfl

/-- An index on `(b, a, f)` serves `SKYLINE OF a MIN, b MIN`. -/
theorem skylinePathkeysContainedIn_sound_iff_reordered :
    ∃ cols rawKeys,
      makeSkylineCols integerCatalog targetsABF minAB = .ok cols ∧
      makePathkeysForSkylineclause integerCatalog columnInfo targetsABF minAB = .ok rawKeys ∧
      (skylinePathkeysContainedIn (canonicalizePathkeys columnInfo rawKeys)
        [ascending 2, ascending 1, ascending 3]).1 = true ∧
      ((∀ input, ConstantsAgree columnInfo input →
        SortedByPathkeys (fun _ => intCompare) [ascending 2, ascending 1, ascending 3] input →
          NoLaterDominates columnEnv.slotGetattr cols input ∧
            ∀ (node : Skyline Int) (drawn : Nat)
              (state : SkylineState (Nat × List Oid → Option Int) Int),
              node.cols = cols → cols.length = 2 → (∀ col ∈ cols, col.skylineOfDir ≠ .diff) →
              node.skylineDistinct = false → node.skylineMethod = .twoDimPresort →
              execInitSkyline columnEnv node (OuterPlan.init input) drawn = .ok state →
              ∃ out last, Drains (execSkyline columnEnv node) state out last ∧
                last.status = .done ∧ IsSkyline columnEnv.slotGetattr cols false input out) ↔
        RankedKeysLead (fun _ => intCompare) (cols.zip (rawKeys.map columnInfo.canonicalPathkey))
          [ascending 2, ascending 1, ascending 3]) :=
  ⟨_, _, rfl, rfl, by decide, skylinePathkeysContainedIn_sound_iff columnEnv integerCatalog
    (fun _ => intCompare) familyOrders_integerCatalog columnInfo columnInfo_lawful targetsABF minAB
    readsClasses_minAB _ rfl _ rfl _ ⟨by decide, by decide⟩ (by decide)⟩

/-- An index on `(f, a, b)` is taken for `SKYLINE OF a MIN, b MIN` as well: the second
row dominates the first, and the presorted method drops it. -/
theorem skylinePathkeysContainedIn_foreignFirst_fails :
    let keys2 := [ascending 3, ascending 1, ascending 2]
    let input := [rowABF 2 2 1, rowABF 1 1 2]
    ∃ cols rawKeys,
      makeSkylineCols integerCatalog targetsABF minAB = .ok cols ∧
      makePathkeysForSkylineclause integerCatalog columnInfo targetsABF minAB = .ok rawKeys ∧
      columnInfo.Canonical keys2 ∧
      (skylinePathkeysContainedIn (canonicalizePathkeys columnInfo rawKeys) keys2).1 = true ∧
      ConstantsAgree columnInfo input ∧ SortedByPathkeys (fun _ => intCompare) keys2 input ∧
      ¬ NoLaterDominates columnEnv.slotGetattr cols input ∧
      ∃ state, execInitSkyline columnEnv ⟨cols, false, [], .twoDimPresort, false⟩
          (OuterPlan.init input) 0 = .ok state ∧
        ¬ ∃ out last,
          Drains (execSkyline columnEnv ⟨cols, false, [], .twoDimPresort, false⟩) state out last ∧
            last.status = .done ∧ IsSkyline columnEnv.slotGetattr cols false input out := by
  intro keys2 input
  let node : Skyline Int := ⟨[⟨1, intCompare, ⟨false, false⟩, .min⟩,
    ⟨2, intCompare, ⟨false, false⟩, .min⟩], false, [], .twoDimPresort, false⟩
  have drains : ∃ last, Drains (execSkyline columnEnv node)
      { makeSkylineState .append (OuterPlan.init input) 0 with windowsize := -1, windowslots := -1 }
      [rowABF 2 2 1] last :=
    ⟨_, .emit rfl (.again rfl (.finished rfl))⟩
  refine ⟨node.cols, _, rfl, rfl, ⟨by decide, by decide⟩, by decide, ?_,
    List.pairwise_pair.mpr (by decide), ?_, _, rfl, ?_⟩
  · intro _ _ _ _ eclass redundant
    cases redundant
  · intro inOrder
    exact List.pairwise_pair.mp inOrder (by decide)
  · rintro ⟨out, last, drains', _, skyline⟩
    rcases drains with ⟨_, drains⟩
    rw [(drains'.unique drains).1] at skyline
    have undominated := skyline.undominated (x := rowABF 2 2 1) (by simp)
    exact undominated (rowABF 1 1 2) (by simp [input]) (by decide)

end PgSkyline
