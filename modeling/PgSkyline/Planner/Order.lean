import PgSkyline.Dominance.Lexicographic
import PgSkyline.Dominance.Columns
import PgSkyline.Planner.Pathkeys

/-!
# The order of a path and the dominance order

A path delivers rows sorted lexicographically by its path keys.  A row is given by
the values of the equivalence classes, and a skyline column reads the value of its
class.  This module compares the order of a canonical list of path keys with
dominance: what matters is which keys come before those on classes whose values
the clause ranks.
-/

namespace PgSkyline

open Comparison

variable {D EC : Type}

/-! ## The order of a path -/

/-- The comparison of two values of the class of a path key. -/
def PathKey.compareValues (order : Oid → D → D → Int) (key : PathKey EC) :
    Option D → Option D → Int :=
  inlineApplyCompareFunction (order key.pkOpfamily)
    ⟨key.pkStrategy == .greater, key.pkNullsFirst⟩

/-- The comparison of two rows under a path key. -/
def PathKey.compare (order : Oid → D → D → Int) (key : PathKey EC) (x y : EC → Option D) : Int :=
  key.compareValues order (x key.pkEclass) (y key.pkEclass)

/-- The comparison of two rows under a list of path keys. -/
def comparePathkeys (order : Oid → D → D → Int) (keys : List (PathKey EC)) :
    (EC → Option D) → (EC → Option D) → Int :=
  lexicographic (keys.map fun key => key.compare order)

/-- The rows come in the order of a path with these path keys. -/
def SortedByPathkeys (order : Oid → D → D → Int) (keys : List (PathKey EC))
    (input : List (EC → Option D)) : Prop :=
  input.Pairwise fun x y => comparePathkeys order keys x y ≤ 0

/-- The rows have one value of each class that contains a constant. -/
def ConstantsAgree {E : Type} (root : PlannerInfo E EC) (input : List (EC → Option D)) : Prop :=
  ∀ x ∈ input, ∀ y ∈ input, ∀ eclass, root.ecMustBeRedundant eclass = true → x eclass = y eclass

variable {order : Oid → D → D → Int}

theorem PathKey.compareValues_threeWay (lawful : ∀ opfamily, ThreeWay (order opfamily))
    (key : PathKey EC) : ThreeWay (key.compareValues order) :=
  threeWay_inlineApply (lawful key.pkOpfamily) _

theorem PathKey.compare_of_eq {key : PathKey EC} {x y : EC → Option D}
    (lawful : ∀ opfamily, ThreeWay (order opfamily)) (equal : x key.pkEclass = y key.pkEclass) :
    key.compare order x y = 0 := by
  rw [PathKey.compare, equal]
  exact (key.compareValues_threeWay lawful).self _

theorem PathKey.compare_threeWay (lawful : ∀ opfamily, ThreeWay (order opfamily))
    (key : PathKey EC) : ThreeWay (key.compare order) where
  neg_iff_pos _ _ := (key.compareValues_threeWay lawful).neg_iff_pos _ _
  trans _ _ _ := (key.compareValues_threeWay lawful).trans _ _ _

/-- The first key that tells two rows in order apart puts them in order. -/
theorem exists_first_key {keys : List (PathKey EC)} {x y : EC → Option D}
    (inOrder : comparePathkeys order keys x y ≤ 0)
    (apart : ∃ key ∈ keys, key.compare order x y ≠ 0) :
    ∃ before key after, keys = before ++ key :: after ∧
      (∀ other ∈ before, other.compare order x y = 0) ∧ key.compare order x y < 0 := by
  rcases apart with ⟨key, keyMem, keyApart⟩
  rcases exists_first_difference ⟨_, List.mem_map_of_mem keyMem, keyApart⟩ with
    ⟨before, f, after, split, equal, fApart, decides⟩
  rcases List.map_eq_append_iff.mp split with ⟨keysBefore, rest, rfl, rfl, restEq⟩
  rcases List.map_eq_cons_iff.mp restEq with ⟨first, keysAfter, rfl, rfl, _⟩
  refine ⟨keysBefore, first, keysAfter, rfl, ?_, ?_⟩
  · intro other otherMem
    exact equal _ (List.mem_map_of_mem otherMem)
  · rw [comparePathkeys, decides] at inOrder
    omega

/-! ## Columns with path keys -/

/-- The columns of a clause, each with its canonical path key: a column compares rows
as its key does, and keys on one class agree on what is equal. -/
structure Keyed (order : Oid → D → D → Int) (slotGetattr : (EC → Option D) → Nat → Option D)
    (entries : List (SkylineCol D × PathKey EC)) : Prop where
  compare : ∀ entry ∈ entries, ∀ x y,
    entry.1.compare slotGetattr x y = entry.2.compare order x y
  sameEquality : ∀ entry ∈ entries, ∀ other ∈ entries, entry.2.pkEclass = other.2.pkEclass →
    ∀ u v, entry.2.compareValues order u v = 0 → other.2.compareValues order u v = 0

section Classes

variable (order) (entries : List (SkylineCol D × PathKey EC))

/-- Some skyline column belongs to the class. -/
def OnSkylineClass (eclass : EC) : Prop :=
  ∃ entry ∈ entries, entry.2.pkEclass = eclass

/-- On the columns of the class the value `u` is no worse than `v`. -/
def ClassNoWorse (eclass : EC) (u v : Option D) : Prop :=
  ∀ entry ∈ entries, entry.2.pkEclass = eclass →
    (entry.1.skylineOfDir = .diff → entry.2.compareValues order u v = 0) ∧
      entry.2.compareValues order u v ≤ 0

/-- The clause ranks the values of the class: some value is better than another. -/
def Ranked (eclass : EC) : Prop :=
  ∃ u v, ClassNoWorse order entries eclass u v ∧ ¬ ClassNoWorse order entries eclass v u

/-- In the order of the path no key on a class without skyline columns precedes a key
on a class whose values the clause ranks. -/
def RankedKeysLead (keys : List (PathKey EC)) : Prop :=
  keys.Pairwise fun earlier later =>
    OnSkylineClass entries earlier.pkEclass ∨ ¬ Ranked order entries later.pkEclass

end Classes

variable {entries : List (SkylineCol D × PathKey EC)}

theorem Ranked.onSkylineClass {eclass : EC} (ranked : Ranked order entries eclass) :
    OnSkylineClass entries eclass := by
  rcases ranked with ⟨u, v, _, notNoWorse⟩
  by_contra foreign
  apply notNoWorse
  intro entry entryMem same
  exact absurd ⟨entry, entryMem, same⟩ foreign

/-- The only column of a class ranks its values, if it is not a DIFF column and tells
some apart. -/
theorem ranked_of_single (lawful : ∀ opfamily, ThreeWay (order opfamily))
    {entry : SkylineCol D × PathKey EC} (entryMem : entry ∈ entries)
    (single : ∀ other ∈ entries, other.2.pkEclass = entry.2.pkEclass → other = entry)
    (ordinary : entry.1.skylineOfDir ≠ .diff) {u v : Option D}
    (apart : entry.2.compareValues order u v ≠ 0) : Ranked order entries entry.2.pkEclass := by
  have ranks : ∀ u v, entry.2.compareValues order u v < 0 →
      Ranked order entries entry.2.pkEclass := by
    intro u v less
    refine ⟨u, v, ?_, ?_⟩
    · intro other otherMem same
      rw [single other otherMem same]
      exact ⟨fun diff => absurd diff ordinary, Int.le_of_lt less⟩
    · intro reverse
      have backward := (reverse entry entryMem rfl).2
      have swapped := (entry.2.compareValues_threeWay lawful).swap u v
      omega
  by_cases less : entry.2.compareValues order u v < 0
  · exact ranks u v less
  · have swapped := (entry.2.compareValues_threeWay lawful).swap u v
    exact ranks v u (by omega)

namespace Keyed

variable {slotGetattr : (EC → Option D) → Nat → Option D}

/-- A row is no worse than another if it is on every class. -/
theorem noWorse_iff (keyed : Keyed order slotGetattr entries) (x y : EC → Option D) :
    NoWorse slotGetattr (entries.map Prod.fst) x y ↔
      ∀ eclass, ClassNoWorse order entries eclass (x eclass) (y eclass) := by
  constructor
  · rintro noWorse eclass entry entryMem rfl
    have colNoWorse := noWorse entry.1 (List.mem_map_of_mem entryMem)
    rwa [keyed.compare entry entryMem] at colNoWorse
  · intro classes col colMem
    rcases List.mem_map.mp colMem with ⟨entry, entryMem, rfl⟩
    rw [keyed.compare entry entryMem]
    exact classes entry.2.pkEclass entry entryMem rfl

/-- Where a row that is no worse differs, the class is ranked. -/
theorem ranked_of_noWorse (keyed : Keyed order slotGetattr entries)
    (lawful : ∀ opfamily, ThreeWay (order opfamily)) {x y : EC → Option D}
    (noWorse : NoWorse slotGetattr (entries.map Prod.fst) x y)
    {entry : SkylineCol D × PathKey EC} (entryMem : entry ∈ entries)
    (apart : entry.2.compare order x y ≠ 0) : Ranked order entries entry.2.pkEclass := by
  have classNoWorse := (keyed.noWorse_iff x y).mp noWorse entry.2.pkEclass
  refine ⟨x entry.2.pkEclass, y entry.2.pkEclass, classNoWorse, fun reverse => ?_⟩
  have forward := (classNoWorse entry entryMem rfl).2
  have backward := (reverse entry entryMem rfl).2
  have swapped := (entry.2.compare_threeWay lawful).swap x y
  unfold PathKey.compare at apart swapped
  omega

end Keyed

/-! ## Skyline keys in the order of a path -/

/-- Each class of a skyline column has a skyline key among `keys`, unless it contains
a constant. -/
def Represents {E : Type} (root : PlannerInfo E EC) (keys : List (PathKey EC))
    (entries : List (SkylineCol D × PathKey EC)) : Prop :=
  ∀ entry ∈ entries, root.ecMustBeRedundant entry.2.pkEclass = true ∨
    ∃ other ∈ entries, other.2 ∈ keys ∧ other.2.pkEclass = entry.2.pkEclass

section Represented

variable {E : Type} {root : PlannerInfo E EC} {keys : List (PathKey EC)}
  {slotGetattr : (EC → Option D) → Nat → Option D}

/-- A key on the class of a skyline column is the key of one. -/
theorem exists_entry_of_onSkylineClass (canonical : root.Canonical keys)
    (represents : Represents root keys entries) {key : PathKey EC} (keyMem : key ∈ keys)
    (onClass : OnSkylineClass entries key.pkEclass) : ∃ entry ∈ entries, entry.2 = key := by
  rcases onClass with ⟨entry, entryMem, same⟩
  rcases represents entry entryMem with redundant | ⟨other, otherMem, otherKey, sameOther⟩
  · rw [same, canonical.not_redundant key keyMem] at redundant
    cases redundant
  · exact ⟨other, otherMem, canonical.eq_of_pkEclass otherKey keyMem (sameOther.trans same)⟩

/-- Two rows in order that differ on a ranked class differ first on a skyline key. -/
theorem exists_first_skyline_key (keyed : Keyed order slotGetattr entries)
    (lawful : ∀ opfamily, ThreeWay (order opfamily)) (canonical : root.Canonical keys)
    (represents : Represents root keys entries) (lead : RankedKeysLead order entries keys)
    {x y : EC → Option D}
    (agree : ∀ eclass, root.ecMustBeRedundant eclass = true → x eclass = y eclass)
    (inOrder : comparePathkeys order keys x y ≤ 0) {entry : SkylineCol D × PathKey EC}
    (entryMem : entry ∈ entries) (apart : entry.2.compare order x y ≠ 0)
    (ranked : Ranked order entries entry.2.pkEclass) :
    ∃ before key after first, keys = before ++ key :: after ∧
      (∀ other ∈ before, other.compare order x y = 0) ∧ key.compare order x y < 0 ∧
      first ∈ entries ∧ first.2 = key := by
  rcases represents entry entryMem with redundant | ⟨other, otherMem, otherKey, same⟩
  · exact absurd (PathKey.compare_of_eq lawful (agree _ redundant)) apart
  · have otherApart : other.2.compare order x y ≠ 0 := by
      intro equal
      apply apart
      have sameEqual := keyed.sameEquality other otherMem entry entryMem same _ _ equal
      rwa [same] at sameEqual
    rcases exists_first_key inOrder ⟨other.2, otherKey, otherApart⟩ with
      ⟨before, key, after, rfl, equal, less⟩
    have onClass : OnSkylineClass entries key.pkEclass := by
      rcases List.mem_append.mp otherKey with inBefore | behind
      · exact absurd (equal other.2 inBefore) otherApart
      · rcases List.mem_cons.mp behind with rfl | inAfter
        · exact ⟨other, otherMem, rfl⟩
        · have ordered := (List.pairwise_cons.mp (List.pairwise_append.mp lead).2.1).1 _ inAfter
          rcases ordered with onClass | notRanked
          · exact onClass
          · rw [same] at notRanked
            exact absurd ranked notRanked
    rcases exists_entry_of_onSkylineClass canonical represents (by simp) onClass with
      ⟨first, firstMem, firstKey⟩
    exact ⟨before, key, after, first, rfl, equal, less, firstMem, firstKey⟩

/-- If the keys on ranked classes lead, no row of a sorted input dominates an earlier
one. -/
theorem noLaterDominates_of_rankedKeysLead (keyed : Keyed order slotGetattr entries)
    (lawful : ∀ opfamily, ThreeWay (order opfamily)) (canonical : root.Canonical keys)
    (represents : Represents root keys entries) (lead : RankedKeysLead order entries keys)
    {input : List (EC → Option D)} (agree : ConstantsAgree root input)
    (sorted : SortedByPathkeys order keys input) :
    NoLaterDominates slotGetattr (entries.map Prod.fst) input := by
  apply List.Pairwise.imp_of_mem _ sorted
  intro x y xMem yMem inOrder dominates
  rcases (dominates_iff_noWorse_and_exists slotGetattr _ y x).mp dominates with
    ⟨noWorse, col, colMem, less⟩
  rcases List.mem_map.mp colMem with ⟨entry, entryMem, rfl⟩
  rw [keyed.compare entry entryMem] at less
  have ranked := keyed.ranked_of_noWorse lawful noWorse entryMem (by omega)
  have swapped := (entry.2.compare_threeWay lawful).swap x y
  rcases exists_first_skyline_key keyed lawful canonical represents lead (agree x xMem y yMem)
    inOrder entryMem (by omega) ranked with ⟨_, key, _, first, _, _, keyLess, firstMem, rfl⟩
  have firstNoWorse := (noWorse first.1 (List.mem_map_of_mem firstMem)).2
  rw [keyed.compare first firstMem] at firstNoWorse
  have firstSwapped := (first.2.compare_threeWay lawful).swap x y
  omega

/-! ## A key without skyline columns in front -/

/-- Every key tells some value from NULL, in either order. -/
theorem exists_compareValues_neg (key : PathKey EC) (datum : D) :
    ∃ u v, key.compareValues order u v < 0 := by
  cases placement : key.pkNullsFirst with
  | true =>
      refine ⟨none, some datum, ?_⟩
      simp [PathKey.compareValues, inlineApplyCompareFunction, placement]
  | false =>
      refine ⟨some datum, none, ?_⟩
      simp [PathKey.compareValues, inlineApplyCompareFunction, placement]

/-- Values that some class ranks are not both NULL. -/
theorem Ranked.exists_datum {eclass : EC} (ranked : Ranked order entries eclass) : Nonempty D := by
  rcases ranked with ⟨u, v, noWorse, notNoWorse⟩
  cases u with
  | some datum => exact ⟨datum⟩
  | none =>
      cases v with
      | some datum => exact ⟨datum⟩
      | none => exact absurd noWorse notNoWorse

section TwoClasses

variable [DecidableEq EC] {earlier later : EC}

/-- The row that is NULL except on two classes. -/
def twoClassRow (earlier later : EC) (leading value : Option D) : EC → Option D :=
  Function.update (Function.update (fun _ : EC => (none : Option D)) later value) earlier leading

theorem twoClassRow_earlier (leading value : Option D) :
    twoClassRow earlier later leading value earlier = leading :=
  Function.update_self ..

theorem twoClassRow_later (apart : later ≠ earlier) (leading value : Option D) :
    twoClassRow earlier later leading value later = value := by
  simp only [twoClassRow, Function.update_of_ne apart, Function.update_self]

theorem twoClassRow_elsewhere {eclass : EC} (notEarlier : eclass ≠ earlier)
    (notLater : eclass ≠ later) (leading value : Option D) :
    twoClassRow earlier later leading value eclass = none := by
  simp only [twoClassRow, Function.update_of_ne notEarlier, Function.update_of_ne notLater]

/-- The rows agree where they must if neither class has to be redundant. -/
theorem constantsAgree_twoClassRow (earlierFree : root.ecMustBeRedundant earlier = false)
    (laterFree : root.ecMustBeRedundant later = false) (u v better worse : Option D) :
    ConstantsAgree root
      [twoClassRow earlier later v worse, twoClassRow earlier later u better] := by
  have same : ∀ eclass, root.ecMustBeRedundant eclass = true →
      ∀ leading value : Option D, twoClassRow earlier later leading value eclass = none := by
    intro eclass redundant
    apply twoClassRow_elsewhere
    · rintro rfl
      rw [earlierFree] at redundant
      cases redundant
    · rintro rfl
      rw [laterFree] at redundant
      cases redundant
  intro x xMem y yMem eclass redundant
  simp only [List.mem_cons, List.not_mem_nil, or_false] at xMem yMem
  rcases xMem with rfl | rfl <;> rcases yMem with rfl | rfl <;> simp only [same eclass redundant]

/-- The key in front decides how the rows are sorted. -/
theorem comparePathkeys_twoClassRow (lawful : ∀ opfamily, ThreeWay (order opfamily))
    {before behind : List (PathKey EC)} {key : PathKey EC}
    (nodup : ((before ++ key :: behind).map PathKey.pkEclass).Nodup)
    (behindMem : later ∈ behind.map PathKey.pkEclass) {u v : Option D}
    (less : key.compareValues order v u < 0) (better worse : Option D) :
    comparePathkeys order (before ++ key :: behind)
      (twoClassRow key.pkEclass later v worse) (twoClassRow key.pkEclass later u better) ≤ 0 := by
  have keyLess : key.compare order (twoClassRow key.pkEclass later v worse)
      (twoClassRow key.pkEclass later u better) < 0 := by
    rw [PathKey.compare, twoClassRow_earlier, twoClassRow_earlier]
    exact less
  rw [List.map_append, List.nodup_append] at nodup
  rw [comparePathkeys, List.map_append, List.map_cons, lexicographic_append_cons]
  · exact Int.le_of_lt keyLess
  · intro f fMem
    rcases List.mem_map.mp fMem with ⟨other, otherMem, rfl⟩
    have notAmong := nodup.2.2 other.pkEclass (List.mem_map_of_mem otherMem)
    have notEarlier : other.pkEclass ≠ key.pkEclass := notAmong _ (by simp)
    have notLater : other.pkEclass ≠ later :=
      notAmong _ (by rw [List.map_cons]; exact List.mem_cons_of_mem _ behindMem)
    apply PathKey.compare_of_eq lawful
    rw [twoClassRow_elsewhere notEarlier notLater, twoClassRow_elsewhere notEarlier notLater]
  · omega

/-- The class behind decides how the rows compare if no column is on the class in front. -/
theorem noWorse_twoClassRow (keyed : Keyed order slotGetattr entries)
    (lawful : ∀ opfamily, ThreeWay (order opfamily)) (apart : later ≠ earlier)
    (foreign : ¬ OnSkylineClass entries earlier) {better worse : Option D}
    (noWorse : ClassNoWorse order entries later better worse) (u v : Option D) :
    NoWorse slotGetattr (entries.map Prod.fst)
      (twoClassRow earlier later u better) (twoClassRow earlier later v worse) := by
  rw [keyed.noWorse_iff]
  intro eclass
  by_cases onLater : eclass = later
  · rw [onLater, twoClassRow_later apart, twoClassRow_later apart]
    exact noWorse
  · intro entry entryMem same
    have notEarlier : eclass ≠ earlier := by
      rintro rfl
      exact foreign ⟨entry, entryMem, same⟩
    rw [twoClassRow_elsewhere notEarlier onLater, twoClassRow_elsewhere notEarlier onLater]
    have equal := (entry.2.compareValues_threeWay lawful).self none
    exact ⟨fun _ => equal, Int.le_of_eq equal⟩

end TwoClasses

/-- Rows that differ on two classes only, one of them without skyline columns, are
ordered by a key on that class and dominated the other way round. -/
theorem rankedKeysLead_of_noLaterDominates (keyed : Keyed order slotGetattr entries)
    (lawful : ∀ opfamily, ThreeWay (order opfamily)) (canonical : root.Canonical keys)
    (sound : ∀ input, ConstantsAgree root input → SortedByPathkeys order keys input →
      NoLaterDominates slotGetattr (entries.map Prod.fst) input) :
    RankedKeysLead order entries keys := by
  classical
  rw [RankedKeysLead, List.pairwise_iff_forall_sublist]
  intro earlier later sublist
  by_contra notLead
  rw [not_or, not_not] at notLead
  rcases notLead with ⟨foreign, ranked⟩
  rcases List.cons_sublist_iff.mp sublist with ⟨front, back, rfl, earlierMem, laterSub⟩
  have laterMem := List.singleton_sublist.mp laterSub
  rcases List.append_of_mem earlierMem with ⟨before, between, rfl⟩
  have apart : later.pkEclass ≠ earlier.pkEclass := by
    intro same
    rw [← same] at foreign
    exact foreign ranked.onSkylineClass
  rcases ranked.exists_datum with ⟨datum⟩
  rcases @exists_compareValues_neg D EC order earlier datum with ⟨v, u, less⟩
  rcases ranked with ⟨better, worse, noWorse, notNoWorse⟩
  -- `y` is better than `x` on the ranked class and sorts behind it.
  let x := twoClassRow earlier.pkEclass later.pkEclass v worse
  let y := twoClassRow earlier.pkEclass later.pkEclass u better
  have xLater : x later.pkEclass = worse := twoClassRow_later apart v worse
  have yLater : y later.pkEclass = better := twoClassRow_later apart u better
  have agree : ConstantsAgree root [x, y] :=
    constantsAgree_twoClassRow (canonical.not_redundant earlier (by simp))
      (canonical.not_redundant later (List.mem_append_right _ laterMem)) u v better worse
  have sorted : SortedByPathkeys order (before ++ earlier :: between ++ back) [x, y] := by
    have nodup := canonical.nodup
    rw [List.append_assoc, List.cons_append] at nodup ⊢
    apply List.pairwise_pair.mpr
    exact comparePathkeys_twoClassRow lawful nodup
      (List.mem_map_of_mem (List.mem_append_right _ laterMem)) less better worse
  have notDominates := List.pairwise_pair.mp (sound _ agree sorted)
  apply notDominates
  rw [dominates_iff_noWorse_and_exists]
  have isNoWorse : NoWorse slotGetattr (entries.map Prod.fst) y x :=
    noWorse_twoClassRow keyed lawful apart foreign noWorse u v
  refine ⟨isNoWorse, ?_⟩
  by_contra noneBetter
  apply notNoWorse
  intro entry entryMem same
  have forward := isNoWorse entry.1 (List.mem_map_of_mem entryMem)
  have notLess : ¬ entry.1.compare slotGetattr y x < 0 :=
    fun isLess => noneBetter ⟨entry.1, List.mem_map_of_mem entryMem, isLess⟩
  rw [keyed.compare entry entryMem, PathKey.compare, same, xLater, yLater] at forward notLess
  have swapped := (entry.2.compareValues_threeWay lawful).swap better worse
  exact ⟨fun _ => by omega, by omega⟩

end Represented

end PgSkyline
