import PgSkyline.InputOrder.Result
import PgSkyline.Presort.Result

/-!
# Paths that are sorted on the skyline columns

If the skyline keys of a path come before all other keys, the path is sorted on the
skyline columns in some order, with or without DISTINCT, and for any number of columns.
-/

namespace PgSkyline

open Comparison Covering Presort

variable {E D EC : Type}

section Lead

variable (entries : List (SkylineCol D × PathKey EC)) (keys : List (PathKey EC))

/-- No key on a class without skyline columns precedes a key on one with. -/
def SkylineKeysLead : Prop :=
  keys.Pairwise fun earlier later =>
    OnSkylineClass entries earlier.pkEclass ∨ ¬ OnSkylineClass entries later.pkEclass

/-- The key belongs to a DIFF column. -/
def IsGroupKey (key : PathKey EC) : Prop :=
  ∃ entry ∈ entries, entry.2 = key ∧ entry.1.skylineOfDir = .diff

/-- The keys of DIFF columns come first. -/
def GroupKeysLead : Prop :=
  keys.Pairwise fun earlier later => IsGroupKey entries later → IsGroupKey entries earlier

instance [DecidableEq EC] (eclass : EC) : Decidable (OnSkylineClass entries eclass) :=
  inferInstanceAs (Decidable (∃ entry ∈ entries, _))

instance [DecidableEq EC] : Decidable (SkylineKeysLead entries keys) :=
  inferInstanceAs (Decidable (List.Pairwise _ _))

instance [DecidableEq EC] (key : PathKey EC) : Decidable (IsGroupKey entries key) :=
  inferInstanceAs (Decidable (∃ entry ∈ entries, _))

instance [DecidableEq EC] : Decidable (GroupKeysLead entries keys) :=
  inferInstanceAs (Decidable (List.Pairwise _ _))

/-- `front` has the columns whose keys come first in the path, and `rest` the columns
that are equal where those are. -/
structure Arranged (root : PlannerInfo E EC) (front rest : List (SkylineCol D × PathKey EC)) :
    Prop where
  subset : front ++ rest ⊆ entries
  superset : entries ⊆ front ++ rest
  length_le : (front ++ rest).length ≤ entries.length
  isPrefix : front.map Prod.snd <+: keys
  follows : ∀ entry ∈ rest, root.ecMustBeRedundant entry.2.pkEclass = true ∨
    ∃ other ∈ front, other.2.pkEclass = entry.2.pkEclass

end Lead

variable {order : Oid → D → D → Int} {root : PlannerInfo E EC} {keys : List (PathKey EC)}
  {slotGetattr : (EC → Option D) → Nat → Option D}
  {entries front rest : List (SkylineCol D × PathKey EC)}

/-- Members with a property that no other member precedes are a prefix. -/
theorem filter_prefix_of_lead {A : Type} {p : A → Bool} {items : List A}
    (lead : items.Pairwise fun earlier later => p earlier = true ∨ ¬ p later = true) :
    items.filter p <+: items := by
  induction items with
  | nil => exact List.prefix_refl []
  | cons head tail ih =>
      rcases List.pairwise_cons.mp lead with ⟨before, tailLead⟩
      by_cases holds : p head = true
      · rw [List.filter_cons_of_pos holds]
        exact (List.cons_prefix_cons).mpr ⟨rfl, ih tailLead⟩
      · have none : (head :: tail).filter p = [] := by
          rw [List.filter_eq_nil_iff]
          exact List.forall_mem_cons.mpr
            ⟨holds, fun other mem => (before other mem).resolve_left holds⟩
        rw [none]
        exact List.nil_prefix

/-- Keys that all belong to columns are the keys of a list of columns. -/
theorem exists_map_snd_eq {front : List (PathKey EC)}
    (owned : ∀ key ∈ front, ∃ entry ∈ entries, entry.2 = key) :
    ∃ owners, owners ⊆ entries ∧ owners.map Prod.snd = front := by
  induction front with
  | nil => exact ⟨[], List.nil_subset _, rfl⟩
  | cons key front ih =>
      rcases owned key List.mem_cons_self with ⟨entry, entryMem, rfl⟩
      rcases ih fun other mem => owned other (List.mem_cons_of_mem _ mem) with
        ⟨owners, subset, rfl⟩
      exact ⟨entry :: owners, List.cons_subset.mpr ⟨entryMem, subset⟩, rfl⟩

theorem exists_arranged (canonical : root.Canonical keys)
    (represents : Represents root keys entries) (lead : SkylineKeysLead entries keys) :
    ∃ front rest, Arranged entries keys root front rest := by
  classical
  let skylineKeys := keys.filter fun key => OnSkylineClass entries key.pkEclass
  have isPrefix : skylineKeys <+: keys := by
    apply filter_prefix_of_lead
    apply List.Pairwise.imp _ lead
    simp only [decide_eq_true_eq, imp_self, implies_true]
  have owned : ∀ key ∈ skylineKeys, ∃ entry ∈ entries, entry.2 = key := by
    intro key mem
    rcases List.mem_filter.mp mem with ⟨keyMem, onClass⟩
    exact exists_entry_of_onSkylineClass canonical represents keyMem (of_decide_eq_true onClass)
  rcases exists_map_snd_eq owned with ⟨front, subset, frontKeys⟩
  have nodup : front.Nodup := by
    apply List.Nodup.of_map Prod.snd
    rw [frontKeys]
    exact (List.Nodup.of_map _ canonical.nodup).sublist isPrefix.sublist
  refine ⟨front, entries.filter fun entry => entry ∉ front, ?_, ?_, ?_, frontKeys ▸ isPrefix, ?_⟩
  · exact List.append_subset.mpr ⟨subset, List.filter_sublist.subset⟩
  · intro entry mem
    by_cases inFront : entry ∈ front
    · exact List.mem_append_left _ inFront
    · exact List.mem_append_right _ (List.mem_filter.mpr ⟨mem, decide_eq_true inFront⟩)
  · have among : front ⊆ entries.filter fun entry => entry ∈ front :=
      fun entry mem => List.mem_filter.mpr ⟨subset mem, decide_eq_true mem⟩
    have shorter := (List.subperm_of_subset nodup among).length_le
    have halves :=
      List.length_eq_length_filter_add (l := entries) fun entry => decide (entry ∈ front)
    simp only [List.length_append, decide_not] at halves ⊢
    omega
  · intro entry mem
    rcases represents entry (List.mem_filter.mp mem).1 with
      redundant | ⟨other, otherMem, otherKey, same⟩
    · exact Or.inl redundant
    · have inFront : other.2 ∈ front.map Prod.snd := by
        rw [frontKeys]
        exact List.mem_filter.mpr ⟨otherKey, decide_eq_true ⟨other, otherMem, rfl⟩⟩
      rcases List.mem_map.mp inFront with ⟨found, foundMem, foundKey⟩
      exact Or.inr ⟨found, foundMem, by rw [foundKey, same]⟩

/-! ## What an arrangement gives -/

namespace Arranged

variable {input : List (EC → Option D)}

/-- A column of the rest is equal where the columns in front are. -/
theorem compare_eq_zero (arranged : Arranged entries keys root front rest)
    (keyed : Keyed order slotGetattr entries) (lawful : ∀ opfamily, ThreeWay (order opfamily))
    (agree : ConstantsAgree root input) {x y : EC → Option D} (xMem : x ∈ input) (yMem : y ∈ input)
    (equal : ∀ entry ∈ front, entry.1.compare slotGetattr x y = 0) :
    ∀ entry ∈ rest, entry.1.compare slotGetattr x y = 0 := by
  intro entry entryMem
  have mem : entry ∈ entries := arranged.subset (List.mem_append_right _ entryMem)
  rw [keyed.compare entry mem]
  rcases arranged.follows entry entryMem with redundant | ⟨other, otherMem, same⟩
  · exact PathKey.compare_of_eq lawful (agree x xMem y yMem _ redundant)
  · have otherEqual := equal other otherMem
    have isEntry : other ∈ entries := arranged.subset (List.mem_append_left _ otherMem)
    rw [keyed.compare other isEntry] at otherEqual
    have sameEqual := keyed.sameEquality other isEntry entry mem same _ _ otherEqual
    rwa [same] at sameEqual

/-- Rows in the order of the path are sorted on the arranged columns. -/
theorem sortedOn (arranged : Arranged entries keys root front rest)
    (keyed : Keyed order slotGetattr entries) (lawful : ∀ opfamily, ThreeWay (order opfamily))
    (agree : ConstantsAgree root input) (sorted : SortedByPathkeys order keys input) :
    SortedOn slotGetattr ((front ++ rest).map Prod.fst) input := by
  have onFront := sorted.of_prefix arranged.isPrefix
  apply List.Pairwise.imp_of_mem _ onFront
  intro x y xMem yMem inOrder
  have sameCompare : (front.map Prod.fst).map (fun col => col.compare slotGetattr) =
      (front.map Prod.snd).map fun key => key.compare order := by
    simp only [List.map_map]
    apply List.map_congr_left
    intro entry mem
    funext u v
    exact keyed.compare entry (arranged.subset (List.mem_append_left _ mem)) u v
  rw [lexCompare, List.map_append, List.map_append, lexicographic_append_of_follows]
  · rw [sameCompare]
    exact inOrder
  · intro equal
    have frontEqual : ∀ entry ∈ front, entry.1.compare slotGetattr x y = 0 := by
      intro entry mem
      exact equal _ (List.mem_map_of_mem (List.mem_map_of_mem mem))
    have restEqual := arranged.compare_eq_zero keyed lawful agree xMem yMem frontEqual
    simpa only [List.forall_mem_map] using restEqual

theorem beats_congr (arranged : Arranged entries keys root front rest) (distinct : Bool)
    (x y : EC → Option D) :
    Beats slotGetattr ((front ++ rest).map Prod.fst) distinct x y ↔
      Beats slotGetattr (entries.map Prod.fst) distinct x y :=
  beats_congr_of_subset (List.map_subset _ arranged.subset) (List.map_subset _ arranged.superset)
    distinct x y

theorem lawfulCols (arranged : Arranged entries keys root front rest)
    (lawful : LawfulCols (entries.map Prod.fst)) : LawfulCols ((front ++ rest).map Prod.fst) :=
  fun col mem => lawful col (List.map_subset _ arranged.subset mem)

theorem noLaterDominates (arranged : Arranged entries keys root front rest)
    (lawful : LawfulCols (entries.map Prod.fst))
    (sorted : SortedOn slotGetattr ((front ++ rest).map Prod.fst) input) :
    NoLaterDominates slotGetattr (entries.map Prod.fst) input := by
  apply (sorted.noLaterDominates (arranged.lawfulCols lawful)).imp
  intro x y notDominates dominates
  apply notDominates
  rw [← beats_false_iff] at dominates ⊢
  exact (arranged.beats_congr false y x).mpr dominates

/-- Where a DIFF column of the class of the only column in front changes, no row
dominates another of its group. -/
theorem undominated_of_follows {first second : SkylineCol D × PathKey EC}
    (arranged : Arranged entries keys root [first] [second])
    (keyed : Keyed order slotGetattr entries) (lawful : ∀ opfamily, ThreeWay (order opfamily))
    (agree : ConstantsAgree root input) (isDiff : second.1.skylineOfDir = .diff)
    {p y : EC → Option D} (pMem : p ∈ input) (yMem : y ∈ input)
    (change : second.1.compare slotGetattr p y ≠ 0) :
    Undominated slotGetattr [first.1, second.1] input y := by
  have firstMem : first ∈ entries := arranged.subset (by simp)
  have secondMem : second ∈ entries := arranged.subset (by simp)
  rw [keyed.compare second secondMem] at change
  rcases arranged.follows second (by simp) with redundant | ⟨other, otherMem, same⟩
  · exact absurd (PathKey.compare_of_eq lawful (agree p pMem y yMem _ redundant)) change
  · rw [List.mem_singleton.mp otherMem] at same
    intro x _ dominates
    rcases (dominates_iff_noWorse_and_exists slotGetattr _ x y).mp dominates with
      ⟨noWorse, col, colMem, less⟩
    have secondEqual := (noWorse second.1 (by simp)).1 isDiff
    rw [keyed.compare second secondMem] at secondEqual
    have firstEqual := keyed.sameEquality second secondMem first firstMem same.symm _ _ secondEqual
    rw [← same] at firstEqual
    simp only [List.mem_cons, List.not_mem_nil, or_false] at colMem
    rcases colMem with rfl | rfl
    · rw [keyed.compare first firstMem, PathKey.compare] at less
      omega
    · rw [keyed.compare second secondMem] at less
      omega

private theorem ordinary_of_pair {first second : SkylineCol D × PathKey EC}
    (arranged : Arranged entries keys root [first, second] [])
    (canonical : root.Canonical keys) (groups : GroupKeysLead entries keys)
    (ordinary : first.1.skylineOfDir ≠ .diff) : second.1.skylineOfDir ≠ .diff := by
  intro isDiff
  have pair : [first.2, second.2].Pairwise fun earlier later =>
      IsGroupKey entries later → IsGroupKey entries earlier :=
    List.Pairwise.sublist arranged.isPrefix.sublist groups
  have isGroup : IsGroupKey entries second.2 :=
    ⟨second, arranged.subset (by simp), rfl, isDiff⟩
  rcases List.pairwise_pair.mp pair isGroup with ⟨entry, entryMem, keyEq, entryDiff⟩
  have nodup : [first.2, second.2].Nodup :=
    (List.Nodup.of_map _ canonical.nodup).sublist arranged.isPrefix.sublist
  have among := arranged.superset entryMem
  simp only [List.cons_append, List.nil_append, List.mem_cons, List.not_mem_nil, or_false] at among
  rcases among with rfl | rfl
  · exact ordinary entryDiff
  · exact (List.pairwise_pair.mp nodup) keyEq.symm

/-- If the keys of DIFF columns come first, a DIFF column behind another column does
not start a new group at a dominated row. -/
theorem changesUndominated (arranged : Arranged entries keys root front rest)
    (keyed : Keyed order slotGetattr entries) (lawful : ∀ opfamily, ThreeWay (order opfamily))
    (canonical : root.Canonical keys) (groups : GroupKeysLead entries keys)
    (agree : ConstantsAgree root input) :
    ChangesUndominated slotGetattr ((front ++ rest).map Prod.fst) input := by
  intro col1 col2 colsEq ordinary isDiff done p y after inputEq change
  have pMem : p ∈ input := by simp [inputEq]
  have yMem : y ∈ input := by simp [inputEq]
  rcases List.map_eq_cons_iff.mp colsEq with ⟨first, others, listEq, rfl, othersEq⟩
  rcases List.map_eq_singleton_iff.mp othersEq with ⟨second, rfl, rfl⟩
  cases front with
  | nil =>
      have secondMem : second ∈ rest := by
        rw [List.nil_append] at listEq
        simp [listEq]
      exact absurd (arranged.compare_eq_zero keyed lawful agree pMem yMem (List.forall_mem_nil _)
        second secondMem) change
  | cons head front =>
      rw [List.cons_append, List.cons.injEq] at listEq
      rcases listEq with ⟨rfl, listEq⟩
      cases front with
      | nil =>
          rw [List.nil_append] at listEq
          rw [listEq] at arranged
          simp only [List.map_cons, List.map_nil, List.cons_append, List.nil_append, listEq]
          exact arranged.undominated_of_follows keyed lawful agree isDiff pMem yMem change
      | cons second' front =>
          rw [List.cons_append, List.cons.injEq] at listEq
          rcases listEq with ⟨rfl, listEq⟩
          rcases List.append_eq_nil_iff.mp listEq with ⟨rfl, rfl⟩
          exact absurd isDiff (arranged.ordinary_of_pair canonical groups ordinary)

end Arranged

section Sound

variable {input : List (EC → Option D)} (keyed : Keyed order slotGetattr entries)
  (lawful : ∀ opfamily, ThreeWay (order opfamily))
  (lawfulCols : LawfulCols (entries.map Prod.fst)) (canonical : root.Canonical keys)
  (represents : Represents root keys entries) (lead : SkylineKeysLead entries keys)
  (agree : ConstantsAgree root input) (sorted : SortedByPathkeys order keys input)

include keyed lawful lawfulCols canonical represents lead agree sorted

theorem noLaterDominates_of_skylineKeysLead :
    NoLaterDominates slotGetattr (entries.map Prod.fst) input := by
  rcases exists_arranged canonical represents lead with ⟨front, rest, arranged⟩
  exact arranged.noLaterDominates lawfulCols (arranged.sortedOn keyed lawful agree sorted)

/-- The presorted method can work with a path on which the skyline keys come first,
those of DIFF columns before the others. -/
theorem exists_relaying_order_of_skylineKeysLead (narrow : entries.length ≤ 2)
    (groups : GroupKeysLead entries keys) (distinct : Bool) :
    ∃ before : (EC → Option D) → (EC → Option D) → Prop,
      Relays (Beats slotGetattr (entries.map Prod.fst) distinct) before input ∧
        input.Pairwise before := by
  rcases exists_arranged canonical represents lead with ⟨front, rest, arranged⟩
  have relays : Relays (Beats slotGetattr ((front ++ rest).map Prod.fst) distinct)
      (fun x y => lexCompare slotGetattr ((front ++ rest).map Prod.fst) x y ≤ 0) input := by
    apply Presort.relays_of_sorted (arranged.lawfulCols lawfulCols)
    · rw [List.length_map]
      exact Nat.le_trans arranged.length_le narrow
    · exact arranged.changesUndominated keyed lawful canonical groups agree
  have same : Beats slotGetattr ((front ++ rest).map Prod.fst) distinct =
      Beats slotGetattr (entries.map Prod.fst) distinct := by
    funext x y
    exact propext (arranged.beats_congr distinct x y)
  rw [same] at relays
  exact ⟨_, relays, arranged.sortedOn keyed lawful agree sorted⟩

end Sound

end PgSkyline
