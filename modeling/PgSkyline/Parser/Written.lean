import PgSkyline.Parser.Duplicates
import Mathlib.Data.List.Forall2

/-!
# What the items of a clause say

The meaning of the items as written, against the select list before the clause is
transformed: which expression an item names, and which of two values of it the item
prefers.  The transformation changes the target list while it goes through the items;
the columns that the client sees stay the same but for UNKNOWN literals.
-/

namespace PgSkyline

variable {N E D Row : Type}

/-! ## Expressions -/

/-- The columns of the select list. -/
def visible (tlist : List (TargetEntry E)) : List (TargetEntry E) :=
  tlist.filter fun tle => !tle.resjunk

/-- The expression an item names: a column of the select list by its name or its
position, or any expression over the FROM clause. -/
def itemExpr (analysis : ExprAnalysis N E) (tlist : List (TargetEntry E)) (node : Node N) :
    Option E :=
  match node with
  | .columnRef [name] =>
      match (visible tlist).find? fun tle => tle.resname == some name with
      | some tle => some tle.expr
      | none => (analysis.transformExpr node).toOption
  | .aConst (.integer targetPos) =>
      if 0 < targetPos then
        (visible tlist)[(targetPos - 1).toNat]?.map TargetEntry.expr
      else none
  | .aConst _ => none
  | _ => (analysis.transformExpr node).toOption

/-- An UNKNOWN literal is a TEXT. -/
def resolveUnknownExpr (analysis : ExprAnalysis N E) (resolveUnknown : Bool) (expr : E) : E :=
  if analysis.exprType expr = unknownOid ∧ resolveUnknown = true then analysis.coerceToText expr
  else expr

section Resolve

variable {analysis : ExprAnalysis N E} {resolveUnknown : Bool}
  (toText : ∀ expr, analysis.exprType (analysis.coerceToText expr) = textOid)

include toText

theorem resolveUnknownExpr_idem (expr : E) :
    resolveUnknownExpr analysis resolveUnknown (resolveUnknownExpr analysis resolveUnknown expr) =
      resolveUnknownExpr analysis resolveUnknown expr := by
  unfold resolveUnknownExpr
  split
  · rw [if_neg]
    simp [toText, textOid, unknownOid]
  · rfl

theorem resolveUnknownTarget_eq (tle : TargetEntry E) :
    resolveUnknownTarget analysis resolveUnknown tle =
      ({ tle with expr := resolveUnknownExpr analysis resolveUnknown tle.expr },
        analysis.exprType (resolveUnknownExpr analysis resolveUnknown tle.expr)) := by
  unfold resolveUnknownTarget resolveUnknownExpr
  dsimp only
  split
  · rw [toText]
  · rfl

end Resolve

/-! ## Columns that stay the same -/

/-- The entry still is the same column of the result. -/
structure SameTarget (analysis : ExprAnalysis N E) (resolveUnknown : Bool)
    (old new : TargetEntry E) : Prop where
  resno : new.resno = old.resno
  resname : new.resname = old.resname
  resjunk : new.resjunk = old.resjunk
  expr : resolveUnknownExpr analysis resolveUnknown new.expr =
    resolveUnknownExpr analysis resolveUnknown old.expr

theorem SameTarget.refl (analysis : ExprAnalysis N E) (resolveUnknown : Bool)
    (tle : TargetEntry E) : SameTarget analysis resolveUnknown tle tle :=
  ⟨rfl, rfl, rfl, rfl⟩

theorem SameTarget.trans {analysis : ExprAnalysis N E} {resolveUnknown : Bool}
    {old mid new : TargetEntry E} (first : SameTarget analysis resolveUnknown old mid)
    (later : SameTarget analysis resolveUnknown mid new) :
    SameTarget analysis resolveUnknown old new where
  resno := later.resno.trans first.resno
  resname := later.resname.trans first.resname
  resjunk := later.resjunk.trans first.resjunk
  expr := later.expr.trans first.expr

/-- The client sees the same columns. -/
def SameColumns (analysis : ExprAnalysis N E) (resolveUnknown : Bool)
    (old new : List (TargetEntry E)) : Prop :=
  List.Forall₂ (SameTarget analysis resolveUnknown) (visible old) (visible new)

namespace SameColumns

variable {analysis : ExprAnalysis N E} {resolveUnknown : Bool}
  {old mid new : List (TargetEntry E)}

theorem refl (tlist : List (TargetEntry E)) : SameColumns analysis resolveUnknown tlist tlist :=
  List.forall₂_same.mpr fun tle _ => .refl analysis resolveUnknown tle

theorem trans (first : SameColumns analysis resolveUnknown old mid)
    (later : SameColumns analysis resolveUnknown mid new) :
    SameColumns analysis resolveUnknown old new := by
  unfold SameColumns at *
  generalize visible old = seen, visible mid = seenMid, visible new = seenNew at *
  induction first generalizing seenNew with
  | nil => exact later
  | cons same _ ih =>
      rcases later with _ | ⟨sameLater, rest⟩
      exact .cons (same.trans sameLater) (ih _ rest)

theorem append_junk {tle : TargetEntry E} (junk : tle.resjunk = true) :
    SameColumns analysis resolveUnknown old (old ++ [tle]) := by
  have seen : visible (old ++ [tle]) = visible old := by simp [visible, junk]
  unfold SameColumns
  rw [seen]
  exact refl old

theorem set {pos : Nat} {entry tle : TargetEntry E} (atPos : old[pos]? = some entry)
    (same : SameTarget analysis resolveUnknown entry tle) :
    SameColumns analysis resolveUnknown old (old.set pos tle) := by
  rcases List.getElem?_eq_some_iff.mp atPos with ⟨inRange, rfl⟩
  have each : List.Forall₂ (SameTarget analysis resolveUnknown) old (old.set pos tle) := by
    apply List.forall₂_iff_get.mpr
    refine ⟨by simp, fun index first second => ?_⟩
    by_cases here : pos = index
    · subst here
      simpa using same
    · simpa [here] using SameTarget.refl analysis resolveUnknown old[index]
  apply List.rel_filter _ each
  intro first second sameTarget
  dsimp only
  rw [sameTarget.resjunk]

theorem find?_resname (same : SameColumns analysis resolveUnknown old new) (name : String) :
    Option.Rel (SameTarget analysis resolveUnknown)
      ((visible old).find? fun tle => tle.resname == some name)
      ((visible new).find? fun tle => tle.resname == some name) := by
  unfold SameColumns at same
  generalize visible old = seen, visible new = seenNew at *
  induction same with
  | nil => exact .none
  | @cons first second _ _ here _ ih =>
      rw [List.find?_cons, List.find?_cons, here.resname]
      cases first.resname == some name with
      | true => exact .some here
      | false => exact ih

theorem getElem? (same : SameColumns analysis resolveUnknown old new) {pos : Nat}
    {tle : TargetEntry E} (atPos : (visible new)[pos]? = some tle) :
    ∃ entry, (visible old)[pos]? = some entry ∧ SameTarget analysis resolveUnknown entry tle := by
  rcases List.getElem?_eq_some_iff.mp atPos with ⟨inRange, rfl⟩
  have inOld : pos < (visible old).length := same.length_eq ▸ inRange
  exact ⟨_, List.getElem?_eq_getElem inOld, same.get inOld inRange⟩

end SameColumns

/-! ## The search for a target -/

theorem visible_cons (tle : TargetEntry E) (tlist : List (TargetEntry E)) :
    visible (tle :: tlist) =
      if tle.resjunk = false then tle :: visible tlist else visible tlist := by
  unfold visible
  cases junk : tle.resjunk <;> simp [junk]

/-- The target list after the search for a target, which at most adds a junk entry. -/
inductive Grows (tlist : List (TargetEntry E)) : List (TargetEntry E) → Prop where
  | same : Grows tlist tlist
  | junk (tle : TargetEntry E) (unmarked : tle.ressortgroupref = 0) (isJunk : tle.resjunk = true) :
      Grows tlist (tlist ++ [tle])

section Search

variable [DecidableEq E]

/-- Once a match is found, it stays the result. -/
theorem findName_of_found {name : String} {tlist : List (TargetEntry E)} {pos found : Nat}
    {tle : TargetEntry E} {result : Option Nat}
    (search : findName name tlist pos (some (found, tle)) = .ok result) : result = some found := by
  induction tlist generalizing pos with
  | nil =>
      cases search
      rfl
  | cons first rest ih =>
      rw [findName] at search
      split at search
      · split at search
        · cases search
        · exact ih search
      · exact ih search

/-- A bare name is searched among the columns of the select list. -/
theorem findName_spec {name : String} {tlist : List (TargetEntry E)} {pos : Nat}
    {result : Option Nat} (search : findName name tlist pos none = .ok result) :
    match result with
    | some found => ∃ index tle, found = pos + index ∧ tlist[index]? = some tle ∧
        (visible tlist).find? (fun tle => tle.resname == some name) = some tle
    | none => (visible tlist).find? (fun tle => tle.resname == some name) = none := by
  induction tlist generalizing pos with
  | nil =>
      cases search
      rfl
  | cons first rest ih =>
      rw [findName] at search
      by_cases hit : first.resjunk = false ∧ first.resname = some name
      · rw [if_pos hit] at search
        have isFirst := findName_of_found search
        subst isFirst
        refine ⟨0, first, rfl, rfl, ?_⟩
        rw [visible_cons, if_pos hit.1, List.find?_cons_of_pos]
        simp [hit.2]
      · rw [if_neg hit] at search
        have skipped : (visible (first :: rest)).find? (fun tle => tle.resname == some name) =
            (visible rest).find? (fun tle => tle.resname == some name) := by
          rw [visible_cons]
          split
          · rename_i seen
            rw [List.find?_cons_of_neg]
            simpa [seen] using hit
          · rfl
        have later := ih search
        rw [skipped]
        cases result with
        | none => exact later
        | some found =>
            rcases later with ⟨index, tle, sum, atIndex, isFirst⟩
            exact ⟨index + 1, tle, by omega, atIndex, isFirst⟩

omit [DecidableEq E] in
/-- A position counts the columns of the select list. -/
theorem findPosition_spec {targetPos : Int} {tlist : List (TargetEntry E)} {pos found : Nat}
    {seen : Int} (search : findPosition targetPos tlist pos seen = some found) :
    ∃ index tle, found = pos + index ∧ tlist[index]? = some tle ∧ seen < targetPos ∧
      (visible tlist)[(targetPos - seen - 1).toNat]? = some tle := by
  induction tlist generalizing pos seen with
  | nil => cases search
  | cons first rest ih =>
      rw [findPosition] at search
      rw [visible_cons]
      by_cases isSeen : first.resjunk = false
      · rw [if_pos isSeen] at search ⊢
        by_cases here : seen + 1 = targetPos
        · rw [if_pos here] at search
          cases search
          refine ⟨0, first, rfl, rfl, by omega, ?_⟩
          have atHead : (targetPos - seen - 1).toNat = 0 := by omega
          rw [atHead]
          rfl
        · rw [if_neg here] at search
          rcases ih search with ⟨index, tle, sum, atIndex, less, atPos⟩
          refine ⟨index + 1, tle, by omega, atIndex, by omega, ?_⟩
          have next : (targetPos - seen - 1).toNat = (targetPos - (seen + 1) - 1).toNat + 1 := by
            omega
          rw [next]
          exact atPos
      · rw [if_neg isSeen] at search ⊢
        rcases ih search with ⟨index, tle, sum, atIndex, less, atPos⟩
        exact ⟨index + 1, tle, by omega, atIndex, less, atPos⟩

private theorem findExpr_spec {analysis : ExprAnalysis N E} {node : Node N}
    {pstate pstate' : ParseState E} {pos : Nat}
    (found : findExpr analysis node pstate = .ok (pos, pstate')) :
    Grows pstate.targetlist pstate'.targetlist ∧
      ∃ entry, pstate'.targetlist[pos]? = some entry ∧
        analysis.transformExpr node = .ok entry.expr := by
  rw [findExpr, bind_eq_ok_iff] at found
  rcases found with ⟨expr, transformed, found⟩
  cases index : pstate.targetlist.findIdx? fun tle => decide (expr = tle.expr) with
  | some old =>
      simp only [index, pure_eq_ok, Except.ok.injEq, Prod.mk.injEq] at found
      rcases found with ⟨rfl, rfl⟩
      rcases List.findIdx?_eq_some_iff_getElem.mp index with ⟨inRange, equal, _⟩
      refine ⟨.same, _, List.getElem?_eq_getElem inRange, ?_⟩
      rw [← of_decide_eq_true equal, transformed]
  | none =>
      simp only [index, pure_eq_ok, Except.ok.injEq, Prod.mk.injEq] at found
      rcases found with ⟨rfl, rfl⟩
      exact ⟨.junk _ rfl rfl, _, List.getElem?_concat_length, transformed⟩

/-- The entry found or made for an item holds the expression that the item names in the
select list as it was. -/
theorem findTargetlistEntry_itemExpr {analysis : ExprAnalysis N E} {resolveUnknown : Bool}
    {tlist : List (TargetEntry E)} {node : Node N} {pstate pstate' : ParseState E} {pos : Nat}
    (same : SameColumns analysis resolveUnknown tlist pstate.targetlist)
    (found : findTargetlistEntry analysis node pstate = .ok (pos, pstate')) :
    Grows pstate.targetlist pstate'.targetlist ∧
      ∃ entry expr, pstate'.targetlist[pos]? = some entry ∧
        itemExpr analysis tlist node = some expr ∧
        resolveUnknownExpr analysis resolveUnknown entry.expr =
          resolveUnknownExpr analysis resolveUnknown expr := by
  have asWritten : findExpr analysis node pstate = .ok (pos, pstate') →
      itemExpr analysis tlist node = (analysis.transformExpr node).toOption →
      Grows pstate.targetlist pstate'.targetlist ∧
        ∃ entry expr, pstate'.targetlist[pos]? = some entry ∧
          itemExpr analysis tlist node = some expr ∧
          resolveUnknownExpr analysis resolveUnknown entry.expr =
            resolveUnknownExpr analysis resolveUnknown expr := by
    intro found written
    rcases findExpr_spec found with ⟨grows, entry, atPos, transformed⟩
    exact ⟨grows, entry, entry.expr, atPos, by rw [written, transformed]; rfl, rfl⟩
  match node, found with
  | .columnRef [], found => exact asWritten found rfl
  | .columnRef [name], found =>
      simp only [findTargetlistEntry] at found
      rw [bind_eq_ok_iff] at found
      rcases found with ⟨hit, search, found⟩
      have spec := findName_spec search
      have related := same.find?_resname name
      cases hit with
      | none =>
          apply asWritten found
          rw [spec] at related
          generalize seen : (visible tlist).find? (fun tle => tle.resname == some name) = first
            at related
          cases related
          simp only [itemExpr, seen]
      | some old =>
          cases found
          rcases spec with ⟨index, tle, rfl, atIndex, isFirst⟩
          rw [isFirst] at related
          generalize seen : (visible tlist).find? (fun tle => tle.resname == some name) = first
            at related
          cases related with
          | @some entry _ sameTarget =>
              refine ⟨.same, tle, entry.expr, by rwa [Nat.zero_add], ?_, sameTarget.expr⟩
              simp only [itemExpr, seen]
  | .columnRef (_ :: _ :: _), found => exact asWritten found rfl
  | .aConst (.integer targetPos), found =>
      simp only [findTargetlistEntry] at found
      cases position : findPosition targetPos pstate.targetlist 0 0 with
      | none => simp [position] at found
      | some old =>
          simp only [position, Except.ok.injEq, Prod.mk.injEq] at found
          rcases found with ⟨rfl, rfl⟩
          rcases findPosition_spec position with ⟨index, tle, rfl, atIndex, positive, atPos⟩
          rcases same.getElem? atPos with ⟨entry, atOld, sameTarget⟩
          refine ⟨.same, tle, entry.expr, by rwa [Nat.zero_add], ?_, sameTarget.expr⟩
          have position : targetPos - 0 - 1 = targetPos - 1 := by omega
          rw [position] at atOld
          simp only [itemExpr, if_pos positive, atOld, Option.map_some]
  | .aConst (.float _), found => cases found
  | .aConst (.string _), found => cases found
  | .other _, found => exact asWritten found rfl

end Search

end PgSkyline
