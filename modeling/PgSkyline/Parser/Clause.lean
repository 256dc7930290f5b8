import PgSkyline.Options
import PgSkyline.Parser.Catalog

/-!
# Transformation of the SKYLINE OF clause

Translation of `transformSkylineClause`, `addTargetToSkylineList`,
`targetIsInSkylineList`, `assignSortGroupRef` and `findTargetlistEntry`
(`parser/parse_clause.c`), and of the part of `make_skyline`
(`optimizer/plan/createplan.c`) that turns the items into columns.

A pointer to a target list entry is its position in the list.  Expressions are a
type with equality (`equal`).
-/

namespace PgSkyline

variable {N E D : Type}

/-! ## Target lists -/

structure TargetEntry (E : Type) where
  expr : E
  resno : Nat
  resname : Option String
  ressortgroupref : Nat
  resjunk : Bool
  deriving DecidableEq, Repr

/-- The target list under construction and the next attribute number. -/
structure ParseState (E : Type) where
  pNextResno : Nat
  targetlist : List (TargetEntry E)
  deriving DecidableEq, Repr

/-- A raw expression: a column reference, a constant, or anything else. -/
inductive Node (N : Type) where
  | columnRef (fields : List String)
  | aConst (val : AConst)
  | other (node : N)
  deriving DecidableEq, Repr

/-- Expression transformation (`parser/parse_expr.c`, `parser/parse_coerce.c`). -/
structure ExprAnalysis (N E : Type) where
  transformExpr : Node N → Except Fault E
  exprType : E → Oid
  /-- `coerce_type` from `UNKNOWNOID` to `TEXTOID`. -/
  coerceToText : E → E

/-- The search for a bare name: later matches have to be the same expression. -/
def findName [DecidableEq E] (name : String) :
    List (TargetEntry E) → Nat → Option (Nat × TargetEntry E) → Except Fault (Option Nat)
  | [], _, targetResult => .ok (targetResult.map Prod.fst)
  | tle :: rest, pos, targetResult =>
      if tle.resjunk = false ∧ tle.resname = some name then
        match targetResult with
        | some (_, found) =>
            if found.expr ≠ tle.expr then .error (.elog s!"SKYLINE OF \"{name}\" is ambiguous")
            else findName name rest (pos + 1) targetResult
        | none => findName name rest (pos + 1) (some (pos, tle))
      else findName name rest (pos + 1) targetResult

/-- The search for the `targetPos`-th entry that is not junk. -/
def findPosition (targetPos : Int) : List (TargetEntry E) → Nat → Int → Option Nat
  | [], _, _ => none
  | tle :: rest, pos, targetlistPos =>
      if tle.resjunk = false then
        if targetlistPos + 1 = targetPos then some pos
        else findPosition targetPos rest (pos + 1) (targetlistPos + 1)
      else findPosition targetPos rest (pos + 1) targetlistPos

/-- The last case of `findTargetlistEntry`: an entry with an equal expression, or a
new junk entry. -/
def findExpr [DecidableEq E] (analysis : ExprAnalysis N E) (node : Node N)
    (pstate : ParseState E) : Except Fault (Nat × ParseState E) := do
  let expr ← analysis.transformExpr node
  match pstate.targetlist.findIdx? fun tle => decide (expr = tle.expr) with
  | some pos => return (pos, pstate)
  | none =>
      let targetResult : TargetEntry E :=
        { expr := expr, resno := pstate.pNextResno, resname := none, ressortgroupref := 0,
          resjunk := true }
      return (pstate.targetlist.length,
        { pNextResno := pstate.pNextResno + 1, targetlist := pstate.targetlist ++ [targetResult] })

/-- `findTargetlistEntry` for the clause `SKYLINE_CLAUSE`. -/
def findTargetlistEntry [DecidableEq E] (analysis : ExprAnalysis N E) (node : Node N)
    (pstate : ParseState E) : Except Fault (Nat × ParseState E) :=
  match node with
  | .columnRef [name] => do
      match ← findName name pstate.targetlist 0 none with
      | some pos => return (pos, pstate)
      | none => findExpr analysis node pstate
  | .aConst (.integer targetPos) =>
      match findPosition targetPos pstate.targetlist 0 0 with
      | some pos => .ok (pos, pstate)
      | none => .error (.elog s!"SKYLINE OF position {targetPos} is not in select list")
  | .aConst _ => .error (.elog "non-integer constant in SKYLINE OF")
  | _ => findExpr analysis node pstate

/-- The larger of `maxRef` and the reference number of the entry. -/
def maxRefStep (maxRef : Nat) (tle : TargetEntry E) : Nat :=
  if maxRef < tle.ressortgroupref then tle.ressortgroupref else maxRef

/-- The largest `ressortgroupref` in use. -/
def maxRef (tlist : List (TargetEntry E)) : Nat :=
  tlist.foldl maxRefStep 0

/-- `assignSortGroupRef`: the reference number the entry has or gets. -/
def assignSortGroupRef (tle : TargetEntry E) (tlist : List (TargetEntry E)) : Nat :=
  if tle.ressortgroupref ≠ 0 then tle.ressortgroupref else maxRef tlist + 1

/-! ## Skyline items -/

inductive SkylineOfNulls where
  | default
  | first
  | last
  deriving DecidableEq, Repr

/-- An item as written. -/
structure SkylineOfExpr (N : Type) where
  node : Node N
  skylineofDir : SkylineOfDir
  skylineofNulls : SkylineOfNulls
  useOp : List String
  deriving DecidableEq, Repr

/-- An item after the transformation. -/
structure SkylineOf where
  tleSortGroupRef : Nat
  restype : Oid
  skylineop : Oid
  nullsFirst : Bool
  skylineofDir : SkylineOfDir
  deriving DecidableEq, Repr

/-- `targetIsInSkylineList`. -/
def targetIsInSkylineList (catalog : Catalog D) (tle : TargetEntry E) (skylineop : Oid)
    (skylineList : List SkylineOf) : Bool :=
  tle.ressortgroupref != 0 && skylineList.any fun skylineof =>
    skylineof.tleSortGroupRef == tle.ressortgroupref &&
      (skylineop == invalidOid || skylineop == skylineof.skylineop ||
        skylineop == catalog.getCommutator skylineof.skylineop)

/-- The entry and its type, an UNKNOWN literal changed to TEXT. -/
def resolveUnknownTarget (analysis : ExprAnalysis N E) (resolveUnknown : Bool)
    (tle : TargetEntry E) : TargetEntry E × Oid :=
  let restype := analysis.exprType tle.expr
  if restype = unknownOid ∧ resolveUnknown = true then
    ({ tle with expr := analysis.coerceToText tle.expr }, textOid)
  else (tle, restype)

/-- The operator of an item and whether it reverses the order of its family. -/
def determineSkylineop (catalog : Catalog D) (restype : Oid) (skylineofDir : SkylineOfDir)
    (skylineofOpname : List String) : Except Fault (Oid × Bool) :=
  match skylineofDir with
  | .default | .min | .diff => do return (← catalog.orderingOperOpid restype, false)
  | .max => do return (← catalog.reverseOrderingOperOpid restype, true)
  | .using => do
      assertThat (!skylineofOpname.isEmpty) "skylineof_opname != NIL"
      let skylineop ← catalog.compatibleOperOpid skylineofOpname restype
      match ← catalog.getCompareFunctionForOrderingOp skylineop with
      | none =>
          let opname := skylineofOpname.getLastD ""
          throw (.elog s!"operator {opname} is not a valid ordering operator")
      | some (_, reverse) => return (skylineop, reverse)

/-- NULLS FIRST is the default of an item that reverses the order. -/
def SkylineOfNulls.nullsFirst (skylineofNulls : SkylineOfNulls) (reverse : Bool) : Bool :=
  match skylineofNulls with
  | .default => reverse
  | .first => true
  | .last => false

/-- How `addTargetToSkylineList` asks whether an item is already present. -/
abbrev DuplicateTest (E : Type) := TargetEntry E → Oid → List SkylineOf → Bool

/-- `addTargetToSkylineList` with the duplicate test as a parameter. -/
def addTargetWith (isInList : DuplicateTest E) (catalog : Catalog D)
    (analysis : ExprAnalysis N E) (resolveUnknown : Bool) (item : SkylineOfExpr N) (pos : Nat)
    (skylinelist : List SkylineOf) (targetlist : List (TargetEntry E)) :
    Except Fault (List SkylineOf × List (TargetEntry E)) :=
  match targetlist[pos]? with
  | none => .error .invalidRead
  | some entry => do
      let (tle, restype) := resolveUnknownTarget analysis resolveUnknown entry
      let targetlist := targetlist.set pos tle
      let (skylineop, reverse) ← determineSkylineop catalog restype item.skylineofDir item.useOp
      if isInList tle skylineop skylinelist then return (skylinelist, targetlist)
      else
        let ref := assignSortGroupRef tle targetlist
        let skylineof : SkylineOf :=
          { tleSortGroupRef := ref, restype := restype, skylineop := skylineop,
            nullsFirst := item.skylineofNulls.nullsFirst reverse,
            skylineofDir := item.skylineofDir }
        return (skylinelist ++ [skylineof],
          targetlist.set pos { tle with ressortgroupref := ref })

/-- The loop of `transformSkylineClause` with the duplicate test as a parameter. -/
def transformItemsWith [DecidableEq E] (isInList : DuplicateTest E) (catalog : Catalog D)
    (analysis : ExprAnalysis N E) (resolveUnknown : Bool) :
    List (SkylineOfExpr N) → List SkylineOf → ParseState E →
      Except Fault (List SkylineOf × ParseState E)
  | [], resultlist, pstate => .ok (resultlist, pstate)
  | item :: rest, resultlist, pstate => do
      let (pos, pstate) ← findTargetlistEntry analysis item.node pstate
      let (resultlist, targetlist) ← addTargetWith isInList catalog analysis resolveUnknown item
        pos resultlist pstate.targetlist
      transformItemsWith isInList catalog analysis resolveUnknown rest resultlist
        { pstate with targetlist := targetlist }

structure SkylineOfClause (N : Type) where
  skylineDistinct : Bool
  skylineOfList : List (SkylineOfExpr N)
  skylineOfOptions : List SkylineOption
  deriving DecidableEq, Repr

structure SkylineClause where
  skylineDistinct : Bool
  skylineOfList : List SkylineOf
  skylineOfOptions : List SkylineOption
  deriving DecidableEq, Repr

/-- The transformation of a clause with some duplicate test. -/
def transformClauseWith [DecidableEq E] (isInList : DuplicateTest E) (catalog : Catalog D)
    (analysis : ExprAnalysis N E) (resolveUnknown : Bool) (sbc : SkylineOfClause N)
    (pstate : ParseState E) : Except Fault (SkylineClause × ParseState E) := do
  let (resultlist, pstate) ← transformItemsWith isInList catalog analysis resolveUnknown
    sbc.skylineOfList [] pstate
  return (⟨sbc.skylineDistinct, resultlist, sbc.skylineOfOptions⟩, pstate)

/-- `transformSkylineClause` for a query that has the clause. -/
def transformSkylineClause [DecidableEq E] (catalog : Catalog D) (analysis : ExprAnalysis N E)
    (resolveUnknown : Bool) (sbc : SkylineOfClause N) (pstate : ParseState E) :
    Except Fault (SkylineClause × ParseState E) :=
  transformClauseWith (targetIsInSkylineList catalog) catalog analysis resolveUnknown sbc pstate

/-- The reference: the same transformation with no item dropped. -/
def transformEveryItem [DecidableEq E] (catalog : Catalog D) (analysis : ExprAnalysis N E)
    (resolveUnknown : Bool) (sbc : SkylineOfClause N) (pstate : ParseState E) :
    Except Fault (SkylineClause × ParseState E) :=
  transformClauseWith (fun _ _ _ => false) catalog analysis resolveUnknown sbc pstate

/-! ## Columns of the executor -/

/-- `get_skylineclause_tle`. -/
def getSkylineclauseTle (skylineof : SkylineOf) (targetList : List (TargetEntry E)) :
    Except Fault (TargetEntry E) :=
  match targetList.find? fun tle => tle.ressortgroupref == skylineof.tleSortGroupRef with
  | some tle => .ok tle
  | none => .error (.elog "ORDER/GROUP BY/SKYLINE OF expression not found in targetlist")

/-- One column of `make_skyline`, with the compare function
`ExecSkylineCacheCompareFunctionInfo` selects for it. -/
def makeSkylineCol (catalog : Catalog D) (targetList : List (TargetEntry E))
    (skylineof : SkylineOf) : Except Fault (SkylineCol D) := do
  let tle ← getSkylineclauseTle skylineof targetList
  let (compareOpFn, compareFlags) ←
    catalog.selectSortFunction skylineof.skylineop skylineof.nullsFirst
  return ⟨tle.resno, compareOpFn, compareFlags, skylineof.skylineofDir⟩

/-- The columns of `make_skyline`. -/
def makeSkylineCols (catalog : Catalog D) (targetList : List (TargetEntry E))
    (skylinecls : List SkylineOf) : Except Fault (List (SkylineCol D)) :=
  skylinecls.mapM (makeSkylineCol catalog targetList)

end PgSkyline
