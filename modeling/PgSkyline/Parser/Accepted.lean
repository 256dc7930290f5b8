import PgSkyline.Lib.Ensures
import PgSkyline.Parser.Result
import PgSkyline.Parser.Unambiguous
import PgSkyline.Parser.Written

/-!
# The clauses that the grammar accepts

A text is read as at most one clause, and the clauses that have a text are those with an
item, a direction for every item, and an operator exactly for USING.  On such a clause the
transformation meets no failing assertion: it returns, or it reports an error.
-/

namespace PgSkyline

open Derivation Fallible

variable {N E D : Type}

/-! ## The clauses that can be written -/

/-- An operator is given exactly for USING, and there is a direction. -/
def SkylineOfExpr.CanBeWritten (item : SkylineOfExpr N) : Prop :=
  match item.skylineofDir with
  | .default => False
  | .min | .max | .diff => item.useOp = []
  | .using => item.useOp ≠ []

/-- A number fits in the 32 bits of the lexer, without its sign. -/
def SkylineOption.CanBeWritten (option : SkylineOption) : Prop :=
  match option.value with
  | .integer value => value.natAbs < 2 ^ 31
  | .float _ | .string _ => True

/-- The clauses of the grammar. -/
def SkylineOfClause.CanBeWritten (clause : SkylineOfClause N) : Prop :=
  clause.skylineOfList ≠ [] ∧ (∀ item ∈ clause.skylineOfList, item.CanBeWritten) ∧
    ∀ option ∈ clause.skylineOfOptions, option.CanBeWritten

theorem OptNullsOrder.exists_text (nulls : SkylineOfNulls) :
    ∃ tokens : List (SqlToken N), OptNullsOrder tokens nulls := by
  cases nulls with
  | default => exact ⟨_, .empty⟩
  | first => exact ⟨_, .nullsFirst⟩
  | last => exact ⟨_, .nullsLast⟩

private theorem exists_anyOperator {names : List String} (nonempty : names ≠ []) :
    ∃ tokens : List (SqlToken N), AnyOperator tokens names := by
  induction names with
  | nil => exact absurd rfl nonempty
  | cons name names ih =>
      by_cases isNil : names = []
      · rw [isNil]
        exact ⟨[.op name], .allOp rfl⟩
      · rcases ih isNil with ⟨tokens, derived⟩
        exact ⟨.ident name :: .dot :: tokens, .qualified rfl derived⟩

theorem AnyOperator.ne_nil {tokens : List (SqlToken N)} {names : List String}
    (derived : AnyOperator tokens names) : names ≠ [] := by
  cases derived <;> simp

theorem QualAllOp.ne_nil {tokens : List (SqlToken N)} {names : List String}
    (derived : QualAllOp tokens names) : names ≠ [] := by
  cases derived with
  | allOp _ => simp
  | operator operator => exact operator.ne_nil

private theorem identDir_eq_some {name : String} {dir : SkylineOfDir}
    (isDir : identDir name = some dir) : dir = .min ∨ dir = .max ∨ dir = .diff := by
  unfold identDir at isDir
  split_ifs at isDir <;> simp_all

private theorem exists_skylineOfExpr_iff (item : SkylineOfExpr N) :
    (∃ tokens, SkylineOfExprRule tokens item) ↔ item.CanBeWritten := by
  constructor
  · rintro ⟨tokens, derived⟩
    cases derived with
    | direction isDir _ => rcases identDir_eq_some isDir with rfl | rfl | rfl <;> rfl
    | usingOp operator _ => exact operator.ne_nil
  · intro written
    rcases item with ⟨node, dir, nulls, useOp⟩
    rcases OptNullsOrder.exists_text (N := N) nulls with ⟨tokens, ordered⟩
    cases dir with
    | default => exact written.elim
    | min =>
        cases (written : useOp = [])
        exact ⟨_, .direction (show identDir "min" = some .min from rfl) ordered⟩
    | max =>
        cases (written : useOp = [])
        exact ⟨_, .direction (show identDir "max" = some .max from rfl) ordered⟩
    | diff =>
        cases (written : useOp = [])
        exact ⟨_, .direction (show identDir "diff" = some .diff from rfl) ordered⟩
    | «using» =>
        rcases exists_anyOperator (N := N) (written : useOp ≠ []) with ⟨names, derived⟩
        exact ⟨_, .usingOp (.operator derived) ordered⟩

private theorem exists_numericOnly_integer {value : Int} (fits : value.natAbs < 2 ^ 31) :
    ∃ tokens : List (SqlToken N), NumericOnly tokens (.integer value) := by
  rcases Int.natAbs_eq value with positive | negative
  · rw [positive]
    exact ⟨_, .iconst ⟨value.natAbs, fits⟩⟩
  · rw [negative]
    exact ⟨_, .minusIconst ⟨value.natAbs, fits⟩⟩

private theorem exists_varValue {value : AConst}
    (fits : ∀ number, value = .integer number → number.natAbs < 2 ^ 31) :
    ∃ tokens : List (SqlToken N), VarValue tokens value := by
  cases value with
  | integer number =>
      rcases exists_numericOnly_integer (N := N) (fits number rfl) with ⟨tokens, derived⟩
      exact ⟨tokens, .numericOnly derived⟩
  | float text => exact ⟨_, .numericOnly (.fconst text)⟩
  | string text => exact ⟨_, .sconst text⟩

theorem VarValue.natAbs_lt {tokens : List (SqlToken N)} {number : Int}
    (derived : VarValue tokens (.integer number)) : number.natAbs < 2 ^ 31 := by
  cases derived with
  | numericOnly number =>
      cases number with
      | iconst value => simp
      | minusIconst value => simp

private theorem exists_skylineOption_iff (option : SkylineOption) :
    (∃ tokens : List (SqlToken N), SkylineOptionRule tokens option) ↔ option.CanBeWritten := by
  rcases option with ⟨name, value⟩
  constructor
  · rintro ⟨tokens, derived⟩
    cases derived with
    | name _ => exact (by decide : (1 : Int).natAbs < 2 ^ 31)
    | value _ valued =>
        cases value with
        | integer number => exact valued.natAbs_lt
        | float text => exact True.intro
        | string text => exact True.intro
  · intro written
    have fits : ∀ number, value = .integer number → number.natAbs < 2 ^ 31 := by
      rintro number rfl
      exact written
    rcases exists_varValue (N := N) fits with ⟨tokens, valued⟩
    have named : VarName [(.ident name : SqlToken N)] name := .colId rfl
    exact ⟨_, .value named valued⟩

theorem exists_skylineOfList_iff (items : List (SkylineOfExpr N)) :
    (∃ tokens, SkylineOfList tokens items) ↔
      items ≠ [] ∧ ∀ item ∈ items, item.CanBeWritten := by
  rw [SkylineOfList, exists_listed_iff]
  simp only [exists_skylineOfExpr_iff]

theorem exists_optSkylineOptions_iff (options : List SkylineOption) :
    (∃ tokens : List (SqlToken N), OptSkylineOptions tokens options) ↔
      ∀ option ∈ options, option.CanBeWritten := by
  have listed : (∃ tokens : List (SqlToken N), Listed [] SkylineOptionRule tokens options) ↔
      options ≠ [] ∧ ∀ option ∈ options, ∃ tokens : List (SqlToken N),
        SkylineOptionRule tokens option := exists_listed_iff
  simp only [exists_skylineOption_iff] at listed
  constructor
  · rintro ⟨tokens, derived⟩
    cases derived with
    | withOptions derived => exact (listed.mp ⟨_, derived⟩).2
    | empty => simp
  · intro written
    by_cases isNil : options = []
    · rw [isNil]
      exact ⟨[], .empty⟩
    · rcases listed.mpr ⟨isNil, written⟩ with ⟨tokens, derived⟩
      exact ⟨_, .withOptions derived⟩

theorem exists_skylineClause_iff (clause : SkylineOfClause N) :
    (∃ tokens, SkylineClauseRule tokens (some clause)) ↔ clause.CanBeWritten := by
  rcases clause with ⟨distinct, items, options⟩
  constructor
  · rintro ⟨tokens, derived⟩
    cases derived with
    | skyline list opts =>
        rcases (exists_skylineOfList_iff items).mp ⟨_, list⟩ with ⟨nonempty, written⟩
        exact ⟨nonempty, written, (exists_optSkylineOptions_iff options).mp ⟨_, opts⟩⟩
    | distinct list opts =>
        rcases (exists_skylineOfList_iff items).mp ⟨_, list⟩ with ⟨nonempty, written⟩
        exact ⟨nonempty, written, (exists_optSkylineOptions_iff options).mp ⟨_, opts⟩⟩
  · rintro ⟨nonempty, written, optionsWritten⟩
    rcases (exists_skylineOfList_iff items).mpr ⟨nonempty, written⟩ with ⟨tokens, list⟩
    rcases (exists_optSkylineOptions_iff (N := N) options).mpr optionsWritten with ⟨later, opts⟩
    cases distinct with
    | false => exact ⟨_, .skyline list opts⟩
    | true => exact ⟨_, .distinct list opts⟩

/-- A text is read as at most one clause, whatever follows it; and the clauses that the
grammar builds are exactly those that can be written. -/
theorem skylineClause_grammar :
    (∀ (text text' rest rest' : List (SqlToken N)) (clause clause' : Option (SkylineOfClause N)),
      SkylineClauseRule text clause → SkylineClauseRule text' clause' →
      Avoids GoesOnClause rest → Avoids GoesOnClause rest' → text ++ rest = text' ++ rest' →
        clause = clause' ∧ text = text') ∧
    ∀ clause : SkylineOfClause N,
      (∃ text, SkylineClauseRule text (some clause)) ↔ clause.CanBeWritten := by
  constructor
  · intro text text' rest rest' clause clause' first second follows follows' same
    exact ⟨(skylineClause_unambiguous first second follows follows' same).1,
      skylineClause_unambiguous.text_eq first second follows follows' same⟩
  · exact exists_skylineClause_iff

/-- `SKYLINE OF DISTINCT a USING OPERATOR(pg_catalog.<) NULLS LAST WITH bnl slots=-1`. -/
def usingText : List (SqlToken Nat) :=
  [.skyline, .of, .distinct, .cExpr (.other 1), .using, .operator, .leftParen,
    .ident "pg_catalog", .dot, .op "<", .rightParen, .nullsLast, .withP, .ident "bnl",
    .ident "slots", .equals, .minus, .iconst 1]

def usingClause : SkylineOfClause Nat :=
  ⟨true, [⟨.other 1, .using, .last, ["pg_catalog", "<"]⟩],
    [⟨"bnl", .integer 1⟩, ⟨"slots", .integer (-1)⟩]⟩

theorem skylineClauseRule_using : SkylineClauseRule usingText (some usingClause) := by
  have operator : AnyOperator (N := Nat) [.ident "pg_catalog", .dot, .op "<"]
      ["pg_catalog", "<"] := .qualified rfl (.allOp rfl)
  have item : SkylineOfExprRule _ (⟨.other 1, .using, .last, ["pg_catalog", "<"]⟩ :
      SkylineOfExpr Nat) := .usingOp (.operator operator) .nullsLast
  have bnl : SkylineOptionRule (N := Nat) [.ident "bnl"] ⟨"bnl", .integer 1⟩ :=
    .name (.colId rfl)
  have slots : SkylineOptionRule (N := Nat) [.ident "slots", .equals, .minus, .iconst 1]
      ⟨"slots", .integer (-1)⟩ := .value (.colId rfl) (.numericOnly (.minusIconst 1))
  exact .distinct (.single item) (.withOptions (.append (.single bnl) slots))

theorem skylineClause_grammar_using :
    usingClause.CanBeWritten ∧
      ¬ SkylineClauseRule usingText (some { usingClause with skylineDistinct := false }) := by
  constructor
  · exact (skylineClause_grammar.2 usingClause).mp ⟨usingText, skylineClauseRule_using⟩
  · intro other
    have same := (skylineClause_grammar.1 usingText usingText [] [] _ _ skylineClauseRule_using
      other (by simp) (by simp) rfl).1
    simp [usingClause] at same

/-! ## The transformation of a clause that was written -/

/-- The statement is aborted with a message. -/
def IsReport (fault : Fault) : Prop :=
  ∃ message, fault = .elog message

/-- The routines that are given report their errors. -/
structure ReportsErrors (catalog : Catalog D) (analysis : ExprAnalysis N E) : Prop where
  transformExpr : ∀ node, Ensures (analysis.transformExpr node) (fun _ => True) IsReport
  compatibleOperOpid : ∀ opname argtype,
    Ensures (catalog.compatibleOperOpid opname argtype) (fun _ => True) IsReport

section Search

variable [DecidableEq E] {catalog : Catalog D} {analysis : ExprAnalysis N E}
  (reports : ReportsErrors catalog analysis)

private theorem findName_ensures (name : String) (tlist : List (TargetEntry E)) (pos : Nat)
    (found : Option (Nat × TargetEntry E)) :
    Ensures (findName name tlist pos found) (fun _ => True) IsReport := by
  induction tlist generalizing pos found with
  | nil => exact True.intro
  | cons tle rest ih =>
      unfold findName
      split
      · split
        · split
          · exact ⟨_, rfl⟩
          · exact ih _ _
        · exact ih _ _
      · exact ih _ _

include reports

theorem findExpr_ensures (node : Node N) (pstate : ParseState E) :
    Ensures (findExpr analysis node pstate) (fun _ => True) IsReport := by
  rw [findExpr]
  refine (reports.transformExpr node).bind fun expr _ => ?_
  split <;> exact True.intro

private theorem findTargetlistEntry_reports (node : Node N) (pstate : ParseState E) :
    Ensures (findTargetlistEntry analysis node pstate) (fun _ => True) IsReport := by
  unfold findTargetlistEntry
  split
  · refine (findName_ensures _ _ _ _).bind fun found _ => ?_
    cases found with
    | none => exact findExpr_ensures reports _ _
    | some pos => exact True.intro
  · split
    · exact True.intro
    · exact ⟨_, rfl⟩
  · exact ⟨_, rfl⟩
  · exact findExpr_ensures reports _ _

/-- The entry that is found is there. -/
theorem findTargetlistEntry_ensures (node : Node N) (pstate : ParseState E) :
    Ensures (findTargetlistEntry analysis node pstate)
      (fun found => ∃ entry, found.2.targetlist[found.1]? = some entry) IsReport := by
  have ensures := findTargetlistEntry_reports reports node pstate
  cases search : findTargetlistEntry analysis node pstate with
  | error fault => exact ensures.error search
  | ok found =>
      have same : SameColumns analysis false pstate.targetlist pstate.targetlist := .refl _
      rcases (findTargetlistEntry_itemExpr same search).2 with ⟨entry, _, atPos, _⟩
      exact ⟨entry, atPos⟩

end Search

theorem orderingOperOpid_ensures (catalog : Catalog D) (argtype : Oid) :
    Ensures (catalog.orderingOperOpid argtype) (fun _ => True) IsReport := by
  unfold Catalog.orderingOperOpid
  split
  · exact True.intro
  · exact ⟨_, rfl⟩

private theorem reverseOrderingOperOpid_ensures (catalog : Catalog D) (argtype : Oid) :
    Ensures (catalog.reverseOrderingOperOpid argtype) (fun _ => True) IsReport := by
  unfold Catalog.reverseOrderingOperOpid
  split
  · exact True.intro
  · exact ⟨_, rfl⟩

private theorem getCompareFunction_ensures (catalog : Catalog D) (opno : Oid) :
    Ensures (catalog.getCompareFunctionForOrderingOp opno) (fun _ => True) IsReport := by
  unfold Catalog.getCompareFunctionForOrderingOp
  split
  · exact True.intro
  · split
    · exact ⟨_, rfl⟩
    · exact True.intro

/-- The items have a direction. -/
def Directed (items : List SkylineOf) : Prop :=
  ∀ item ∈ items, item.skylineofDir ≠ .default

section Transform

variable {catalog : Catalog D} {analysis : ExprAnalysis N E}
  (reports : ReportsErrors catalog analysis)

include reports

/-- The grammar gives an operator to every USING. -/
theorem determineSkylineop_ensures {item : SkylineOfExpr N} (written : item.CanBeWritten)
    (restype : Oid) :
    Ensures (determineSkylineop catalog restype item.skylineofDir item.useOp) (fun _ => True)
      IsReport := by
  rcases item with ⟨node, dir, nulls, useOp⟩
  cases dir with
  | default => exact written.elim
  | min => exact (orderingOperOpid_ensures catalog restype).bind fun _ _ => True.intro
  | max => exact (reverseOrderingOperOpid_ensures catalog restype).bind fun _ _ => True.intro
  | diff => exact (orderingOperOpid_ensures catalog restype).bind fun _ _ => True.intro
  | «using» =>
      have nonempty : useOp ≠ [] := written
      have given : (!useOp.isEmpty) = true := by simpa using nonempty
      simp only [determineSkylineop, given, assertThat_true, ok_bind]
      refine (reports.compatibleOperOpid useOp restype).bind fun skylineop _ => ?_
      refine (getCompareFunction_ensures catalog skylineop).bind fun compare _ => ?_
      cases compare with
      | none => exact ⟨_, rfl⟩
      | some compare => exact True.intro

private theorem addTarget_ensures {item : SkylineOfExpr N} (written : item.CanBeWritten)
    (resolveUnknown : Bool) {pos : Nat} {targetlist : List (TargetEntry E)} {entry : TargetEntry E}
    (atPos : targetlist[pos]? = some entry) {skylinelist : List SkylineOf}
    (directed : Directed skylinelist) :
    Ensures (addTargetWith (targetIsInSkylineList catalog) catalog analysis resolveUnknown item pos
      skylinelist targetlist) (fun added => added.1 ≠ [] ∧ Directed added.1) IsReport := by
  unfold addTargetWith
  simp only [atPos]
  rcases resolveUnknownTarget analysis resolveUnknown entry with ⟨tle, restype⟩
  refine (determineSkylineop_ensures reports written restype).bind fun chosen _ => ?_
  rcases chosen with ⟨skylineop, reverse⟩
  by_cases present : targetIsInSkylineList catalog tle skylineop skylinelist = true
  · simp only [present, if_true, ensures_pure_iff]
    refine ⟨?_, directed⟩
    rintro rfl
    simp [targetIsInSkylineList] at present
  · simp only [present]
    refine ⟨by simp, fun new mem => ?_⟩
    rcases List.mem_append.mp mem with old | new
    · exact directed _ old
    · rw [List.mem_singleton.mp new]
      intro isDefault
      have direction : item.skylineofDir = .default := isDefault
      rw [SkylineOfExpr.CanBeWritten, direction] at written
      exact written

private theorem transformItems_ensures [DecidableEq E] {items : List (SkylineOfExpr N)}
    (written : ∀ item ∈ items, item.CanBeWritten) (resolveUnknown : Bool)
    {resultlist : List SkylineOf} (directed : Directed resultlist)
    (some : items ≠ [] ∨ resultlist ≠ []) (pstate : ParseState E) :
    Ensures (transformItemsWith (targetIsInSkylineList catalog) catalog analysis resolveUnknown
      items resultlist pstate) (fun result => result.1 ≠ [] ∧ Directed result.1) IsReport := by
  induction items generalizing resultlist pstate with
  | nil =>
      rcases some with absurd | nonempty
      · exact (absurd rfl).elim
      · exact ⟨nonempty, directed⟩
  | cons item items ih =>
      rw [transformItemsWith]
      refine (findTargetlistEntry_ensures reports item.node pstate).bind ?_
      rintro ⟨pos, found⟩ ⟨entry, atPos⟩
      refine (addTarget_ensures reports (written item List.mem_cons_self) resolveUnknown atPos
        directed).bind ?_
      rintro ⟨resultlist', targetlist⟩ ⟨nonempty, directed'⟩
      exact ih (fun other mem => written other (List.mem_cons_of_mem item mem)) directed'
        (Or.inr nonempty) _

end Transform

/-- A clause that was read from a text is transformed into one with items, all of which
have a direction, or rejected with a message; no assertion fails. -/
theorem transformSkylineClause_of_text [DecidableEq E] {catalog : Catalog D}
    {analysis : ExprAnalysis N E} (reports : ReportsErrors catalog analysis)
    {text : List (SqlToken N)} {sbc : SkylineOfClause N}
    (read : SkylineClauseRule text (some sbc)) (resolveUnknown : Bool) (pstate : ParseState E) :
    Ensures (transformSkylineClause catalog analysis resolveUnknown sbc pstate)
      (fun transformed => transformed.1.skylineOfList ≠ [] ∧ Directed transformed.1.skylineOfList ∧
        transformed.1.skylineDistinct = sbc.skylineDistinct ∧
        transformed.1.skylineOfOptions = sbc.skylineOfOptions) IsReport := by
  rcases (exists_skylineClause_iff sbc).mp ⟨text, read⟩ with ⟨nonempty, written, _⟩
  have noItems : Directed [] := by simp [Directed]
  have items := transformItems_ensures reports written resolveUnknown noItems (Or.inl nonempty)
    pstate
  rw [transformSkylineClause, transformClauseWith]
  refine items.bind ?_
  rintro ⟨resultlist, pstate'⟩ ⟨some, directed⟩
  exact ⟨some, directed, rfl, rfl⟩

/-- `SKYLINE OF a MIN, b USING < WITH slots=8`. -/
theorem transformSkylineClause_of_text_slots :
    ∃ (text : List (SqlToken Nat)) (sbc : SkylineOfClause Nat),
      SkylineClauseRule text (some sbc) ∧ sbc.skylineOfOptions = [⟨"slots", .integer 8⟩] ∧
      Ensures (transformSkylineClause integerCatalog integerAnalysis true sbc selectAB)
        (fun transformed => transformed.1.skylineOfOptions = [⟨"slots", .integer 8⟩]) IsReport := by
  have reports : ReportsErrors integerCatalog integerAnalysis := by
    refine ⟨fun node => ?_, fun opname argtype => ?_⟩
    · cases node with
      | columnRef _ => exact ⟨_, rfl⟩
      | aConst _ => exact ⟨_, rfl⟩
      | other column => exact True.intro
    · simp only [integerCatalog]
      split
      · exact True.intro
      · split
        · exact True.intro
        · exact ⟨_, rfl⟩
  have first : SkylineOfExprRule [.cExpr (.other 1), .ident "min"]
      (⟨.other 1, .min, .default, []⟩ : SkylineOfExpr Nat) := .direction rfl .empty
  have second : SkylineOfExprRule [.cExpr (.other 2), .using, .op "<"]
      (⟨.other 2, .using, .default, ["<"]⟩ : SkylineOfExpr Nat) := .usingOp (.allOp rfl) .empty
  have slots : SkylineOptionRule (N := Nat) [.ident "slots", .equals, .iconst 8]
      ⟨"slots", .integer 8⟩ := .value (.colId rfl) (.numericOnly (.iconst 8))
  have read := SkylineClauseRule.skyline (.append (.single first) second)
    (.withOptions (.single slots))
  refine ⟨_, _, read, rfl, ?_⟩
  refine (transformSkylineClause_of_text reports read true selectAB).mono ?_
  rintro transformed ⟨_, _, _, sameOptions⟩
  exact sameOptions

end PgSkyline
