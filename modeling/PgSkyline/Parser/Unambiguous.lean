import PgSkyline.Parser.Grammar

/-!
# A text is read as at most one clause

Every rule of the grammar is unambiguous before the tokens that do not go on with it.  What
stands behind a skyline clause starts with ORDER, LIMIT, OFFSET, FOR, a set operation,
RETURNING, WITH CHECK (one token), a parenthesis or a semicolon, or there is nothing; none
of these goes on with a clause.
-/

namespace PgSkyline

open Derivation

variable {N : Type}

/-! ## Options are read in one way -/

/-- `ColId` as a rule. -/
def ColId : Rule (SqlToken N) String := fun tokens name =>
  ∃ token, tokens = [token] ∧ token.colId = some name

/-- The name that `var_name` puts together. -/
def joinNames : List String → String
  | [] => ""
  | name :: fields => fields.foldl (fun name field => name ++ "." ++ field) name

private theorem joinNames_concat {names : List String} (nonempty : names ≠ []) (field : String) :
    joinNames (names ++ [field]) = joinNames names ++ "." ++ field := by
  cases names with
  | nil => exact absurd rfl nonempty
  | cons name fields => simp [joinNames]

theorem VarName.exists_listed {tokens : List (SqlToken N)} {name : String}
    (derived : VarName tokens name) :
    ∃ names, Listed [.dot] ColId tokens names ∧ joinNames names = name := by
  induction derived with
  | colId isColId => exact ⟨_, .single ⟨_, rfl, isColId⟩, rfl⟩
  | @qualified tokens name field token _ isColId ih =>
      rcases ih with ⟨names, listed, rfl⟩
      have nonempty := (exists_listed_iff.mp ⟨_, listed⟩).1
      refine ⟨names ++ [field], ?_, joinNames_concat nonempty field⟩
      exact .append listed ⟨token, rfl, isColId⟩

private theorem colId_unambiguous : Unambiguous (fun _ => True) (ColId (N := N)) := by
  rintro text name rest text' name' rest' ⟨token, rfl, isColId⟩ ⟨token', rfl, isColId'⟩ _ _ same
  simp only [List.cons_append, List.nil_append, List.cons.injEq] at same
  rcases same with ⟨rfl, rfl⟩
  rw [isColId] at isColId'
  exact ⟨Option.some.inj isColId', rfl⟩

theorem varName_unambiguous : Unambiguous (Avoids (· = .dot)) (VarName (N := N)) := by
  refine Unambiguous.image ?_ joinNames fun _ _ derived => derived.exists_listed
  refine Listed.unambiguous colId_unambiguous ?_ ?_ ?_
  · intro rest _
    exact True.intro
  · intro text name rest _
    exact True.intro
  · intro text name rest _
    simp

/-- An option starts with a `ColId`. -/
theorem VarName.exists_cons {tokens : List (SqlToken N)} {name : String}
    (derived : VarName tokens name) :
    ∃ token later, tokens = token :: later ∧ token.colId.isSome := by
  induction derived with
  | colId isColId => exact ⟨_, [], rfl, Option.isSome_of_eq_some isColId⟩
  | qualified _ _ ih =>
      rcases ih with ⟨token, later, rfl, isColId⟩
      exact ⟨token, _, rfl, isColId⟩

private theorem numericOnly_unambiguous : Unambiguous (fun _ => True) (NumericOnly (N := N)) := by
  intro text value rest text' value' rest' first second _ _ same
  cases first <;> cases second <;> simp_all

theorem colId_eq_none_of_optBoolean {token : SqlToken N} {text : String}
    (isBoolean : token.optBoolean = some text) : token.colId = none := by
  cases token <;> simp_all [SqlToken.optBoolean, SqlToken.colId]

/-- A number starts with none of the other values. -/
theorem NumericOnly.exists_cons {tokens : List (SqlToken N)} {value : AConst}
    (derived : NumericOnly tokens value) :
    ∃ token later, tokens = token :: later ∧ token.colId = none ∧ token.optBoolean = none ∧
      ∀ text, token ≠ .sconst text := by
  cases derived <;> exact ⟨_, _, rfl, rfl, rfl, by simp⟩

private theorem varValue_unambiguous : Unambiguous (fun _ => True) (VarValue (N := N)) := by
  intro text value rest text' value' rest' first second _ _ same
  cases first with
  | optBoolean isBoolean =>
      have notColId := colId_eq_none_of_optBoolean isBoolean
      cases second with
      | optBoolean isBoolean' => simp_all
      | colId isColId => simp_all
      | sconst text => simp_all [SqlToken.optBoolean]
      | numericOnly number =>
          rcases number.exists_cons with ⟨token, later, rfl, _, notBoolean, _⟩
          simp_all
  | colId isColId =>
      cases second with
      | optBoolean isBoolean =>
          have notColId := colId_eq_none_of_optBoolean isBoolean
          simp_all
      | colId isColId' => simp_all
      | sconst text => simp_all [SqlToken.colId]
      | numericOnly number =>
          rcases number.exists_cons with ⟨token, later, rfl, notColId, _, _⟩
          simp_all
  | sconst text =>
      cases second with
      | optBoolean isBoolean =>
          rcases List.cons.inj same with ⟨rfl, _⟩
          cases isBoolean
      | colId isColId =>
          rcases List.cons.inj same with ⟨rfl, _⟩
          cases isColId
      | sconst text' => simp_all
      | numericOnly number =>
          rcases number.exists_cons with ⟨token, later, rfl, _, _, notString⟩
          exact absurd (List.cons.inj same).1.symm (notString text)
  | numericOnly number =>
      rcases number.exists_cons with ⟨token, later, rfl, notColId, notBoolean, notString⟩
      cases second with
      | optBoolean isBoolean => simp_all
      | colId isColId => simp_all
      | sconst text' => simp_all
      | numericOnly number' =>
          exact numericOnly_unambiguous number number' True.intro True.intro same

/-- A further part of an option. -/
def GoesOnOption (token : SqlToken N) : Prop :=
  token = .dot ∨ token = .equals

private theorem skylineOption_unambiguous :
    Unambiguous (Avoids GoesOnOption) (SkylineOptionRule (N := N)) := by
  intro text option rest text' option' rest' first second follows follows' same
  have noDot : ∀ {later : List (SqlToken N)}, Avoids GoesOnOption later → Avoids (· = .dot) later :=
    fun avoids => avoids.mono fun _ isDot => Or.inl isDot
  cases first with
  | name named =>
      cases second with
      | name named' =>
          rcases varName_unambiguous named named' (noDot follows) (noDot follows') same with
            ⟨rfl, rfl⟩
          exact ⟨rfl, rfl⟩
      | value named' valued' =>
          rw [List.append_assoc] at same
          rcases varName_unambiguous named named' (noDot follows) (by simp) same with ⟨rfl, rfl⟩
          simp [GoesOnOption] at follows
  | value named valued =>
      rw [List.append_assoc] at same
      cases second with
      | name named' =>
          rcases varName_unambiguous named named' (by simp) (noDot follows') same with ⟨rfl, rfl⟩
          simp [GoesOnOption] at follows'
      | value named' valued' =>
          rw [List.append_assoc] at same
          rcases varName_unambiguous named named' (by simp) (by simp) same with ⟨rfl, sameValue⟩
          simp only [List.cons_append, List.cons.injEq, true_and] at sameValue
          rcases varValue_unambiguous valued valued' True.intro True.intro sameValue with
            ⟨rfl, rfl⟩
          exact ⟨rfl, rfl⟩

theorem SkylineOptionRule.exists_cons {tokens : List (SqlToken N)} {option : SkylineOption}
    (derived : SkylineOptionRule tokens option) :
    ∃ token later, tokens = token :: later ∧ token.colId.isSome := by
  cases derived with
  | name named => exact named.exists_cons
  | value named _ =>
      rcases named.exists_cons with ⟨token, later, rfl, isColId⟩
      exact ⟨token, _, rfl, isColId⟩

/-- A further part of an option, or a further option. -/
def GoesOnOptions (token : SqlToken N) : Prop :=
  GoesOnOption token ∨ token.colId.isSome

private theorem skylineOptions_unambiguous :
    Unambiguous (Avoids GoesOnOptions) (SkylineOptions (N := N)) := by
  refine Listed.unambiguous skylineOption_unambiguous ?_ ?_ ?_
  · intro rest follows
    exact follows.mono fun _ goesOn => Or.inl goesOn
  · intro tokens option rest derived
    rcases derived.exists_cons with ⟨token, later, rfl, isColId⟩
    rw [List.nil_append, List.cons_append, avoids_cons]
    rintro (rfl | rfl) <;> cases isColId
  · intro tokens option rest derived
    rcases derived.exists_cons with ⟨token, later, rfl, isColId⟩
    simp [GoesOnOptions, isColId]

/-- WITH is a name, so it may not follow the options. -/
theorem ne_with_of_avoids {rest later : List (SqlToken N)} (follows : Avoids GoesOnOptions rest) :
    rest ≠ .withP :: later := by
  rintro rfl
  simp [GoesOnOptions, SqlToken.colId] at follows

/-- Behind the items, options start with WITH. -/
theorem optSkylineOptions_unambiguous :
    Unambiguous (Avoids GoesOnOptions) (OptSkylineOptions (N := N)) := by
  intro text options rest text' options' rest' first second follows follows' same
  cases first with
  | withOptions derived =>
      cases second with
      | withOptions derived' =>
          simp only [List.cons_append, List.cons.injEq, true_and] at same
          exact skylineOptions_unambiguous derived derived' follows follows' same
      | empty => exact absurd same.symm (ne_with_of_avoids follows')
  | empty =>
      cases second with
      | withOptions _ => exact absurd same (ne_with_of_avoids follows)
      | empty => exact ⟨rfl, same⟩

/-! ## Items are read in one way -/

theorem allOp_eq_none_of_colId {token : SqlToken N} {name : String}
    (isColId : token.colId = some name) : token.allOp = none := by
  cases token <;> simp_all [SqlToken.allOp, SqlToken.colId]

/-- A text that starts with an operator does not start with a name. -/
theorem not_allOp_cons_eq {token token' : SqlToken N} {name name' : String}
    {rest rest' : List (SqlToken N)} (isOp : token.allOp = some name)
    (isColId : token'.colId = some name') : token :: rest ≠ token' :: rest' := by
  intro same
  rcases List.cons.inj same with ⟨rfl, _⟩
  rw [allOp_eq_none_of_colId isColId] at isOp
  cases isOp

private theorem anyOperator_unambiguous : Unambiguous (fun _ => True) (AnyOperator (N := N)) := by
  intro text names rest text' names' rest' first second _ _ same
  induction first generalizing text' names' with
  | allOp isOp =>
      cases second with
      | allOp isOp' => simp_all
      | qualified isColId _ => exact absurd same (not_allOp_cons_eq isOp isColId)
  | qualified isColId _ ih =>
      cases second with
      | allOp isOp => exact absurd same.symm (not_allOp_cons_eq isOp isColId)
      | qualified isColId' derived' =>
          simp only [List.cons_append, List.cons.injEq, true_and] at same
          rcases same with ⟨rfl, same⟩
          rcases ih derived' same with ⟨rfl, rfl⟩
          rw [isColId] at isColId'
          cases isColId'
          exact ⟨rfl, rfl⟩

private theorem qualAllOp_unambiguous : Unambiguous (fun _ => True) (QualAllOp (N := N)) := by
  intro text names rest text' names' rest' first second _ _ same
  cases first with
  | allOp isOp =>
      cases second with
      | allOp isOp' => simp_all
      | operator _ =>
          rcases List.cons.inj same with ⟨rfl, _⟩
          cases isOp
  | operator derived =>
      cases second with
      | allOp isOp =>
          rcases List.cons.inj same with ⟨rfl, _⟩
          cases isOp
      | operator derived' =>
          simp only [List.cons_append, List.cons.injEq, true_and, List.append_assoc] at same
          rcases anyOperator_unambiguous derived derived' True.intro True.intro same with
            ⟨rfl, sameRest⟩
          exact ⟨rfl, (List.cons.inj sameRest).2⟩

def GoesOnItem (token : SqlToken N) : Prop :=
  token = .nullsFirst ∨ token = .nullsLast

theorem optNullsOrder_unambiguous : Unambiguous (Avoids GoesOnItem) (OptNullsOrder (N := N)) := by
  intro text nulls rest text' nulls' rest' first second follows follows' same
  cases first <;> cases second <;> simp_all
  all_goals
    subst same
    simp [GoesOnItem] at follows follows'

private theorem skylineOfExpr_unambiguous :
    Unambiguous (Avoids GoesOnItem) (SkylineOfExprRule (N := N)) := by
  intro text item rest text' item' rest' first second follows follows' same
  cases first with
  | direction isDir ordered =>
      cases second with
      | direction isDir' ordered' =>
          simp only [List.cons_append, List.cons.injEq, SqlToken.cExpr.injEq,
            SqlToken.ident.injEq] at same
          rcases same with ⟨rfl, rfl, same⟩
          rcases optNullsOrder_unambiguous ordered ordered' follows follows' same with ⟨rfl, rfl⟩
          rw [isDir] at isDir'
          cases isDir'
          exact ⟨rfl, rfl⟩
      | usingOp _ _ => simp at same
  | usingOp operator ordered =>
      cases second with
      | direction _ _ => simp at same
      | usingOp operator' ordered' =>
          simp only [List.cons_append, List.cons.injEq, SqlToken.cExpr.injEq, true_and,
            List.append_assoc] at same
          rcases same with ⟨rfl, same⟩
          rcases qualAllOp_unambiguous operator operator' True.intro True.intro same with
            ⟨rfl, same⟩
          rcases optNullsOrder_unambiguous ordered ordered' follows follows' same with ⟨rfl, rfl⟩
          exact ⟨rfl, rfl⟩

/-- A further part of an item, or a further item. -/
def GoesOnList (token : SqlToken N) : Prop :=
  GoesOnItem token ∨ token = .comma

private theorem skylineOfList_unambiguous : Unambiguous (Avoids GoesOnList)
    (SkylineOfList (N := N)) := by
  refine Listed.unambiguous skylineOfExpr_unambiguous ?_ ?_ ?_
  · intro rest follows
    exact follows.mono fun _ goesOn => Or.inl goesOn
  · intro tokens item rest _
    simp [GoesOnItem]
  · intro tokens item rest _
    simp [GoesOnList]

/-! ## Clauses are read in one way -/

/-- The tokens that go on with a clause, or start one. -/
def GoesOnClause (token : SqlToken N) : Prop :=
  GoesOnList token ∨ GoesOnOptions token ∨ token = .skyline

theorem OptSkylineOptions.follows {tokens rest : List (SqlToken N)} {options : List SkylineOption}
    (derived : OptSkylineOptions tokens options) (behind : Avoids GoesOnList rest) :
    Avoids GoesOnList (tokens ++ rest) := by
  cases derived with
  | withOptions _ => simp [GoesOnList, GoesOnItem]
  | empty => exact behind

/-- A list starts with an expression. -/
theorem SkylineOfList.exists_cons {tokens : List (SqlToken N)} {items : List (SkylineOfExpr N)}
    (derived : SkylineOfList tokens items) : ∃ node later, tokens = .cExpr node :: later := by
  rcases derived.exists_first with ⟨first, item, later, more, rfl, _, derivedItem, _⟩
  cases derivedItem <;> exact ⟨_, _, rfl⟩

/-- The items and the options of a clause are read in one way. -/
theorem clauseBody_unique {tokens tokens' later later' rest rest' : List (SqlToken N)}
    {items items' : List (SkylineOfExpr N)} {options options' : List SkylineOption}
    (list : SkylineOfList tokens items) (list' : SkylineOfList tokens' items')
    (opts : OptSkylineOptions later options) (opts' : OptSkylineOptions later' options')
    (follows : Avoids GoesOnClause rest) (follows' : Avoids GoesOnClause rest')
    (same : tokens ++ (later ++ rest) = tokens' ++ (later' ++ rest')) :
    items = items' ∧ options = options' ∧ rest = rest' := by
  have endsList : ∀ {rest : List (SqlToken N)}, Avoids GoesOnClause rest → Avoids GoesOnList rest :=
    fun avoids => avoids.mono fun _ goesOn => Or.inl goesOn
  have endsOptions : ∀ {rest : List (SqlToken N)}, Avoids GoesOnClause rest →
      Avoids GoesOnOptions rest :=
    fun avoids => avoids.mono fun _ goesOn => Or.inr (Or.inl goesOn)
  rcases skylineOfList_unambiguous list list' (opts.follows (endsList follows))
    (opts'.follows (endsList follows')) same with ⟨rfl, same⟩
  rcases optSkylineOptions_unambiguous opts opts' (endsOptions follows) (endsOptions follows') same
    with ⟨rfl, rfl⟩
  exact ⟨rfl, rfl, rfl⟩

/-- What may follow a clause does not start with SKYLINE. -/
theorem ne_skyline_of_avoids {rest later : List (SqlToken N)}
    (follows : Avoids GoesOnClause rest) : rest ≠ .skyline :: later := by
  rintro rfl
  simp [GoesOnClause] at follows

theorem skylineClause_unambiguous :
    Unambiguous (Avoids GoesOnClause) (SkylineClauseRule (N := N)) := by
  intro text clause rest text' clause' rest' first second follows follows' same
  cases first with
  | skyline list opts =>
      cases second with
      | skyline list' opts' =>
          simp only [List.cons_append, List.cons.injEq, true_and, List.append_assoc] at same
          rcases clauseBody_unique list list' opts opts' follows follows' same with ⟨rfl, rfl, rfl⟩
          exact ⟨rfl, rfl⟩
      | distinct list' _ =>
          rcases list.exists_cons with ⟨node, later, rfl⟩
          simp at same
      | empty => exact absurd same.symm (ne_skyline_of_avoids follows')
  | distinct list opts =>
      cases second with
      | skyline list' _ =>
          rcases list'.exists_cons with ⟨node, later, rfl⟩
          simp at same
      | distinct list' opts' =>
          simp only [List.cons_append, List.cons.injEq, true_and, List.append_assoc] at same
          rcases clauseBody_unique list list' opts opts' follows follows' same with ⟨rfl, rfl, rfl⟩
          exact ⟨rfl, rfl⟩
      | empty => exact absurd same.symm (ne_skyline_of_avoids follows')
  | empty =>
      cases second with
      | skyline _ _ => exact absurd same (ne_skyline_of_avoids follows)
      | distinct _ _ => exact absurd same (ne_skyline_of_avoids follows)
      | empty => exact ⟨rfl, same⟩

end PgSkyline
