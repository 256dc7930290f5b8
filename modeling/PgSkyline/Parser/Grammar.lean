import PgSkyline.Lib.Derivation
import PgSkyline.Parser.Clause

/-!
# The grammar of SKYLINE OF

Translation of the rules of `parser/gram.y` from `skyline_clause` down to
`skyline_option`, with the rules for names, values, operators and NULLS FIRST that they
use.  Each nonterminal is the relation between its texts and the values that the actions
build for them.  An expression of `c_expr` counts as one token.
-/

namespace PgSkyline

open Derivation

variable {N : Type}

/-- The tokens of a clause.  `op` is `Op` or a `MathOp` other than `-` and `=`. -/
inductive SqlToken (N : Type) where
  | cExpr (node : Node N)
  | ident (name : String)
  /-- A keyword that is a `ColId`, other than OF, WITH and OPERATOR. -/
  | keyword (name : String)
  | of
  | withP
  | operator
  | skyline
  | distinct
  | using
  | trueP
  | falseP
  | on
  | off
  | nullsFirst
  | nullsLast
  | op (name : String)
  | minus
  | equals
  | sconst (text : String)
  | iconst (value : Fin (2 ^ 31))
  | fconst (text : String)
  | comma
  | dot
  | leftParen
  | rightParen
  /-- Any other keyword or character. -/
  | other (name : String)

namespace SqlToken

/-- `ColId`. -/
def colId : SqlToken N → Option String
  | .ident name => some name
  | .keyword name => some name
  | .of => some "of"
  | .withP => some "with"
  | .operator => some "operator"
  | _ => none

/-- `all_Op`. -/
def allOp : SqlToken N → Option String
  | .op name => some name
  | .minus => some "-"
  | .equals => some "="
  | _ => none

/-- `opt_boolean`. -/
def optBoolean : SqlToken N → Option String
  | .trueP => some "true"
  | .falseP => some "false"
  | .on => some "on"
  | .off => some "off"
  | _ => none

end SqlToken

/-! ## Options -/

/-- `var_name`. -/
inductive VarName : Rule (SqlToken N) String
  | colId {token : SqlToken N} {name : String} : token.colId = some name → VarName [token] name
  | qualified {tokens : List (SqlToken N)} {name field : String} {token : SqlToken N} :
      VarName tokens name → token.colId = some field →
      VarName (tokens ++ [.dot, token]) (name ++ "." ++ field)

/-- `doNegateFloat`. -/
def doNegateFloat (text : String) : String :=
  let oldval :=
    match text.toList with
    | '+' :: rest => rest
    | chars => chars
  match oldval with
  | '-' :: rest => String.ofList rest
  | chars => String.ofList ('-' :: chars)

/-- `NumericOnly`, with `FloatOnly`, `IntegerOnly` and `SignedIconst`. -/
inductive NumericOnly : Rule (SqlToken N) AConst
  | fconst (text : String) : NumericOnly [.fconst text] (.float text)
  | minusFconst (text : String) : NumericOnly [.minus, .fconst text] (.float (doNegateFloat text))
  | iconst (value : Fin (2 ^ 31)) : NumericOnly [.iconst value] (.integer value.val)
  | minusIconst (value : Fin (2 ^ 31)) :
      NumericOnly [.minus, .iconst value] (.integer (-(value.val : Int)))

/-- `var_value`. -/
inductive VarValue : Rule (SqlToken N) AConst
  | optBoolean {token : SqlToken N} {text : String} : token.optBoolean = some text →
      VarValue [token] (.string text)
  | colId {token : SqlToken N} {text : String} : token.colId = some text →
      VarValue [token] (.string text)
  | sconst (text : String) : VarValue [.sconst text] (.string text)
  | numericOnly {tokens : List (SqlToken N)} {value : AConst} : NumericOnly tokens value →
      VarValue tokens value

/-- `skyline_option`. -/
inductive SkylineOptionRule : Rule (SqlToken N) SkylineOption
  | name {tokens : List (SqlToken N)} {name : String} : VarName tokens name →
      SkylineOptionRule tokens ⟨name, .integer 1⟩
  | value {tokens later : List (SqlToken N)} {name : String} {value : AConst} :
      VarName tokens name → VarValue later value →
      SkylineOptionRule (tokens ++ .equals :: later) ⟨name, value⟩

/-- `skyline_options`. -/
def SkylineOptions : Rule (SqlToken N) (List SkylineOption) :=
  Listed [] SkylineOptionRule

/-- `opt_skyline_options`. -/
inductive OptSkylineOptions : Rule (SqlToken N) (List SkylineOption)
  | withOptions {tokens : List (SqlToken N)} {options : List SkylineOption} :
      SkylineOptions tokens options → OptSkylineOptions (.withP :: tokens) options
  | empty : OptSkylineOptions [] []

/-! ## Items -/

/-- `any_operator`. -/
inductive AnyOperator : Rule (SqlToken N) (List String)
  | allOp {token : SqlToken N} {name : String} : token.allOp = some name →
      AnyOperator [token] [name]
  | qualified {token : SqlToken N} {name : String} {tokens : List (SqlToken N)}
      {names : List String} : token.colId = some name → AnyOperator tokens names →
      AnyOperator (token :: .dot :: tokens) (name :: names)

/-- `qual_all_Op`. -/
inductive QualAllOp : Rule (SqlToken N) (List String)
  | allOp {token : SqlToken N} {name : String} : token.allOp = some name → QualAllOp [token] [name]
  | operator {tokens : List (SqlToken N)} {names : List String} : AnyOperator tokens names →
      QualAllOp (.operator :: .leftParen :: (tokens ++ [.rightParen])) names

/-- `opt_nulls_order`. -/
inductive OptNullsOrder : Rule (SqlToken N) SkylineOfNulls
  | nullsFirst : OptNullsOrder [.nullsFirst] .first
  | nullsLast : OptNullsOrder [.nullsLast] .last
  | empty : OptNullsOrder [] .default

/-- The direction an `IDENT` stands for; any other one is a syntax error. -/
def identDir (name : String) : Option SkylineOfDir :=
  if name = "min" then some .min
  else if name = "max" then some .max
  else if name = "diff" then some .diff
  else none

/-- `skyline_of_expr`. -/
inductive SkylineOfExprRule : Rule (SqlToken N) (SkylineOfExpr N)
  | direction {node : Node N} {name : String} {skylineofDir : SkylineOfDir}
      {tokens : List (SqlToken N)} {skylineofNulls : SkylineOfNulls} :
      identDir name = some skylineofDir → OptNullsOrder tokens skylineofNulls →
      SkylineOfExprRule (.cExpr node :: .ident name :: tokens)
        ⟨node, skylineofDir, skylineofNulls, []⟩
  | usingOp {node : Node N} {tokens later : List (SqlToken N)} {useOp : List String}
      {skylineofNulls : SkylineOfNulls} : QualAllOp tokens useOp →
      OptNullsOrder later skylineofNulls →
      SkylineOfExprRule (.cExpr node :: .using :: (tokens ++ later))
        ⟨node, .using, skylineofNulls, useOp⟩

/-- `skyline_of_list`. -/
def SkylineOfList : Rule (SqlToken N) (List (SkylineOfExpr N)) :=
  Listed [.comma] SkylineOfExprRule

/-- `skyline_clause`. -/
inductive SkylineClauseRule : Rule (SqlToken N) (Option (SkylineOfClause N))
  | skyline {tokens later : List (SqlToken N)} {skylineOfList : List (SkylineOfExpr N)}
      {skylineOfOptions : List SkylineOption} : SkylineOfList tokens skylineOfList →
      OptSkylineOptions later skylineOfOptions →
      SkylineClauseRule (.skyline :: .of :: (tokens ++ later))
        (some ⟨false, skylineOfList, skylineOfOptions⟩)
  | distinct {tokens later : List (SqlToken N)} {skylineOfList : List (SkylineOfExpr N)}
      {skylineOfOptions : List SkylineOption} : SkylineOfList tokens skylineOfList →
      OptSkylineOptions later skylineOfOptions →
      SkylineClauseRule (.skyline :: .of :: .distinct :: (tokens ++ later))
        (some ⟨true, skylineOfList, skylineOfOptions⟩)
  | empty : SkylineClauseRule [] none

end PgSkyline
