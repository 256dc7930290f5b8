import PgSkyline.Nodes.Tokens
import PgSkyline.Nodes.Core

/-!
# Writing and reading node trees

Translation of `nodes/outfuncs.c`, `nodes/read.c` and `nodes/readfuncs.c` as far as
the nodes of a skyline clause and its options need them.  The functions for nodes of
other types are parameters.
-/

namespace PgSkyline

variable {O : Type}

/-- The output and input functions of the other node types. -/
structure OtherNodes (O : Type) where
  /-- What is written between the braces. -/
  out : O → List Char
  /-- The branch of `parseNodeString` for a label. -/
  read : String → NodeReader (NodePtr O)

/-! ## Writing -/

section Writing

/-- A field with its name, as the `WRITE_…_FIELD` macros write it. -/
def outField (fldname : String) (value : List Char) : List Char :=
  ' ' :: ':' :: fldname.toList ++ ' ' :: value

/-- `WRITE_STRING_FIELD`. -/
def outStringField (fldname : String) (value : Option (List Char)) : List Char :=
  outField fldname (outToken (value.getD []))

/-- The numbers of an integer or OID list. -/
def outNumbers {α : Type} (kind : Char) (format : α → List Char) (elements : List α) : List Char :=
  '(' :: kind :: elements.flatMap (fun element => ' ' :: format element) ++ [')']

/-- `_outValue`. -/
def outValue : Value → List Char
  | .integer ival => outInt ival
  | .float str => str
  | .string str => '\"' :: outToken str ++ ['\"']
  | .bitString str => str
  | .null => "NULL".toList

variable (others : OtherNodes O)

mutual

/-- `_outNode`. -/
def outNode : NodePtr O → List Char
  | .null => "<>".toList
  | .value value => outValue value
  | .list elements => '(' :: outElements elements ++ [')']
  | .intList elements => outNumbers 'i' outInt elements
  | .oidList elements => outNumbers 'o' outUint elements
  | .skylineClause skylineDistinct skylineOfList skylineOfOptions =>
      '{' :: "SKYLINECLAUSE".toList ++
        outField "skyline_distinct" (boolToStr skylineDistinct) ++
        outField "skyline_of_list" (outNode skylineOfList) ++
        outField "skyline_of_options" (outNode skylineOfOptions) ++ ['}']
  | .skylineOf tleSortGroupRef restype skylineop nullsFirst skylineofDir =>
      '{' :: "SKYLINEOF".toList ++
        outField "tleSortGroupRef" (outUint tleSortGroupRef) ++
        outField "restype" (outUint restype) ++
        outField "skylineop" (outUint skylineop) ++
        outField "nulls_first" (boolToStr nullsFirst) ++
        outField "skylineof_dir" (outInt skylineofDir) ++ ['}']
  | .skylineOption name value =>
      '{' :: "SKYLINEOPTION".toList ++
        outStringField "name" name ++
        outField "value" (outNode value) ++ ['}']
  | .aConst val typename =>
      '{' :: "A_CONST".toList ++
        outField "val" (outValue val) ++
        outField "typename" (outNode typename) ++ ['}']
  | .typeName names typeid timezone setof pctType typmods typemod arrayBounds location =>
      '{' :: "TYPENAME".toList ++
        outField "names" (outNode names) ++
        outField "typeid" (outUint typeid) ++
        outField "timezone" (boolToStr timezone) ++
        outField "setof" (boolToStr setof) ++
        outField "pct_type" (boolToStr pctType) ++
        outField "typmods" (outNode typmods) ++
        outField "typemod" (outInt typemod) ++
        outField "arrayBounds" (outNode arrayBounds) ++
        outField "location" (outInt location) ++ ['}']
  | .other node => '{' :: others.out node ++ ['}']

/-- The elements of `_outList`, with spaces between them. -/
def outElements : List (NodePtr O) → List Char
  | [] => []
  | [element] => outNode element
  | element :: next :: rest => outNode element ++ ' ' :: outElements (next :: rest)

end

/-- `nodeToString`. -/
def nodeToString (node : NodePtr O) : List Char :=
  outNode others node

end Writing

/-! ## Reading fields -/

/-- The `READ_…_FIELD` macros: skip the field name and get the value. -/
def readField : NodeReader Token := do
  let _ ← pgStrtok
  match ← pgStrtok with
  | none => throw .nullPointer
  | some token => return token

/-- `READ_UINT_FIELD` and `READ_OID_FIELD`. -/
def readUintField : NodeReader Nat := do
  let token ← readField
  return atoui token

/-- `READ_INT_FIELD`. -/
def readIntField : NodeReader Int := do
  let token ← readField
  return atoi token

/-- `READ_BOOL_FIELD`. -/
def readBoolField : NodeReader Bool := do
  let token ← readField
  return strtobool token

/-- `READ_STRING_FIELD`; without a token the string is `NULL`. -/
def readStringField : NodeReader (Option (List Char)) := do
  let _ ← pgStrtok
  match ← pgStrtok with
  | none => return none
  | some token => return nullableString token

section Reading

variable (others : OtherNodes O) (nodeRead : Option Token → NodeReader (NodePtr O))

/-- `READ_NODE_FIELD`. -/
def readNodeField : NodeReader (NodePtr O) := do
  let _ ← pgStrtok
  nodeRead none

/-! ## `readfuncs.c` -/

/-- `_readSkylineClause`. -/
def readSkylineClause : NodeReader (NodePtr O) := do
  let skylineDistinct ← readBoolField
  let skylineOfList ← readNodeField nodeRead
  let skylineOfOptions ← readNodeField nodeRead
  return .skylineClause skylineDistinct skylineOfList skylineOfOptions

/-- `_readSkylineOf`. -/
def readSkylineOf : NodeReader (NodePtr O) := do
  let tleSortGroupRef ← readUintField
  let restype ← readUintField
  let skylineop ← readUintField
  let nullsFirst ← readBoolField
  let skylineofDir ← readIntField
  return .skylineOf tleSortGroupRef restype skylineop nullsFirst skylineofDir

/-- `_readSkylineOption`. -/
def readSkylineOption : NodeReader (NodePtr O) := do
  let name ← readStringField
  let value ← readNodeField nodeRead
  return .skylineOption name value

/-- The other labels that `parseNodeString` knows. -/
def otherLabels : List String :=
  ["QUERY", "SORTCLAUSE", "GROUPCLAUSE", "ROWMARKCLAUSE", "SETOPERATIONSTMT", "ALIAS", "RANGEVAR",
    "INTOCLAUSE", "VAR", "CONST", "PARAM", "AGGREF", "ARRAYREF", "FUNCEXPR", "OPEXPR",
    "DISTINCTEXPR", "SCALARARRAYOPEXPR", "BOOLEXPR", "SUBLINK", "FIELDSELECT", "FIELDSTORE",
    "RELABELTYPE", "COERCEVIAIO", "ARRAYCOERCEEXPR", "CONVERTROWTYPEEXPR", "CASE", "WHEN",
    "CASETESTEXPR", "ARRAY", "ROW", "ROWCOMPARE", "COALESCE", "MINMAX", "XMLEXPR", "NULLIFEXPR",
    "NULLTEST", "BOOLEANTEST", "COERCETODOMAIN", "COERCETODOMAINVALUE", "SETTODEFAULT",
    "CURRENTOFEXPR", "TARGETENTRY", "RANGETBLREF", "JOINEXPR", "FROMEXPR", "RTE", "NOTIFY",
    "DECLARECURSOR"]

/-- `elog(ERROR, "badly formatted node string …")`, with at most 32 characters of the
text that `token` points to. -/
def badlyFormatted (text : List Char) : Fault :=
  let shown := String.ofList (text.take 32)
  .elog s!"badly formatted node string \"{shown}\"..."

/-- The branch of `parseNodeString` for the text of its token. -/
def readLabelled (label : List Char) : NodeReader (NodePtr O) :=
  if label = "SKYLINECLAUSE".toList then readSkylineClause nodeRead
  else if label = "SKYLINEOF".toList then readSkylineOf
  else if label = "SKYLINEOPTION".toList then readSkylineOption nodeRead
  else if String.ofList label ∈ otherLabels then others.read (String.ofList label)
  else do
    let rest ← get
    throw (badlyFormatted (label ++ rest))

/-- `parseNodeString`. -/
def parseNodeString : NodeReader (NodePtr O) := do
  match ← pgStrtok with
  | none => throw (.elog "badly formatted node string \"(null)\"...")
  | some token => readLabelled others nodeRead token.text

end Reading

/-! ## `nodeRead` -/

inductive TokenType where
  | integer
  | float
  | string
  | bitString
  | rightParen
  | leftParen
  | leftBrace
  | otherToken
  deriving DecidableEq, Repr

/-- Does a number start here? -/
def startsNumber : List Char → Bool
  | [] => false
  | c :: rest => c.isDigit || (c == '.' && rest.head?.any Char.isDigit)

/-- The text without its sign. -/
def dropSign : List Char → List Char
  | [] => []
  | c :: rest => if c == '+' || c == '-' then rest else c :: rest

/-- `nodeTokenType`. -/
def nodeTokenType (token : Token) : TokenType :=
  if startsNumber (dropSign token.text) then
    let (val, endptr) := strtol token.text
    if endptr = [] ∧ -2147483648 ≤ val ∧ val ≤ 2147483647 then .integer else .float
  else if token.text.head? = some '(' then .leftParen
  else if token.text.head? = some ')' then .rightParen
  else if token.text.head? = some '{' then .leftBrace
  else if token.text.head? = some '\"' ∧ 1 < token.length ∧ token.text.getLast? = some '\"' then
    .string
  else if token.text.head? = some 'b' then .bitString
  else .otherToken

/-- The rest of an integer or OID list. -/
def readNumbers {α : Type} (number : Token → Option α) (what : String) :
    Nat → NodeReader (List α)
  | 0 => throw .loopBound
  | bound + 1 => do
      match ← pgStrtok with
      | none => throw (.elog "unterminated List structure")
      | some token =>
          if token.text.head? = some ')' then return []
          else
            match number token with
            | none =>
                let shown := String.ofList token.text
                throw (.elog s!"unrecognized {what}: \"{shown}\"")
            | some val => return val :: (← readNumbers number what bound)

/-- The number, if the token is one. -/
def wholeInteger (token : Token) : Option Int :=
  let (val, endptr) := strtol token.text
  if endptr = [] then some val else none

def wholeOid (token : Token) : Option Oid :=
  if token.text.all Char.isDigit then some (atoui token) else none

/-- The elements of a list from the token on that was scanned already. -/
def readElements (nodeRead : Option Token → NodeReader (NodePtr O)) :
    Nat → Token → NodeReader (List (NodePtr O))
  | 0, _ => throw .loopBound
  | bound + 1, token => do
      if token.text.head? = some ')' then return []
      else
        let element ← nodeRead (some token)
        match ← pgStrtok with
        | none => throw (.elog "unterminated List structure")
        | some token => return element :: (← readElements nodeRead bound token)

/-- The list behind a left parenthesis.  A list has no more elements than characters. -/
def readList (nodeRead : Option Token → NodeReader (NodePtr O)) : NodeReader (NodePtr O) := do
  match ← pgStrtok with
  | none => throw (.elog "unterminated List structure")
  | some token =>
      let rest ← get
      if token.text = ['i'] then
        let elements ← readNumbers wholeInteger "integer" (rest.length + 1)
        return if elements = [] then .null else .intList elements
      else if token.text = ['o'] then
        let elements ← readNumbers wholeOid "OID" (rest.length + 1)
        return if elements = [] then .null else .oidList elements
      else return .ofList (← readElements nodeRead (rest.length + 1) token)

/-- `nodeRead` on a token that was scanned. -/
def nodeReadToken (others : OtherNodes O) (nodeRead : Option Token → NodeReader (NodePtr O))
    (token : Token) : NodeReader (NodePtr O) :=
  match nodeTokenType token with
  | .leftBrace => do
      let result ← parseNodeString others nodeRead
      match ← pgStrtok with
      | none => throw (.elog "did not find '\x7d' at end of input node")
      | some token =>
          if token.text.head? = some '}' then return result
          else throw (.elog "did not find '\x7d' at end of input node")
  | .leftParen => readList nodeRead
  | .rightParen => throw (.elog "unexpected right parenthesis")
  | .otherToken =>
      if token.length = 0 then return .null
      else
        let shown := String.ofList token.text
        throw (.elog s!"unrecognized token: \"{shown}\"")
  | .integer => return .value (.integer (atoi token))
  | .float => return .value (.float token.text)
  | .string => return .value (.string (debackslash (token.text.drop 1).dropLast))
  | .bitString => return .value (.bitString (token.text.drop 1))

/-- `nodeRead`, nested no deeper than the bound. -/
def nodeRead (others : OtherNodes O) : Nat → Option Token → NodeReader (NodePtr O)
  | 0, _ => throw .loopBound
  | bound + 1, some token => nodeReadToken others (nodeRead others bound) token
  | bound + 1, none => do
      match ← pgStrtok with
      | none => return .null
      | some token => nodeReadToken others (nodeRead others bound) token

/-- `stringToNode`.  Nodes are nested no deeper than the text is long. -/
def stringToNode (others : OtherNodes O) (str : List Char) : Except Fault (NodePtr O) := do
  let (node, _) ← (nodeRead others (str.length + 1) none).run str
  return node

end PgSkyline
