import PgSkyline.Nodes.ReadWrite

/-!
# Stored skyline clauses

A skyline clause without options is read back as it was written.  An option holds a
raw constant, for which there is an output function but no input function, so a
clause with options cannot be read back at all.
-/

namespace PgSkyline

open Reading

variable {O : Type}

/-! ## Fields -/

/-- The label of a field is one token. -/
abbrev IsFieldName (fldname : String) : Prop :=
  IsToken (':' :: fldname.toList)

section Fields

variable {fldname : String} {value : List Char}

theorem reads_readField (isName : IsFieldName fldname) (isToken : IsToken value) :
    Reads BehindToken readField (outField fldname value) (.ofText value) := by
  have label := reads_pgStrtok_space (reads_pgStrtok isName)
  have token := reads_pgStrtok_space (reads_pgStrtok isToken)
  refine label.bind (token.map (reads_pure _)) fun rest _ => ?_
  exact behindToken_cons (by decide) _

theorem reads_readUintField (isName : IsFieldName fldname) (n : Nat) :
    Reads BehindToken readUintField (outField fldname (outUint n)) n := by
  apply (reads_readField isName (isToken_outUint n)).map
  rw [atoui_outUint]
  exact reads_pure n

private theorem reads_readIntField (isName : IsFieldName fldname) (n : Int) :
    Reads BehindToken readIntField (outField fldname (outInt n)) n := by
  apply (reads_readField isName (isToken_outInt n)).map
  rw [atoi_outInt]
  exact reads_pure n

theorem reads_readBoolField (isName : IsFieldName fldname) (b : Bool) :
    Reads BehindToken readBoolField (outField fldname (boolToStr b)) b := by
  apply (reads_readField isName (isToken_boolToStr b)).map
  rw [strtobool_boolToStr]
  exact reads_pure b

private theorem reads_readStringField (isName : IsFieldName fldname) (s : Option (List Char)) :
    Reads BehindToken readStringField (outStringField fldname s)
      (nullableString (.ofText (outToken (s.getD [])))) := by
  have label := reads_pgStrtok_space (reads_pgStrtok isName)
  have token := reads_pgStrtok_space (reads_pgStrtok (isToken_outToken (s.getD [])))
  refine label.bind (token.map (reads_pure _)) fun rest _ => ?_
  exact behindToken_cons (by decide) _

variable {nodeRead : Option Token → NodeReader (NodePtr O)} {node : NodePtr O}

theorem reads_readNodeField (isName : IsFieldName fldname)
    (reads : Reads BehindToken (nodeRead none) (' ' :: value) node) :
    Reads BehindToken (readNodeField nodeRead) (outField fldname value) node :=
  (reads_pgStrtok_space (reads_pgStrtok isName)).bind reads
    fun _ _ => behindToken_cons (by decide) _

theorem rejects_readNodeField (isName : IsFieldName fldname)
    (rejects : Rejects BehindToken (nodeRead none) (' ' :: value)) :
    Rejects BehindToken (readNodeField nodeRead) (outField fldname value) :=
  (reads_pgStrtok_space (reads_pgStrtok isName)).bind_rejects rejects
    fun _ _ => behindToken_cons (by decide) _

end Fields

/-! ## Nodes in braces -/

section Braces

variable {others : OtherNodes O} {nodeReader : Option Token → NodeReader (NodePtr O)}
  {text value : List Char} {node : NodePtr O} {bound : Nat}

/-- `parseNodeString` goes on behind the label of a node. -/
theorem reads_parseNodeString {label : List Char} (isToken : IsToken label)
    (reads : Reads BehindToken (readLabelled others nodeReader label) text node)
    (behind : ∀ rest, BehindToken rest → BehindToken (text ++ rest)) :
    Reads BehindToken (parseNodeString others nodeReader) (label ++ text) node :=
  (reads_pgStrtok isToken).bind reads behind

theorem rejects_parseNodeString {label : List Char} (isToken : IsToken label)
    (rejects : Rejects BehindToken (readLabelled others nodeReader label) text)
    (behind : ∀ rest, BehindToken rest → BehindToken (text ++ rest)) :
    Rejects BehindToken (parseNodeString others nodeReader) (label ++ text) :=
  (reads_pgStrtok isToken).bind_rejects rejects behind

theorem behindToken_bracket {c : Char} (bracket : isBracket c = true) (rest : List Char) :
    BehindToken (c :: rest) :=
  behindToken_cons (by simp [endsToken, bracket]) rest

/-- A node is read up to the brace that closes it. -/
theorem reads_leftBrace (reads : Reads BehindToken (parseNodeString others nodeReader) text node) :
    Reads BehindToken (nodeReadToken others nodeReader (.ofText ['{'])) (text ++ ['}']) node := by
  have closing : Reads BehindToken pgStrtok ['}'] (some (.ofText ['}'])) :=
    fun rest _ => reads_pgStrtok_bracket rfl rest trivial
  exact reads.bind (closing.map (reads_pure node)) fun rest _ => behindToken_bracket rfl rest

theorem rejects_leftBrace (rejects : Rejects BehindToken (parseNodeString others nodeReader) text)
    (later : List Char) :
    Rejects BehindToken (nodeReadToken others nodeReader (.ofText ['{'])) (text ++ '}' :: later) :=
  rejects.bind fun rest _ => behindToken_bracket rfl (later ++ rest)

/-- `nodeRead` without a token scans it first. -/
theorem reads_nodeRead {c : Char} (bracket : isBracket c = true)
    (reads :
      Reads BehindToken (nodeReadToken others (nodeRead others bound) (.ofText [c])) text node) :
    Reads BehindToken (nodeRead others (bound + 1) none) (c :: text) node :=
  (reads_pgStrtok_bracket bracket).bind reads fun _ _ => trivial

theorem rejects_nodeRead {c : Char} (bracket : isBracket c = true)
    (rejects :
      Rejects BehindToken (nodeReadToken others (nodeRead others bound) (.ofText [c])) text) :
    Rejects BehindToken (nodeRead others (bound + 1) none) (c :: text) :=
  (reads_pgStrtok_bracket bracket).bind_rejects rejects fun _ _ => trivial

/-- `nodeRead` skips a space. -/
theorem reads_nodeRead_space
    (reads : Reads BehindToken (nodeRead others (bound + 1) none) text node) :
    Reads BehindToken (nodeRead others (bound + 1) none) (' ' :: text) node :=
  fun rest behind => reads rest behind

theorem rejects_nodeRead_space
    (rejects : Rejects BehindToken (nodeRead others (bound + 1) none) text) :
    Rejects BehindToken (nodeRead others (bound + 1) none) (' ' :: text) :=
  fun rest behind => rejects rest behind

/-- `<>` is the null pointer. -/
theorem reads_null :
    Reads BehindToken (nodeRead others (bound + 1) none) "<>".toList .null :=
  (reads_pgStrtok (isToken_label (by decide) (by decide))).map (reads_pure _)

end Braces

/-! ## `SkylineOf` -/

section Items

variable (others : OtherNodes O) (nodeReader : Option Token → NodeReader (NodePtr O))

/-- The fields of a skyline column. -/
def outSkylineOfFields (item : SkylineOf) : List Char :=
  outField "tleSortGroupRef" (outUint item.tleSortGroupRef) ++
    (outField "restype" (outUint item.restype) ++
      (outField "skylineop" (outUint item.skylineop) ++
        (outField "nulls_first" (boolToStr item.nullsFirst) ++
          outField "skylineof_dir" (outInt item.skylineofDir.code))))

theorem outNode_skylineOf (item : SkylineOf) :
    outNode others item.toNode =
      '{' :: ("SKYLINEOF".toList ++ outSkylineOfFields item ++ ['}']) := by
  simp only [SkylineOf.toNode, outNode, outSkylineOfFields, List.append_assoc, List.cons_append]

private theorem reads_readSkylineOf (item : SkylineOf) :
    Reads BehindToken (readSkylineOf : NodeReader (NodePtr O)) (outSkylineOfFields item)
      item.toNode := by
  have tleSortGroupRef := reads_readUintField (isToken_label (by decide) (by decide) :
    IsFieldName "tleSortGroupRef") item.tleSortGroupRef
  have restype := reads_readUintField (isToken_label (by decide) (by decide) :
    IsFieldName "restype") item.restype
  have skylineop := reads_readUintField (isToken_label (by decide) (by decide) :
    IsFieldName "skylineop") item.skylineop
  have nullsFirst := reads_readBoolField (isToken_label (by decide) (by decide) :
    IsFieldName "nulls_first") item.nullsFirst
  have skylineofDir := reads_readIntField (isToken_label (by decide) (by decide) :
    IsFieldName "skylineof_dir") item.skylineofDir.code
  refine tleSortGroupRef.bind (restype.bind (skylineop.bind (nullsFirst.bind
    (skylineofDir.map (reads_pure _)) ?_) ?_) ?_) ?_
  all_goals exact fun rest _ => behindToken_cons (by decide) _

theorem reads_skylineOf (item : SkylineOf) :
    Reads BehindToken (nodeReadToken others nodeReader (.ofText ['{']))
      ("SKYLINEOF".toList ++ outSkylineOfFields item ++ ['}']) item.toNode := by
  apply reads_leftBrace
  apply reads_parseNodeString (isToken_label (by decide) (by decide))
  · rw [readLabelled, if_neg (by decide), if_pos rfl]
    exact reads_readSkylineOf item
  · exact fun rest _ => behindToken_cons (by decide) _

/-! ## The list of skyline columns -/

/-- A column behind its brace. -/
def outItem (item : SkylineOf) : List Char :=
  "SKYLINEOF".toList ++ outSkylineOfFields item ++ ['}']

/-- A list behind the brace that opens its first element. -/
def outItems : SkylineOf → List SkylineOf → List Char
  | item, [] => outItem item ++ [')']
  | item, next :: rest => outItem item ++ ' ' :: '{' :: outItems next rest

private theorem outNode_items (item : SkylineOf) (rest : List SkylineOf) :
    outNode others (.ofList ((item :: rest).map SkylineOf.toNode)) =
      '(' :: '{' :: outItems item rest := by
  rw [List.map_cons, NodePtr.ofList, outNode, List.cons_append]
  congr 1
  induction rest generalizing item with
  | nil =>
      rw [List.map_nil, outElements, outNode_skylineOf]
      rfl
  | cons next rest ih =>
      rw [List.map_cons, outElements, outNode_skylineOf, List.append_assoc, List.cons_append,
        List.cons_append, ih]
      rfl

private theorem length_outItems (item : SkylineOf) (rest : List SkylineOf) :
    rest.length + 1 ≤ (outItems item rest).length := by
  induction rest generalizing item with
  | nil =>
      rw [outItems, List.length_append]
      exact Nat.le_add_left _ _
  | cons next rest ih =>
      rw [outItems, List.length_append, List.length_cons, List.length_cons, List.length_cons]
      have shorter := ih next
      generalize (outItem item).length = first
      omega

private theorem reads_readElements (item : SkylineOf) (rest : List SkylineOf) {bound limit : Nat}
    (enough : rest.length + 2 ≤ limit) :
    Reads BehindToken (readElements (nodeRead others (bound + 1)) limit (.ofText ['{']))
      (outItems item rest) ((item :: rest).map SkylineOf.toNode) := by
  induction rest generalizing item limit with
  | nil =>
      match limit, enough with
      | limit + 2, _ =>
          have closing : Reads BehindToken pgStrtok [')'] (some (.ofText [')'])) :=
            fun rest _ => reads_pgStrtok_bracket rfl rest trivial
          refine (reads_skylineOf others (nodeRead others bound) item).bind
            (closing.map (reads_pure _)) ?_
          exact fun rest _ => behindToken_bracket rfl rest
  | cons next rest ih =>
      match limit, enough with
      | limit + 1, enough =>
          have opening : Reads (fun _ => True) pgStrtok [' ', '{'] (some (.ofText ['{'])) :=
            reads_pgStrtok_space (reads_pgStrtok_bracket rfl)
          have later := ih next (Nat.le_of_succ_le_succ enough)
          refine (reads_skylineOf others (nodeRead others bound) item).bind
            (opening.bind (later.map (reads_pure _)) fun _ _ => trivial) ?_
          exact fun rest _ => behindToken_cons (by decide) _

/-- A left parenthesis and a brace open a list of nodes. -/
theorem reads_readList {text : List Char} {elements : List (NodePtr O)}
    (reads : ∀ limit, text.length < limit →
      Reads BehindToken (readElements nodeReader limit (.ofText ['{'])) text elements) :
    Reads BehindToken (readList nodeReader) ('{' :: text) (.ofList elements) := by
  have opening : Reads (fun _ => True) pgStrtok ['{'] (some (.ofText ['{'])) :=
    reads_pgStrtok_bracket rfl
  refine opening.bind (Reads.get_bind fun input shorter => ?_) fun _ _ => trivial
  have noInteger : ¬ (Token.ofText ['{']).text = ['i'] := by decide
  have noOid : ¬ (Token.ofText ['{']).text = ['o'] := by decide
  simp only [noInteger, noOid, if_false]
  exact (reads (input.length + 1) (Nat.lt_succ_of_le shorter)).map (reads_pure _)

/-- The list of skyline columns is read back. -/
theorem reads_items (items : List SkylineOf) (bound : Nat) :
    Reads BehindToken (nodeRead others (bound + 2) none)
      (outNode others (.ofList (items.map SkylineOf.toNode)))
      (.ofList (items.map SkylineOf.toNode)) := by
  cases items with
  | nil => exact reads_null
  | cons item rest =>
      rw [outNode_items]
      apply reads_nodeRead rfl
      apply reads_readList
      intro limit shorter
      apply reads_readElements
      exact Nat.lt_of_le_of_lt (length_outItems item rest) shorter

/-! ## Clauses without options -/

/-- The fields of a clause. -/
def outClauseFields (clause : SkylineClause) : List Char :=
  outField "skyline_distinct" (boolToStr clause.skylineDistinct) ++
    (outField "skyline_of_list"
        (outNode others (.ofList (clause.skylineOfList.map SkylineOf.toNode))) ++
      outField "skyline_of_options"
        (outNode others (.ofList (clause.skylineOfOptions.map SkylineOption.toNode))))

theorem outNode_skylineClause (clause : SkylineClause) :
    outNode others clause.toNode =
      '{' :: ("SKYLINECLAUSE".toList ++ outClauseFields others clause ++ ['}']) := by
  simp only [SkylineClause.toNode, outNode, outClauseFields, List.append_assoc, List.cons_append]

private theorem reads_readSkylineClause (clause : SkylineClause)
    (noOptions : clause.skylineOfOptions = []) (bound : Nat) :
    Reads BehindToken (readSkylineClause (nodeRead others (bound + 2)))
      (outClauseFields others clause) clause.toNode := by
  have skylineDistinct := reads_readBoolField (isToken_label (by decide) (by decide) :
    IsFieldName "skyline_distinct") clause.skylineDistinct
  have items := reads_nodeRead_space (reads_items others clause.skylineOfList bound)
  have options := reads_nodeRead_space (@reads_null O others (bound + 1))
  have skylineOfList := reads_readNodeField (isToken_label (by decide) (by decide) :
    IsFieldName "skyline_of_list") items
  have skylineOfOptions := reads_readNodeField (isToken_label (by decide) (by decide) :
    IsFieldName "skyline_of_options") options
  rw [SkylineClause.toNode, outClauseFields, noOptions]
  refine skylineDistinct.bind (skylineOfList.bind (skylineOfOptions.map (reads_pure _)) ?_) ?_
  all_goals exact fun rest _ => behindToken_cons (by decide) _

private theorem reads_skylineClause (clause : SkylineClause)
    (noOptions : clause.skylineOfOptions = []) (bound : Nat) :
    Reads BehindToken (nodeRead others (bound + 3) none) (outNode others clause.toNode)
      clause.toNode := by
  rw [outNode_skylineClause]
  apply reads_nodeRead rfl
  apply reads_leftBrace
  apply reads_parseNodeString (isToken_label (by decide) (by decide))
  · rw [readLabelled, if_pos rfl]
    exact reads_readSkylineClause others clause noOptions bound
  · exact fun rest _ => behindToken_cons (by decide) _

/-! ## Clauses with options -/

/-- `parseNodeString` has no branch for a raw constant. -/
theorem rejects_aConst (val : Value) (typename : NodePtr O) (bound : Nat) :
    Rejects BehindToken (nodeRead others (bound + 1) none)
      (outNode others (.aConst val typename)) := by
  have split : outNode others (.aConst val typename) = '{' :: ("A_CONST".toList ++
      (outField "val" (outValue val) ++ outField "typename" (outNode others typename)) ++
        ['}']) := by
    simp only [outNode, List.append_assoc, List.cons_append]
  rw [split]
  apply rejects_nodeRead rfl
  apply rejects_leftBrace
  apply rejects_parseNodeString (isToken_label (by decide) (by decide))
  · have unknown : String.ofList "A_CONST".toList ∉ otherLabels := by decide
    rw [readLabelled, if_neg (by decide), if_neg (by decide), if_neg (by decide), if_neg unknown]
    exact Rejects.get_bind fun rest => rejects_throw _
  · exact fun rest _ => behindToken_cons (by decide) _

theorem AConst.rejects_toNode (value : AConst) (bound : Nat) :
    Rejects BehindToken (nodeRead others (bound + 1) none) (outNode others value.toNode) := by
  cases value with
  | integer value => exact rejects_aConst others _ _ bound
  | float text => exact rejects_aConst others _ _ bound
  | string text => exact rejects_aConst others _ _ bound

/-- The fields of an option. -/
def outOptionFields (option : SkylineOption) : List Char :=
  outStringField "name" (some option.name.toList) ++
    outField "value" (outNode others option.value.toNode)

private theorem outNode_skylineOption (option : SkylineOption) :
    outNode others option.toNode =
      '{' :: ("SKYLINEOPTION".toList ++ outOptionFields others option ++ ['}']) := by
  simp only [SkylineOption.toNode, outNode, outOptionFields, List.append_assoc, List.cons_append]

private theorem rejects_readSkylineOption (option : SkylineOption) (bound : Nat) :
    Rejects BehindToken (readSkylineOption (nodeRead others (bound + 1)))
      (outOptionFields others option) := by
  have name := reads_readStringField (isToken_label (by decide) (by decide) :
    IsFieldName "name") (some option.name.toList)
  have value := rejects_readNodeField (isToken_label (by decide) (by decide) :
    IsFieldName "value") (rejects_nodeRead_space (option.value.rejects_toNode others bound))
  exact name.bind_rejects value.map fun rest _ => behindToken_cons (by decide) _

private theorem rejects_skylineOption (option : SkylineOption) (later : List Char) (bound : Nat) :
    Rejects BehindToken (nodeReadToken others (nodeRead others (bound + 1)) (.ofText ['{']))
      ("SKYLINEOPTION".toList ++ outOptionFields others option ++ '}' :: later) := by
  apply rejects_leftBrace
  apply rejects_parseNodeString (isToken_label (by decide) (by decide))
  · rw [readLabelled, if_neg (by decide), if_neg (by decide), if_pos rfl]
    exact rejects_readSkylineOption others option bound
  · exact fun rest _ => behindToken_cons (by decide) _

/-- A list is not read if its first element is not. -/
theorem rejects_readList {text : List Char}
    (rejects : Rejects BehindToken (nodeReader (some (.ofText ['{']))) text) :
    Rejects BehindToken (readList nodeReader) ('{' :: text) := by
  have opening : Reads (fun _ => True) pgStrtok ['{'] (some (.ofText ['{'])) :=
    reads_pgStrtok_bracket rfl
  refine opening.bind_rejects (Rejects.get_bind fun input => ?_) fun _ _ => trivial
  have noInteger : ¬ (Token.ofText ['{']).text = ['i'] := by decide
  have noOid : ¬ (Token.ofText ['{']).text = ['o'] := by decide
  simp only [noInteger, noOid, if_false]
  have elements : Rejects BehindToken
      (readElements nodeReader (input.length + 1) (.ofText ['{'])) text := rejects.map
  exact elements.map

private theorem outElements_cons (element : NodePtr O) (rest : List (NodePtr O)) :
    ∃ later, outElements others (element :: rest) = outNode others element ++ later := by
  cases rest with
  | nil => exact ⟨[], by rw [outElements, List.append_nil]⟩
  | cons next rest => exact ⟨' ' :: outElements others (next :: rest), by rw [outElements]⟩

/-- A list of options is not read back. -/
theorem rejects_options (option : SkylineOption) (rest : List SkylineOption) (bound : Nat) :
    Rejects BehindToken (nodeRead others (bound + 3) none)
      (outNode others (.ofList ((option :: rest).map SkylineOption.toNode))) := by
  rcases outElements_cons others option.toNode (rest.map SkylineOption.toNode) with
    ⟨later, elements⟩
  have text : outNode others (.ofList ((option :: rest).map SkylineOption.toNode)) =
      '(' :: '{' :: ("SKYLINEOPTION".toList ++ outOptionFields others option ++
        '}' :: (later ++ [')'])) := by
    rw [List.map_cons, NodePtr.ofList, outNode, elements, outNode_skylineOption]
    simp only [List.append_assoc, List.cons_append, List.nil_append]
  rw [text]
  apply rejects_nodeRead rfl
  apply rejects_readList
  exact rejects_skylineOption others option _ bound

private theorem rejects_skylineClause (clause : SkylineClause)
    (options : clause.skylineOfOptions ≠ []) (bound : Nat) :
    Rejects BehindToken (nodeRead others (bound + 4) none) (outNode others clause.toNode) := by
  have skylineDistinct := reads_readBoolField (isToken_label (by decide) (by decide) :
    IsFieldName "skyline_distinct") clause.skylineDistinct
  have items := reads_nodeRead_space (reads_items others clause.skylineOfList (bound + 1))
  have skylineOfList := reads_readNodeField (isToken_label (by decide) (by decide) :
    IsFieldName "skyline_of_list") items
  rcases List.exists_cons_of_ne_nil options with ⟨option, rest, eq⟩
  have written := rejects_nodeRead_space (rejects_options others option rest bound)
  have skylineOfOptions := rejects_readNodeField (isToken_label (by decide) (by decide) :
    IsFieldName "skyline_of_options") written
  rw [outNode_skylineClause, outClauseFields, eq]
  apply rejects_nodeRead rfl
  apply rejects_leftBrace
  apply rejects_parseNodeString (isToken_label (by decide) (by decide))
  · rw [readLabelled, if_pos rfl]
    refine skylineDistinct.bind_rejects (skylineOfList.bind_rejects skylineOfOptions.map ?_) ?_
    all_goals exact fun rest _ => behindToken_cons (by decide) _
  · exact fun rest _ => behindToken_cons (by decide) _

/-! ## `stringToNode` -/

/-- A clause is nested deep enough in its text. -/
theorem length_outNode_skylineClause (clause : SkylineClause) :
    4 ≤ (outNode others clause.toNode).length + 1 := by
  rw [outNode_skylineClause, List.length_cons, List.length_append, List.length_append]
  generalize (outClauseFields others clause).length = fields
  have label : "SKYLINECLAUSE".toList.length = 13 := by decide
  omega

/-- A skyline clause is read back as it was written exactly if it has no options. -/
theorem stringToNode_nodeToString_iff (clause : SkylineClause) :
    stringToNode others (nodeToString others clause.toNode) = .ok clause.toNode ↔
      clause.skylineOfOptions = [] := by
  rcases Nat.exists_eq_add_of_le (length_outNode_skylineClause others clause) with ⟨bound, eq⟩
  rw [nodeToString, stringToNode, eq, Nat.add_comm]
  constructor
  · intro read
    by_contra options
    rcases rejects_skylineClause others clause options bound [] behindToken_nil with ⟨error, failed⟩
    rw [List.append_nil] at failed
    rw [failed] at read
    cases read
  · intro noOptions
    have read := reads_skylineClause others clause noOptions (bound + 1) [] behindToken_nil
    rw [List.append_nil] at read
    rw [read]
    rfl

end Items

/-! ### A clause that is lost -/

/-- No nodes of other types. -/
def skylineNodesOnly : OtherNodes Empty where
  out := Empty.elim
  read := fun _ => throw .nullPointer

/-- `SKYLINE OF a MIN WITH slots = 3` for an integer column. -/
def limitedClause : SkylineClause :=
  ⟨false, [⟨1, 23, 97, false, .min⟩], [⟨"slots", .integer 3⟩]⟩

set_option maxRecDepth 20000 in
/-- The reader stops at the raw constant of the option. -/
theorem stringToNode_limitedClause :
    stringToNode skylineNodesOnly (nodeToString skylineNodesOnly limitedClause.toNode) =
      .error (.elog "badly formatted node string \"A_CONST :val 3 :typename \x7bTYPENA\"...") :=
  rfl

end PgSkyline
