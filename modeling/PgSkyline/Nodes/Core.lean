import PgSkyline.Parser.Clause

/-!
# Nodes of a skyline clause

The nodes that parse analysis leaves in the parse tree for a skyline clause, as
`nodes/parsenodes.h` and `nodes/value.h` declare them.  Nodes of other types are a
parameter; `NULL` and the empty list are the same pointer.
-/

namespace PgSkyline

/-- `Value`. -/
inductive Value where
  | integer (ival : Int)
  | float (str : List Char)
  | string (str : List Char)
  | bitString (str : List Char)
  /-- This is seen only within `A_Const`. -/
  | null
  deriving DecidableEq, Repr

/-- A pointer to a node; `O` stands for the nodes of all other types. -/
inductive NodePtr (O : Type) where
  /-- `NULL`, and the empty list `NIL`. -/
  | null
  | value (value : Value)
  | list (elements : List (NodePtr O))
  | intList (elements : List Int)
  | oidList (elements : List Oid)
  | skylineClause (skylineDistinct : Bool) (skylineOfList skylineOfOptions : NodePtr O)
  | skylineOf (tleSortGroupRef : Nat) (restype skylineop : Oid) (nullsFirst : Bool)
      (skylineofDir : Int)
  | skylineOption (name : Option (List Char)) (value : NodePtr O)
  | aConst (val : Value) (typename : NodePtr O)
  | typeName (names : NodePtr O) (typeid : Oid) (timezone setof pctType : Bool)
      (typmods : NodePtr O) (typemod : Int) (arrayBounds : NodePtr O) (location : Int)
  | other (node : O)

variable {O : Type}

/-- A pointer to a list of nodes. -/
def NodePtr.ofList : List (NodePtr O) → NodePtr O
  | [] => .null
  | element :: rest => .list (element :: rest)

/-! ## The nodes of an analysed clause -/

/-- The numbers of the enumeration. -/
def SkylineOfDir.code : SkylineOfDir → Int
  | .default => 0
  | .min => 1
  | .max => 2
  | .diff => 3
  | .using => 4

def SkylineOf.toNode (item : SkylineOf) : NodePtr O :=
  .skylineOf item.tleSortGroupRef item.restype item.skylineop item.nullsFirst item.skylineofDir.code

/-- `SystemTypeName`. -/
def systemTypeName (name : String) : NodePtr O :=
  .typeName (.list [.value (.string "pg_catalog".toList), .value (.string name.toList)]) invalidOid
    false false false .null (-1) .null (-1)

/-- `makeIntConst`, `makeFloatConst` and `makeStringConst`. -/
def AConst.toNode : AConst → NodePtr O
  | .integer value => .aConst (.integer value) (systemTypeName "int4")
  | .float text => .aConst (.float text.toList) (systemTypeName "float8")
  | .string text => .aConst (.string text.toList) .null

def SkylineOption.toNode (option : SkylineOption) : NodePtr O :=
  .skylineOption (some option.name.toList) option.value.toNode

def SkylineClause.toNode (clause : SkylineClause) : NodePtr O :=
  .skylineClause clause.skylineDistinct (.ofList (clause.skylineOfList.map SkylineOf.toNode))
    (.ofList (clause.skylineOfOptions.map SkylineOption.toNode))

end PgSkyline
