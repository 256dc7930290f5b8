import PgSkyline.Nodes.Copy

/-!
# Comparing nodes

Translation of `nodes/equalfuncs.c` for the nodes of a skyline clause.  Unlike the input
functions, `equal` has a branch for every node that such a clause consists of.
-/

namespace PgSkyline

variable {O U : Type}

/-- `equalstr`. -/
def equalstr : Option (List Char) → Option (List Char) → Bool
  | some a, some b => a == b
  | none, none => true
  | _, _ => false

/-- `_equalValue`. -/
def equalValue : Value → Value → Bool
  | .integer a, .integer b => a == b
  | .float a, .float b => equalstr (some a) (some b)
  | .string a, .string b => equalstr (some a) (some b)
  | .bitString a, .bitString b => equalstr (some a) (some b)
  | .null, .null => true
  | _, _ => false

/-- The loop of `_equalList` over two lists of numbers. -/
def equalNumbers {α : Type} [BEq α] : List α → List α → Bool
  | a :: restA, b :: restB => a == b && equalNumbers restA restB
  | _, _ => true

section Equal

variable (equalOther : O → O → Bool)

mutual

/-- `equal`; two nodes of different types are not equal. -/
def equal : NodePtr O → NodePtr O → Bool
  | .null, .null => true
  | .value a, .value b => equalValue a b
  | .list a, .list b => a.length == b.length && equalElements a b
  | .intList a, .intList b => a.length == b.length && equalNumbers a b
  | .oidList a, .oidList b => a.length == b.length && equalNumbers a b
  | .skylineClause distinctA listA optionsA, .skylineClause distinctB listB optionsB =>
      distinctA == distinctB && equal listA listB && equal optionsA optionsB
  | .skylineOf refA restypeA opA nullsFirstA dirA,
      .skylineOf refB restypeB opB nullsFirstB dirB =>
      refA == refB && restypeA == restypeB && opA == opB && nullsFirstA == nullsFirstB &&
        dirA == dirB
  | .skylineOption nameA valueA, .skylineOption nameB valueB =>
      equalstr nameA nameB && equal valueA valueB
  | .aConst valA typenameA, .aConst valB typenameB =>
      equalValue valA valB && equal typenameA typenameB
  | .typeName namesA typeidA timezoneA setofA pctTypeA typmodsA typemodA arrayBoundsA locationA,
      .typeName namesB typeidB timezoneB setofB pctTypeB typmodsB typemodB arrayBoundsB
        locationB =>
      equal namesA namesB && typeidA == typeidB && timezoneA == timezoneB && setofA == setofB &&
        pctTypeA == pctTypeB && equal typmodsA typmodsB && typemodA == typemodB &&
        equal arrayBoundsA arrayBoundsB && locationA == locationB
  | .other a, .other b => equalOther a b
  | _, _ => false

/-- The loop of `_equalList` over two lists of nodes. -/
def equalElements : List (NodePtr O) → List (NodePtr O) → Bool
  | a :: restA, b :: restB => equal a b && equalElements restA restB
  | _, _ => true

end

end Equal

/-! ## What the routines decide -/

theorem equalstr_iff (a b : Option (List Char)) : equalstr a b = true ↔ a = b := by
  cases a <;> cases b <;> simp [equalstr]

theorem equalValue_iff (a b : Value) : equalValue a b = true ↔ a = b := by
  cases a <;> cases b <;> simp [equalValue, equalstr]

/-- Over lists of one length the loop compares all numbers. -/
theorem equalNumbers_iff {α : Type} [BEq α] [LawfulBEq α] {a b : List α}
    (sameLength : a.length = b.length) : equalNumbers a b = true ↔ a = b := by
  induction a generalizing b with
  | nil =>
      have empty : b = [] := List.length_eq_zero_iff.mp sameLength.symm
      simp [empty, equalNumbers]
  | cons first rest ih =>
      cases b with
      | nil => cases sameLength
      | cons other others =>
          simp [equalNumbers, ih (Nat.succ.inj sameLength)]

theorem equalNumbers_and_iff {α : Type} [BEq α] [LawfulBEq α] (a b : List α) :
    a.length = b.length ∧ equalNumbers a b = true ↔ a = b := by
  constructor
  · rintro ⟨sameLength, numbers⟩
    exact (equalNumbers_iff sameLength).mp numbers
  · rintro rfl
    exact ⟨rfl, (equalNumbers_iff rfl).mpr rfl⟩

mutual

/-- `equal` holds of equal nodes only, and of all of them. -/
theorem equal_iff {equalOther : O → O → Bool} (others : ∀ a b, equalOther a b = true ↔ a = b)
    (a b : NodePtr O) : equal equalOther a b = true ↔ a = b := by
  cases a with
  | null => cases b <;> simp [equal]
  | value a => cases b <;> simp [equal, equalValue_iff]
  | list a =>
      cases b with
      | list b =>
          simp only [equal, Bool.and_eq_true, beq_iff_eq, NodePtr.list.injEq]
          constructor
          · rintro ⟨sameLength, elements⟩
            exact (equalElements_iff others a b sameLength).mp elements
          · rintro rfl
            exact ⟨rfl, (equalElements_iff others a a rfl).mpr rfl⟩
      | _ => simp [equal]
  | intList a => cases b <;> simp [equal, equalNumbers_and_iff]
  | oidList a => cases b <;> simp [equal, equalNumbers_and_iff]
  | skylineClause distinct list options =>
      cases b with
      | skylineClause distinctB listB optionsB =>
          simp [equal, equal_iff others list listB, equal_iff others options optionsB, and_assoc]
      | _ => simp [equal]
  | skylineOf ref restype op nullsFirst dir => cases b <;> simp [equal, and_assoc]
  | skylineOption name value =>
      cases b with
      | skylineOption nameB valueB => simp [equal, equalstr_iff, equal_iff others value valueB]
      | _ => simp [equal]
  | aConst val typename =>
      cases b with
      | aConst valB typenameB =>
          simp [equal, equalValue_iff, equal_iff others typename typenameB]
      | _ => simp [equal]
  | typeName names typeid timezone setof pctType typmods typemod arrayBounds location =>
      cases b with
      | typeName namesB typeidB timezoneB setofB pctTypeB typmodsB typemodB arrayBoundsB
          locationB =>
          simp [equal, equal_iff others names namesB, equal_iff others typmods typmodsB,
            equal_iff others arrayBounds arrayBoundsB, and_assoc]
      | _ => simp [equal]
  | other a => cases b <;> simp [equal, others]

theorem equalElements_iff {equalOther : O → O → Bool}
    (others : ∀ a b, equalOther a b = true ↔ a = b) (a b : List (NodePtr O))
    (sameLength : a.length = b.length) : equalElements equalOther a b = true ↔ a = b := by
  cases a with
  | nil =>
      have empty : b = [] := List.length_eq_zero_iff.mp sameLength.symm
      simp [empty, equalElements]
  | cons first rest =>
      cases b with
      | nil => cases sameLength
      | cons other later =>
          simp [equalElements, equal_iff others first other,
            equalElements_iff others rest later (Nat.succ.inj sameLength)]

end

/-- `equal` tells any two nodes of a skyline clause apart, however they are nested, and holds
of a node and its copy. -/
theorem equal_copyNode_iff (equalOther : O → O → Bool)
    (others : ∀ a b, equalOther a b = true ↔ a = b) (copyFuncs : CopyFuncs O U)
    (correct : copyFuncs.Correct) (a b : NodePtr O) :
    (equal equalOther a b = true ↔ a = b) ∧
      ∃ copy, copyNode copyFuncs a = .ok copy ∧ (equal equalOther copy b = true ↔ a = b) :=
  ⟨equal_iff others a b, a, copyNode_eq correct a, equal_iff others a b⟩

/-- The clauses `SKYLINE OF a MIN WITH slots = 3` and `… = 4` are not equal. -/
theorem equal_copyNode_iff_slots :
    let clause : Int → NodePtr Nat := fun slots =>
      (⟨false, [⟨1, 23, 97, false, .min⟩], [⟨"slots", .integer slots⟩]⟩ :
        SkylineClause).toNode
    equal (· == ·) (clause 3) (clause 4) = false ∧
      (equal (· == ·) (clause 3) (clause 4) = true ↔ clause 3 = clause 4) ∧
      ∃ copy, copyNode (⟨.ok, .ok⟩ : CopyFuncs Nat Nat) (clause 3) = .ok copy ∧
        (equal (· == ·) copy (clause 4) = true ↔ clause 3 = clause 4) := by
  intro clause
  exact ⟨by decide, equal_copyNode_iff (· == ·) (by simp) (⟨.ok, .ok⟩ : CopyFuncs Nat Nat)
    ⟨fun _ => rfl, fun _ => rfl⟩ (clause 3) (clause 4)⟩

end PgSkyline
