import Mathlib.Data.List.Basic

/-!
# Faults of the modelled C code

A C function of the model returns in `Except Fault`.  A fault is either a
behaviour the C language leaves undefined, a failing assertion, or an error
report that aborts the statement.
-/

namespace PgSkyline

inductive Fault where
  /-- `Assert`, `AssertArg` or `AssertState` of this condition failed. -/
  | assertion (condition : String)
  /-- `elog(ERROR, …)` or `ereport(ERROR, …)` with this text. -/
  | elog (message : String)
  /-- A null pointer was dereferenced. -/
  | nullPointer
  /-- An object was used after it was ended. -/
  | usedAfterEnd
  /-- An object was ended a second time. -/
  | endedTwice
  /-- A freed slot or an array element out of bounds was read. -/
  | invalidRead
  /-- A local variable was read before its first assignment. -/
  | uninitialized
  /-- The unrolling bound of a loop was too small. -/
  | loopBound
  deriving DecidableEq, Repr

/-- `Assert(condition)`. -/
def assertThat (condition : Bool) (text : String) : Except Fault Unit :=
  if condition then .ok () else .error (.assertion text)

@[simp]
theorem assertThat_true (text : String) : assertThat true text = .ok () :=
  rfl

@[simp]
theorem assertThat_false (text : String) : assertThat false text = .error (.assertion text) :=
  rfl

variable {α β : Type}

@[simp]
theorem ok_bind (a : α) (f : α → Except Fault β) : (Except.ok a >>= f) = f a :=
  rfl

@[simp]
theorem error_bind (fault : Fault) (f : α → Except Fault β) :
    (Except.error fault >>= f) = Except.error fault :=
  rfl

@[simp]
theorem pure_eq_ok (a : α) : (pure a : Except Fault α) = .ok a :=
  rfl

@[simp]
theorem throw_eq_error (fault : Fault) : (throw fault : Except Fault α) = .error fault :=
  rfl

/-- A sequence succeeds exactly if both parts do. -/
theorem bind_eq_ok_iff (x : Except Fault α) (f : α → Except Fault β) (b : β) :
    (x >>= f) = .ok b ↔ ∃ a, x = .ok a ∧ f a = .ok b := by
  cases x <;> simp

/-! ## Elementwise translation of a list -/

section MapM

variable {f : α → Except Fault β}

theorem mem_of_mapM_eq_ok {items : List α} {results : List β} (mapped : items.mapM f = .ok results)
    (b : β) : b ∈ results ↔ ∃ a ∈ items, f a = .ok b := by
  induction items generalizing results with
  | nil =>
      cases mapped
      simp
  | cons a items ih =>
      rw [List.mapM_cons, bind_eq_ok_iff] at mapped
      rcases mapped with ⟨first, firstOk, mapped⟩
      rw [bind_eq_ok_iff] at mapped
      rcases mapped with ⟨later, laterOk, equal⟩
      cases equal
      rw [List.mem_cons, ih laterOk, List.exists_mem_cons_iff, firstOk, Except.ok.injEq, eq_comm]

theorem getElem?_of_mapM_eq_ok {items : List α} {results : List β}
    (mapped : items.mapM f = .ok results) {i : Nat} {a : α} (item : items[i]? = some a) :
    ∃ b, results[i]? = some b ∧ f a = .ok b := by
  induction items generalizing results i with
  | nil => simp at item
  | cons first items ih =>
      rw [List.mapM_cons, bind_eq_ok_iff] at mapped
      rcases mapped with ⟨b, firstOk, mapped⟩
      rw [bind_eq_ok_iff] at mapped
      rcases mapped with ⟨later, laterOk, equal⟩
      cases equal
      cases i with
      | zero =>
          cases item
          exact ⟨b, rfl, firstOk⟩
      | succ i => exact ih laterOk item

theorem exists_mapM_eq_ok {items : List α} (each : ∀ a ∈ items, ∃ b, f a = .ok b) :
    ∃ results, items.mapM f = .ok results := by
  induction items with
  | nil => exact ⟨[], rfl⟩
  | cons a items ih =>
      rcases each a List.mem_cons_self with ⟨b, first⟩
      rcases ih fun a mem => each a (List.mem_cons_of_mem _ mem) with ⟨results, later⟩
      exact ⟨b :: results, by simp only [List.mapM_cons, first, later, ok_bind, pure_eq_ok]⟩

theorem length_of_mapM_eq_ok {items : List α} {results : List β}
    (mapped : items.mapM f = .ok results) : results.length = items.length := by
  induction items generalizing results with
  | nil =>
      cases mapped
      rfl
  | cons a items ih =>
      rw [List.mapM_cons, bind_eq_ok_iff] at mapped
      rcases mapped with ⟨b, _, mapped⟩
      rw [bind_eq_ok_iff] at mapped
      rcases mapped with ⟨later, laterOk, equal⟩
      cases equal
      rw [List.length_cons, List.length_cons, ih laterOk]

/-- Two translations of one list go in parallel. -/
theorem zip_of_mapM_eq_ok {γ : Type} {g : α → Except Fault γ} {items : List α} {firsts : List β}
    {seconds : List γ} (first : items.mapM f = .ok firsts) (second : items.mapM g = .ok seconds) :
    firsts.length = seconds.length ∧
      ∀ pair ∈ firsts.zip seconds, ∃ a ∈ items, f a = .ok pair.1 ∧ g a = .ok pair.2 := by
  induction items generalizing firsts seconds with
  | nil =>
      cases first
      cases second
      simp
  | cons a items ih =>
      simp only [List.mapM_cons, bind_eq_ok_iff] at first second
      rcases first with ⟨b, bOk, firsts, firstsOk, equal⟩
      rcases second with ⟨c, cOk, seconds, secondsOk, equal'⟩
      cases equal
      cases equal'
      rcases ih firstsOk secondsOk with ⟨sameLength, each⟩
      constructor
      · rw [List.length_cons, List.length_cons, sameLength]
      · intro pair pairMem
        rw [List.zip_cons_cons] at pairMem
        rcases List.mem_cons.mp pairMem with rfl | later
        · exact ⟨a, List.mem_cons_self, bOk, cOk⟩
        · rcases each pair later with ⟨other, otherMem, both⟩
          exact ⟨other, List.mem_cons_of_mem _ otherMem, both⟩

end MapM

end PgSkyline
