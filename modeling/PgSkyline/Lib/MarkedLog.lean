import Mathlib.Data.List.Basic

/-!
# Logs with a read and a marked position

A marked log is a list that grows at its end and is read forward from a read
position.  One position can be marked and restored.  A reader that asked for an
entry behind the last one has met the end: it stays there while the log grows,
until it is moved by another operation.
-/

universe u

/-- A growing list with its positions. -/
structure MarkedLog (α : Type u) where
  entries : List α
  readPos : Nat
  markPos : Nat
  /-- The reader has met the end. -/
  atEnd : Bool
  readPos_le : readPos ≤ entries.length
  markPos_le : markPos ≤ entries.length
  readPos_of_atEnd : atEnd = true → readPos = entries.length

namespace MarkedLog

variable {α : Type u}

/-- A log without entries, marked at its start. -/
def empty : MarkedLog α where
  entries := []
  readPos := 0
  markPos := 0
  atEnd := false
  readPos_le := Nat.le_refl _
  markPos_le := Nat.le_refl _
  readPos_of_atEnd := fun _ => rfl

/-- Add an entry; a reader at the end moves along. -/
def append (log : MarkedLog α) (entry : α) : MarkedLog α where
  entries := log.entries ++ [entry]
  readPos := if log.atEnd then log.entries.length + 1 else log.readPos
  markPos := log.markPos
  atEnd := log.atEnd
  readPos_le := by
    rw [List.length_append]
    split
    · exact Nat.le_refl _
    · exact Nat.le_add_right_of_le log.readPos_le
  markPos_le := by
    rw [List.length_append]
    exact Nat.le_add_right_of_le log.markPos_le
  readPos_of_atEnd := by
    intro atEnd
    rw [if_pos atEnd, List.length_append, List.length_singleton]

theorem readPos_append_of_atEnd {log : MarkedLog α} (atEnd : log.atEnd = true) (entry : α) :
    (log.append entry).readPos = log.entries.length + 1 :=
  if_pos atEnd

/-- Read the next entry, or meet the end. -/
def next (log : MarkedLog α) : Option α × MarkedLog α :=
  if inside : log.readPos < log.entries.length then
    (log.entries[log.readPos]?, { log with
      readPos := log.readPos + 1
      readPos_le := inside
      readPos_of_atEnd := fun atEnd => absurd (log.readPos_of_atEnd atEnd) (Nat.ne_of_lt inside) })
  else
    (none, { log with
      atEnd := true
      readPos_of_atEnd := fun _ => Nat.le_antisymm log.readPos_le (Nat.not_lt.mp inside) })

/-- Mark the read position. -/
def mark (log : MarkedLog α) : MarkedLog α :=
  { log with markPos := log.readPos, markPos_le := log.readPos_le }

/-- Go back to a position inside the log. -/
def moveTo (log : MarkedLog α) (pos : Nat) (inside : pos ≤ log.entries.length) : MarkedLog α :=
  { log with
    readPos := pos, atEnd := false, readPos_le := inside, 
    readPos_of_atEnd := fun atEnd => by cases atEnd }

/-- Go back to the marked position. -/
def restore (log : MarkedLog α) : MarkedLog α :=
  log.moveTo log.markPos log.markPos_le

/-- Go to the start. -/
def rewind (log : MarkedLog α) : MarkedLog α :=
  log.moveTo 0 (Nat.zero_le _)

/-- Go behind the last entry. -/
def skip (log : MarkedLog α) : MarkedLog α :=
  log.moveTo log.entries.length (Nat.le_refl _)

@[simp]
theorem entries_next (log : MarkedLog α) : log.next.2.entries = log.entries := by
  unfold next
  split <;> rfl

@[simp]
theorem markPos_next (log : MarkedLog α) : log.next.2.markPos = log.markPos := by
  unfold next
  split <;> rfl

theorem readPos_le_next (log : MarkedLog α) : log.readPos ≤ log.next.2.readPos := by
  unfold next
  split
  · exact Nat.le_succ _
  · exact Nat.le_refl _

theorem next_of_lt {log : MarkedLog α} (inside : log.readPos < log.entries.length) :
    log.next.1 = log.entries[log.readPos]? ∧ log.next.2.readPos = log.readPos + 1 ∧
      log.next.2.atEnd = log.atEnd := by
  simp [next, inside]

theorem next_of_not_lt {log : MarkedLog α} (beyond : ¬ log.readPos < log.entries.length) :
    log.next.1 = none ∧ log.next.2.readPos = log.readPos ∧ log.next.2.atEnd = true := by
  simp [next, beyond]

/-! ## Reading on -/

/-- The entries that were not read yet. -/
def unread (log : MarkedLog α) : List α :=
  log.entries.drop log.readPos

@[simp]
theorem unread_restore (log : MarkedLog α) : log.restore.unread = log.entries.drop log.markPos :=
  rfl

theorem next_of_unread_cons {log : MarkedLog α} {entry : α} {rest : List α}
    (unreadEq : log.unread = entry :: rest) :
    log.next.1 = some entry ∧ log.next.2.unread = rest := by
  have found : log.entries[log.readPos]? = some entry := by
    rw [← List.head?_drop]
    exact congrArg List.head? unreadEq
  have inside : log.readPos < log.entries.length := (List.getElem?_eq_some_iff.mp found).1
  rcases next_of_lt inside with ⟨answer, readPos, _⟩
  constructor
  · rw [answer, found]
  · rw [unread, entries_next, readPos, ← List.tail_drop]
    exact congrArg List.tail unreadEq

theorem next_of_unread_nil {log : MarkedLog α} (unreadEq : log.unread = []) :
    log.next.1 = none ∧ log.next.2.unread = [] := by
  have beyond : ¬ log.readPos < log.entries.length :=
    Nat.not_lt.mpr (List.drop_eq_nil_iff.mp unreadEq)
  rcases next_of_not_lt beyond with ⟨answer, readPos, _⟩
  constructor
  · exact answer
  · rw [unread, entries_next, readPos]
    exact unreadEq

end MarkedLog
