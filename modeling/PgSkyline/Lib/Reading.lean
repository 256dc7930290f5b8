import Mathlib.Data.List.Basic

/-!
# Reading back what was written

A reader takes symbols from the front of a text.  It reads a piece of text as a
value if it takes exactly this piece and returns the value, whatever comes behind
it, as long as what comes behind may follow.  It rejects a piece of text if it
fails on it in the same circumstances.

Both relations compose along the bind of the reader monad and the concatenation of
the texts, so a round trip is proved piece by piece.
-/

namespace Reading

universe u v w

/-- A reader of symbols `σ` with failures `ε`. -/
abbrev Reader (σ : Type u) (ε : Type v) :=
  StateT (List σ) (Except ε)

variable {σ ε α β : Type u} (mayFollow : List σ → Prop)

/-- The reader takes the text and returns the value. -/
def Reads (reader : Reader σ ε α) (text : List σ) (value : α) : Prop :=
  ∀ rest, mayFollow rest → reader.run (text ++ rest) = .ok (value, rest)

/-- The reader fails on the text. -/
def Rejects (reader : Reader σ ε α) (text : List σ) : Prop :=
  ∀ rest, mayFollow rest → ∃ error, reader.run (text ++ rest) = .error error

variable {mayFollow} {before : List σ → Prop} {reader : Reader σ ε α}
  {next : α → Reader σ ε β} {text later : List σ} {value : α} {result : β}

theorem reads_pure (value : α) : Reads mayFollow (pure value : Reader σ ε α) [] value :=
  fun _ _ => rfl

theorem rejects_throw (error : ε) : Rejects mayFollow (throw error : Reader σ ε α) text :=
  fun _ _ => ⟨error, rfl⟩

/-- Read a value, and then go on with the text behind it. -/
theorem Reads.bind (first : Reads before reader text value)
    (second : Reads mayFollow (next value) later result)
    (follows : ∀ rest, mayFollow rest → before (later ++ rest)) :
    Reads mayFollow (reader >>= next) (text ++ later) result := by
  intro rest behind
  rw [List.append_assoc, StateT.run_bind, first _ (follows rest behind)]
  exact second rest behind

/-- A reader that goes on to take nothing. -/
theorem Reads.map (first : Reads mayFollow reader text value)
    (second : Reads mayFollow (next value) [] result) :
    Reads mayFollow (reader >>= next) text result := by
  have both := first.bind second fun _ behind => behind
  rwa [List.append_nil] at both

theorem Rejects.bind (first : Rejects before reader text)
    (follows : ∀ rest, mayFollow rest → before (later ++ rest)) :
    Rejects mayFollow (reader >>= next) (text ++ later) := by
  intro rest behind
  rcases first _ (follows rest behind) with ⟨error, failed⟩
  refine ⟨error, ?_⟩
  rw [List.append_assoc, StateT.run_bind, failed]
  rfl

theorem Rejects.map (first : Rejects mayFollow reader text) :
    Rejects mayFollow (reader >>= next) text := by
  have both := @Rejects.bind _ _ _ _ _ _ _ next _ [] first fun _ behind => behind
  rwa [List.append_nil] at both

/-- Read a value, and fail behind it. -/
theorem Reads.bind_rejects (first : Reads before reader text value)
    (second : Rejects mayFollow (next value) later)
    (follows : ∀ rest, mayFollow rest → before (later ++ rest)) :
    Rejects mayFollow (reader >>= next) (text ++ later) := by
  intro rest behind
  rcases second rest behind with ⟨error, failed⟩
  refine ⟨error, ?_⟩
  rw [List.append_assoc, StateT.run_bind, first _ (follows rest behind)]
  exact failed

/-- Look at the whole text that is left. -/
theorem Reads.get_bind {next : List σ → Reader σ ε β}
    (reads : ∀ input, text.length ≤ input.length → Reads mayFollow (next input) text result) :
    Reads mayFollow (get >>= next) text result := by
  intro rest behind
  exact reads (text ++ rest) (by simp) rest behind

theorem Rejects.get_bind {next : List σ → Reader σ ε β}
    (rejects : ∀ input, Rejects mayFollow (next input) text) :
    Rejects mayFollow (get >>= next) text := by
  intro rest behind
  exact rejects (text ++ rest) rest behind

end Reading
