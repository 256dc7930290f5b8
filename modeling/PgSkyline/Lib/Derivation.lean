import Mathlib.Data.List.Induction

/-!
# Rules of a grammar

A rule relates the texts of a nonterminal to their values.  It is unambiguous before the
texts that may follow if of any two of its texts, each with a text behind it that may
follow, the whole being the same, the values and the texts behind are the same.

The lists of a grammar, one item or more with a separator between them, are unambiguous
if their items are, and if what follows a list never looks like another item.
-/

namespace Derivation

universe u v w

variable {σ : Type u} {α : Type v} {β : Type w}

/-- The texts of a nonterminal with their values. -/
abbrev Rule (σ : Type u) (α : Type v) :=
  List σ → α → Prop

/-- What stands before a text that may follow is read in one way. -/
def Unambiguous (mayFollow : List σ → Prop) (rule : Rule σ α) : Prop :=
  ∀ ⦃text : List σ⦄ ⦃value : α⦄ ⦃rest text' : List σ⦄ ⦃value' : α⦄ ⦃rest' : List σ⦄,
    rule text value → rule text' value' → mayFollow rest → mayFollow rest' →
      text ++ rest = text' ++ rest' → value = value' ∧ rest = rest'

/-- Zero items or more, with the separator before each of them. -/
inductive Repeated (separator : List σ) (rule : Rule σ α) : Rule σ (List α)
  | nil : Repeated separator rule [] []
  | cons {text later : List σ} {value : α} {values : List α} : rule text value →
      Repeated separator rule later values →
      Repeated separator rule (separator ++ (text ++ later)) (value :: values)

/-- `list: item | list separator item`. -/
inductive Listed (separator : List σ) (rule : Rule σ α) : Rule σ (List α)
  | single {text : List σ} {value : α} : rule text value →
      Listed separator rule text [value]
  | append {text later : List σ} {values : List α} {value : α} :
      Listed separator rule text values → rule later value →
      Listed separator rule (text ++ (separator ++ later)) (values ++ [value])

/-- The text does not start with a symbol that would go on. -/
def Avoids (goesOn : σ → Prop) (text : List σ) : Prop :=
  ∀ symbol ∈ text.head?, ¬ goesOn symbol

@[simp]
theorem avoids_nil (goesOn : σ → Prop) : Avoids goesOn [] := by
  simp [Avoids]

@[simp]
theorem avoids_cons (goesOn : σ → Prop) (symbol : σ) (text : List σ) :
    Avoids goesOn (symbol :: text) ↔ ¬ goesOn symbol := by
  simp [Avoids]

theorem Avoids.mono {goesOn goesOn' : σ → Prop} {text : List σ} (avoids : Avoids goesOn text)
    (implies : ∀ symbol, goesOn' symbol → goesOn symbol) : Avoids goesOn' text :=
  fun symbol mem => mt (implies symbol) (avoids symbol mem)

variable {mayFollow before : List σ → Prop} {separator : List σ} {rule : Rule σ α}

/-- A rule whose texts another rule has, with values that determine those of the rule. -/
theorem Unambiguous.image {other : Rule σ β} (unambiguous : Unambiguous mayFollow other)
    (f : β → α) (view : ∀ text value, rule text value → ∃ b, other text b ∧ f b = value) :
    Unambiguous mayFollow rule := by
  intro text value rest text' value' rest' first second follows follows' same
  rcases view text value first with ⟨b, derived, rfl⟩
  rcases view text' value' second with ⟨b', derived', rfl⟩
  rcases unambiguous derived derived' follows follows' same with ⟨rfl, rfl⟩
  exact ⟨rfl, rfl⟩

/-- The texts are the same, too. -/
theorem Unambiguous.text_eq (unambiguous : Unambiguous mayFollow rule) {text text' : List σ}
    {value value' : α} {rest rest' : List σ} (first : rule text value)
    (second : rule text' value') (follows : mayFollow rest) (follows' : mayFollow rest')
    (same : text ++ rest = text' ++ rest') : text = text' := by
  rcases unambiguous first second follows follows' same with ⟨_, rfl⟩
  exact List.append_cancel_right same

/-! ## Repetitions -/

theorem Repeated.snoc {text later : List σ} {values : List α} {value : α}
    (repeated : Repeated separator rule text values) (last : rule later value) :
    Repeated separator rule (text ++ (separator ++ later)) (values ++ [value]) := by
  induction repeated with
  | nil => simpa using Repeated.cons last .nil
  | cons first _ ih => simpa using Repeated.cons first ih

/-- What stands between an item and the text behind the repetition. -/
theorem Repeated.follows (goesOn : ∀ text value rest, rule text value →
      before (separator ++ (text ++ rest)))
    {text : List σ} {values : List α} {rest : List σ}
    (repeated : Repeated separator rule text values) (stops : before rest) :
    before (text ++ rest) := by
  cases repeated with
  | nil => exact stops
  | cons first _ =>
      rw [List.append_assoc, List.append_assoc]
      exact goesOn _ _ _ first

theorem Repeated.unambiguous (items : Unambiguous before rule)
    (stops : ∀ rest, mayFollow rest → before rest)
    (goesOn : ∀ text value rest, rule text value → before (separator ++ (text ++ rest)))
    (apart : ∀ text value rest, rule text value → ¬ mayFollow (separator ++ (text ++ rest))) :
    Unambiguous mayFollow (Repeated separator rule) := by
  intro text value rest text' value' rest' first second follows follows' same
  induction first generalizing text' value' with
  | nil =>
      cases second with
      | nil => exact ⟨rfl, same⟩
      | cons item _ =>
          rw [List.nil_append, List.append_assoc, List.append_assoc] at same
          rw [same] at follows
          exact absurd follows (apart _ _ _ item)
  | cons item more ih =>
      cases second with
      | nil =>
          rw [List.nil_append, List.append_assoc, List.append_assoc] at same
          rw [← same] at follows'
          exact absurd follows' (apart _ _ _ item)
      | cons item' more' =>
          simp only [List.append_assoc, List.append_cancel_left_eq] at same
          rcases items item item' (more.follows goesOn (stops rest follows))
            (more'.follows goesOn (stops rest' follows')) same with ⟨rfl, sameLater⟩
          rcases ih more' sameLater with ⟨rfl, rfl⟩
          exact ⟨rfl, rfl⟩

/-! ## Lists -/

/-- A list read from the front. -/
theorem Listed.exists_first {text : List σ} {values : List α}
    (listed : Listed separator rule text values) :
    ∃ first value later more, text = first ++ later ∧ values = value :: more ∧
      rule first value ∧ Repeated separator rule later more := by
  induction listed with
  | single item => exact ⟨_, _, [], [], by simp, rfl, item, .nil⟩
  | append _ last ih =>
      rcases ih with ⟨first, value, later, more, rfl, rfl, item, repeated⟩
      exact ⟨first, value, _, _, by simp, by simp, item, repeated.snoc last⟩

theorem Listed.unambiguous (items : Unambiguous before rule)
    (stops : ∀ rest, mayFollow rest → before rest)
    (goesOn : ∀ text value rest, rule text value → before (separator ++ (text ++ rest)))
    (apart : ∀ text value rest, rule text value → ¬ mayFollow (separator ++ (text ++ rest))) :
    Unambiguous mayFollow (Listed separator rule) := by
  intro text value rest text' value' rest' first second follows follows' same
  rcases first.exists_first with ⟨head, value, later, more, rfl, rfl, item, repeated⟩
  rcases second.exists_first with ⟨head', value', later', more', rfl, rfl, item', repeated'⟩
  rw [List.append_assoc, List.append_assoc] at same
  rcases items item item' (repeated.follows goesOn (stops rest follows))
    (repeated'.follows goesOn (stops rest' follows')) same with ⟨rfl, sameLater⟩
  rcases Repeated.unambiguous items stops goesOn apart repeated repeated' follows follows'
    sameLater with ⟨rfl, rfl⟩
  exact ⟨rfl, rfl⟩

/-- The values of lists. -/
theorem exists_listed_iff {values : List α} :
    (∃ text, Listed separator rule text values) ↔
      values ≠ [] ∧ ∀ value ∈ values, ∃ text, rule text value := by
  constructor
  · rintro ⟨text, listed⟩
    induction listed with
    | single item => simpa using ⟨_, item⟩
    | append _ last ih =>
        refine ⟨by simp, fun value mem => ?_⟩
        rcases List.mem_append.mp mem with mem | mem
        · exact ih.2 value mem
        · rw [List.mem_singleton.mp mem]
          exact ⟨_, last⟩
  · rintro ⟨nonempty, items⟩
    induction values using List.reverseRecOn with
    | nil => exact absurd rfl nonempty
    | append_singleton values value ih =>
        rcases items value (by simp) with ⟨later, last⟩
        by_cases isNil : values = []
        · rw [isNil]
          exact ⟨later, .single last⟩
        · rcases ih isNil fun value mem => items value (List.mem_append_left _ mem) with
            ⟨text, listed⟩
          exact ⟨_, .append listed last⟩

end Derivation
