import Mathlib.Data.List.Basic

/-!
# Sessions with an object

A session is a sequence of requests that an object answers one after the other,
where each answer may change the object and any of them may fail.  The module
gives the run of a session, what it means that every request is made in a state
that allows it, and the two rules the clients use: an invariant that allowed
requests keep holds to the end, and an object that is simulated request by
request gives the same answers.
-/

namespace Session

universe u v w x

/-- How an object with states `σ` answers one request. -/
abbrev Step (ε : Type u) (σ : Type v) (ι : Type w) (ω : Type x) :=
  σ → ι → Except ε (ω × σ)

variable {ε : Type u} {σ : Type v} {ι : Type w} {ω : Type x}

/-- Answer the requests in turn. -/
def run (step : Step ε σ ι ω) : σ → List ι → Except ε (List ω × σ)
  | s, [] => .ok ([], s)
  | s, request :: rest =>
      match step s request with
      | .error error => .error error
      | .ok (answer, s') =>
          match run step s' rest with
          | .error error => .error error
          | .ok (answers, last) => .ok (answer :: answers, last)

/-- Every request of the session is made in a state that allows it. -/
def Allowed (step : Step ε σ ι ω) (allows : σ → ι → Prop) : σ → List ι → Prop
  | _, [] => True
  | s, request :: rest => allows s request ∧
      ∀ answer s', step s request = .ok (answer, s') → Allowed step allows s' rest

variable {step : Step ε σ ι ω} {allows : σ → ι → Prop}

@[simp]
theorem run_nil (s : σ) : run step s [] = .ok ([], s) :=
  rfl

@[simp]
theorem allowed_nil (s : σ) : Allowed step allows s [] :=
  trivial

theorem run_cons_of_ok {s s' : σ} {request : ι} {answer : ω}
    (answered : step s request = .ok (answer, s')) (rest : List ι) :
    run step s (request :: rest) =
      match run step s' rest with
      | .error error => .error error
      | .ok (answers, last) => .ok (answer :: answers, last) := by
  rw [run, answered]

theorem run_cons_eq_ok_iff (s last : σ) (request : ι) (rest : List ι) (answers : List ω) :
    run step s (request :: rest) = .ok (answers, last) ↔
      ∃ answer s' later, step s request = .ok (answer, s') ∧
        run step s' rest = .ok (later, last) ∧ answers = answer :: later := by
  rw [run]
  cases answered : step s request with
  | error error => simp
  | ok result =>
      rcases result with ⟨answer, s'⟩
      constructor
      · intro completed
        cases continued : run step s' rest with
        | error error => simp [continued] at completed
        | ok result =>
            rcases result with ⟨later, last'⟩
            simp only [continued, Except.ok.injEq, Prod.mk.injEq] at completed
            rcases completed with ⟨rfl, rfl⟩
            exact ⟨answer, s', later, rfl, continued, rfl⟩
      · rintro ⟨answer', s'', later, answered', continued, rfl⟩
        cases answered'
        simp only [continued]

/-- A session in two parts. -/
theorem run_append {s middle : σ} {first : List ι} {answers : List ω}
    (begun : run step s first = .ok (answers, middle)) (second : List ι) :
    run step s (first ++ second) =
      match run step middle second with
      | .error error => .error error
      | .ok (later, last) => .ok (answers ++ later, last) := by
  induction first generalizing s answers with
  | nil =>
      cases begun
      simp only [List.nil_append]
      cases run step middle second <;> rfl
  | cons request rest ih =>
      rcases (run_cons_eq_ok_iff _ _ _ _ _).mp begun with
        ⟨answer, s', later, answered, continued, rfl⟩
      rw [List.cons_append, run_cons_of_ok answered, ih continued]
      cases run step middle second <;> rfl

/-- The requests are allowed exactly if each of them is where it is made. -/
theorem allowed_iff (s : σ) (requests : List ι) :
    Allowed step allows s requests ↔
      ∀ before request after answers s', requests = before ++ request :: after →
        run step s before = .ok (answers, s') → allows s' request := by
  induction requests generalizing s with
  | nil => simp
  | cons first rest ih =>
      constructor
      · rintro ⟨now, later⟩ before request after answers s' split reached
        cases before with
        | nil =>
            cases split
            cases reached
            exact now
        | cons head before =>
            cases split
            rcases (run_cons_eq_ok_iff _ _ _ _ _).mp reached with
              ⟨answer, middle, answers', answered, continued, rfl⟩
            exact (ih middle).mp (later answer middle answered) before request after answers' s' rfl
              continued
      · intro each
        constructor
        · exact each [] first rest [] s rfl rfl
        · intro answer s' answered
          rw [ih]
          intro before request after answers s'' split reached
          apply each (first :: before) request after (answer :: answers) s'' (by rw [split]; rfl)
          rw [run_cons_of_ok answered, reached]

theorem Allowed.append_left {s : σ} {before after : List ι}
    (allowed : Allowed step allows s (before ++ after)) : Allowed step allows s before := by
  rw [allowed_iff] at allowed ⊢
  intro first request rest answers s' split reached
  apply allowed first request (rest ++ after) answers s' _ reached
  rw [split, List.append_assoc, List.cons_append]

/-- The requests of a completed session are allowed if success allows a request. -/
theorem allowed_of_run {s last : σ} {requests : List ι} {answers : List ω}
    (completed : run step s requests = .ok (answers, last))
    (allowed : ∀ s request result, step s request = .ok result → allows s request) :
    Allowed step allows s requests := by
  induction requests generalizing s answers with
  | nil => trivial
  | cons request rest ih =>
      rcases (run_cons_eq_ok_iff _ _ _ _ _).mp completed with
        ⟨answer, s', later, answered, continued, _⟩
      constructor
      · exact allowed s request _ answered
      · intro answer' s'' answered'
        cases answered.symm.trans answered'
        exact ih continued

theorem Allowed.and {allows' : σ → ι → Prop} {s : σ} {requests : List ι}
    (allowed : Allowed step allows s requests) (allowed' : Allowed step allows' s requests) :
    Allowed step (fun s request => allows s request ∧ allows' s request) s requests := by
  rw [allowed_iff] at allowed allowed' ⊢
  intro before request after answers s' split reached
  exact ⟨allowed before request after answers s' split reached,
    allowed' before request after answers s' split reached⟩

/-! ## Invariants -/

/-- An invariant that allowed requests keep holds at the end, and no request
fails. -/
theorem run_of_invariant (Inv : σ → Prop)
    (preserves : ∀ s request, Inv s → allows s request →
      ∃ answer s', step s request = .ok (answer, s') ∧ Inv s')
    {s : σ} {requests : List ι} (inv : Inv s) (allowed : Allowed step allows s requests) :
    ∃ answers last, run step s requests = .ok (answers, last) ∧ Inv last := by
  induction requests generalizing s with
  | nil => exact ⟨[], s, rfl, inv⟩
  | cons request rest ih =>
      rcases allowed with ⟨now, later⟩
      rcases preserves s request inv now with ⟨answer, s', answered, inv'⟩
      rcases ih inv' (later answer s' answered) with ⟨answers, last, continued, invLast⟩
      exact ⟨answer :: answers, last, by rw [run_cons_of_ok answered, continued], invLast⟩

/-! ## Simulations -/

section Simulation

universe y

variable {τ : Type y} {abstractStep : Step ε τ ι ω}

/-- An object whose every allowed step is one of the abstract object gives the
same answers. -/
theorem run_of_simulation (R : σ → τ → Prop)
    (simulates : ∀ s t request, R s t → allows s request →
      ∃ answer s' t', step s request = .ok (answer, s') ∧
        abstractStep t request = .ok (answer, t') ∧ R s' t')
    {s : σ} {t : τ} {requests : List ι} (related : R s t)
    (allowed : Allowed step allows s requests) :
    ∃ answers last abstractLast, run step s requests = .ok (answers, last) ∧
      run abstractStep t requests = .ok (answers, abstractLast) ∧ R last abstractLast := by
  induction requests generalizing s t with
  | nil => exact ⟨[], s, t, rfl, rfl, related⟩
  | cons request rest ih =>
      rcases allowed with ⟨now, later⟩
      rcases simulates s t request related now with ⟨answer, s', t', answered, abstractly, related'⟩
      rcases ih related' (later answer s' answered) with
        ⟨answers, last, abstractLast, continued, abstractContinued, relatedLast⟩
      exact ⟨answer :: answers, last, abstractLast, by rw [run_cons_of_ok answered, continued],
        by rw [run_cons_of_ok abstractly, abstractContinued], relatedLast⟩

end Simulation

end Session
