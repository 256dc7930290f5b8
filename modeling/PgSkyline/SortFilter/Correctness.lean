import PgSkyline.Dominance.Lexicographic
import PgSkyline.Passes.Admission
import Mathlib.Data.Prod.Lex

/-!
# Sort filter skyline: invariant and variant

A tuple is returned when it is put into the window, so the window only repeats
results of its pass.  Once a tuple has overflowed the window stays full to the
end of the pass; every result of the pass was therefore in the window when the
tuple was compared with it.

Without any law and any order of the input a scan ends or is stopped by the
assertion.  The rest needs the laws and an input in which no tuple dominates an
earlier one.
-/

namespace PgSkyline.SortFilter

open Covering Resumable TupleWindowState

variable {T D R : Type} (env : ExecEnv T D R) (node : Skyline D)

/-! ## The variant -/

def stage : SkylineStatus → Nat
  | .init => 1
  | _ => 0

/-- The tuples that wait in both files. -/
def waiting (pass : Pass T R) : Nat :=
  pass.pending.length + pass.overflow.length

/-- Every iteration makes this smaller in the lexicographic order.  A pass with
an empty window is about to return a tuple. -/
def variant (pass : Pass T R) : ℕ ×ₗ ℕ ×ₗ ℕ ×ₗ ℕ :=
  toLex (stage pass.status, toLex (waiting pass,
    toLex (if pass.window.slots = [] then 0 else 1, pass.pending.length)))

theorem variant_lt_of_waiting {pass pass' : Pass T R}
    (status : stage pass'.status = stage pass.status)
    (smaller : waiting pass' < waiting pass) : variant pass' < variant pass := by
  simp only [variant, Prod.Lex.toLex_lt_toLex]
  exact Or.inr ⟨status, Or.inl smaller⟩

private theorem variant_lt_of_pending {pass pass' : Pass T R}
    (status : stage pass'.status = stage pass.status)
    (same : waiting pass' = waiting pass) (slots : pass'.window.slots = pass.window.slots)
    (smaller : pass'.pending.length < pass.pending.length) : variant pass' < variant pass := by
  simp only [variant, Prod.Lex.toLex_lt_toLex, slots]
  exact Or.inr ⟨status, Or.inr ⟨same, Or.inr ⟨trivial, smaller⟩⟩⟩

/-! ## The invariant -/

variable (start : TupleWindowState T R) (input sent : List T)

/-- What holds without any law of the compare functions. -/
structure Counted (pass : Pass T R) : Prop where
  timestampOut : pass.timestampOut = pass.overflow.length
  full : pass.overflow ≠ [] →
    ¬ HasRoom env.space start.maxKBytes start.maxSlots pass.window.slots

/-- The input is one that the planner may hand to sort filter skyline. -/
def Presorted : Prop :=
  LawfulCols node.cols ∧ NoLaterDominates env.slotGetattr node.cols input

/-- What a presorted input gives on top. -/
structure Known (pass : Pass T R) : Prop where
  covers : Covers (NodeBeats env node) (sent ++ (pass.overflow ++ pass.pending)) input
  inOrder : NoLaterDominates env.slotGetattr node.cols (pass.overflow ++ pass.pending)
  sentApart : sent.Pairwise (Apart (NodeBeats env node))
  overflowApart : ∀ x ∈ sent, ∀ y ∈ pass.overflow, Apart (NodeBeats env node) x y
  pendingApart : ∀ x ∈ sent, x ∈ tuplesOf pass.window.slots ∨
    ∀ y ∈ pass.pending, Apart (NodeBeats env node) x y
  windowSent : ∀ x ∈ tuplesOf pass.window.slots, x ∈ sent
  windowFirst : ∀ x ∈ tuplesOf pass.window.slots, ∀ y ∈ pass.pending,
    ¬ Dominates env.slotGetattr node.cols y x

/-- The invariant of a run that started with the empty window `start` and has
returned `sent`. -/
structure Inv (pass : Pass T R) : Prop where
  balanced : Balanced env.space pass.window
  limits : SameLimits start pass.window
  contents :
    match pass.status with
    | .init => pass.pending = input ∧ pass.window.slots = [] ∧ sent = []
    | .process => Counted env start pass ∧
        (Presorted env node input → Known env node input sent pass)
    | .done => Presorted env node input → NodeSieved env node input sent
    | .pipeout | .finalPipeout => False

variable {env} {node} {start} {input} {sent}

/-! ## Reading one tuple -/

section Tuple

variable {pass : Pass T R} {slot : T} {rest : List T}

/-- A tuple that passed the window is apart from everything returned. -/
theorem Known.apart_of_survived (presorted : Presorted env node input)
    (known : Known env node input sent pass) (pending : pass.pending = slot :: rest)
    (survived : (!pass.window.slots.any (stopsTuple env node slot)) = true) :
    ∀ x ∈ sent, Apart (NodeBeats env node) x slot := by
  intro x sentMem
  have slotMem : slot ∈ pass.pending := by simp [pending]
  rcases known.pendingApart x sentMem with windowMem | apart
  · rcases List.mem_map.mp windowMem with ⟨held, heldMem, rfl⟩
    apply apart_of_not_beats presorted.1
    · intro beats
      have stops := (stopsTuple_iff slot held).mpr beats
      have noStop : ∀ other ∈ pass.window.slots, stopsTuple env node slot other = false := by
        simpa using survived
      rw [noStop held heldMem] at stops
      contradiction
    · exact known.windowFirst _ windowMem slot slotMem
  · exact apart slot slotMem

theorem Known.dropped (presorted : Presorted env node input)
    (known : Known env node input sent pass) (pending : pass.pending = slot :: rest)
    (stopped : (!pass.window.slots.any (stopsTuple env node slot)) = false)
    {window : TupleWindowState T R} (slots : window.slots = pass.window.slots)
    (status : SkylineStatus)
    (drawn : Nat) :
    Known env node input sent { pass with status, window, pending := rest, drawn } := by
  have trans : IsTrans T (NodeBeats env node) := Beats.isTrans presorted.1 _
  have stops : ∃ held ∈ pass.window.slots, stopsTuple env node slot held = true := by
    simpa using stopped
  rcases stops with ⟨held, heldMem, stop⟩
  have heldSent : held.tuple ∈ sent :=
    known.windowSent _ (List.mem_map_of_mem heldMem)
  constructor
  · have candidate : Covers (NodeBeats env node)
        (slot :: (sent ++ (pass.overflow ++ rest))) input := by
      apply known.covers.perm
      rw [pending, ← List.append_assoc, ← List.append_assoc]
      exact List.perm_middle
    exact candidate.drop (List.mem_append_left _ heldSent) ((stopsTuple_iff slot held).mp stop)
  · have inOrder := known.inOrder
    rw [pending] at inOrder
    exact inOrder.sublist ((List.sublist_cons_self slot rest).append_left _)
  · exact known.sentApart
  · exact known.overflowApart
  · intro x sentMem
    rw [slots]
    rcases known.pendingApart x sentMem with windowMem | apart
    · exact Or.inl windowMem
    · exact Or.inr fun y restMem => apart y (by simp [pending, restMem])
  · rw [slots]
    exact known.windowSent
  · rw [slots]
    intro x windowMem y restMem
    exact known.windowFirst x windowMem y (by simp [pending, restMem])

theorem Known.overflows (presorted : Presorted env node input)
    (known : Known env node input sent pass) (pending : pass.pending = slot :: rest)
    (survived : (!pass.window.slots.any (stopsTuple env node slot)) = true)
    {window : TupleWindowState T R} (slots : window.slots = pass.window.slots)
    (status : SkylineStatus) (drawn timestampOut : Nat) :
    Known env node input sent { pass with
      status, window, pending := rest, overflow := pass.overflow ++ [slot],
      timestampOut, drawn } := by
  have slotApart := known.apart_of_survived presorted pending survived
  have moved : pass.overflow ++ [slot] ++ rest = pass.overflow ++ pass.pending := by
    simp [pending]
  constructor
  · rw [moved]
    exact known.covers
  · rw [moved]
    exact known.inOrder
  · exact known.sentApart
  · intro x sentMem y overflowMem
    rcases List.mem_append.mp overflowMem with old | new
    · exact known.overflowApart x sentMem y old
    · rw [List.mem_singleton.mp new]
      exact slotApart x sentMem
  · intro x sentMem
    rw [slots]
    rcases known.pendingApart x sentMem with windowMem | apart
    · exact Or.inl windowMem
    · exact Or.inr fun y restMem => apart y (by simp [pending, restMem])
  · rw [slots]
    exact known.windowSent
  · rw [slots]
    intro x windowMem y restMem
    exact known.windowFirst x windowMem y (by simp [pending, restMem])

theorem Known.stored (presorted : Presorted env node input)
    (known : Known env node input sent pass) (pending : pass.pending = slot :: rest)
    (survived : (!pass.window.slots.any (stopsTuple env node slot)) = true)
    (noOverflow : pass.overflow = []) {window : TupleWindowState T R} {timestamp : Nat} {rank : R}
    (added : window.slots.Perm (⟨slot, timestamp, rank⟩ :: pass.window.slots))
    (status : SkylineStatus) (drawn : Nat) :
    Known env node input (sent ++ [slot]) { pass with status, window, pending := rest, drawn } := by
  have slotApart := known.apart_of_survived presorted pending survived
  have inOrder := known.inOrder
  rw [noOverflow, pending, List.nil_append] at inOrder
  rcases List.pairwise_cons.mp inOrder with ⟨slotFirst, restInOrder⟩
  have tuples : ∀ x, x ∈ tuplesOf window.slots ↔ x = slot ∨ x ∈ tuplesOf pass.window.slots := by
    intro x
    rw [(added.map TupleWindowSlot.tuple).mem_iff, List.map_cons, List.mem_cons]
  constructor
  · have covers := known.covers
    rw [noOverflow, pending] at covers
    simpa [noOverflow] using covers
  · have later : NoLaterDominates env.slotGetattr node.cols rest := restInOrder
    simpa [noOverflow] using later
  · rw [List.pairwise_append]
    exact ⟨known.sentApart, List.pairwise_singleton _ _,
      fun x sentMem y new => List.mem_singleton.mp new ▸ slotApart x sentMem⟩
  · simp [noOverflow]
  · intro x sentMem
    rw [tuples]
    rcases List.mem_append.mp sentMem with old | new
    · rcases known.pendingApart x old with windowMem | apart
      · exact Or.inl (Or.inr windowMem)
      · exact Or.inr fun y restMem => apart y (by simp [pending, restMem])
    · exact Or.inl (Or.inl (List.mem_singleton.mp new))
  · intro x windowMem
    rcases (tuples x).mp windowMem with rfl | old
    · exact List.mem_append_right _ List.mem_cons_self
    · exact List.mem_append_left _ (known.windowSent x old)
  · intro x windowMem y restMem
    rcases (tuples x).mp windowMem with rfl | old
    · exact slotFirst y restMem
    · exact known.windowFirst x old y (by simp [pending, restMem])

end Tuple

/-! ## The iterations -/

variable [LE R] [DecidableLE R] [LT R] [DecidableLT R]

/-- The only failure: with assertion checking, an input that is not presorted. -/
def Misuse (env : ExecEnv T D R) (node : Skyline D) (input : List T) (fault : Fault) : Prop :=
  fault = .assertion "cmp != SYKLINE_CMP_SECOND_DOMINATES" ∧ env.assertChecking = true ∧
    ¬ Presorted env node input

/-- What a drained sort filter skyline has done. -/
def Post (env : ExecEnv T D R) (node : Skyline D) (input sent : List T) (pass : Pass T R) : Prop :=
  pass.status = .done ∧ (Presorted env node input → NodeSieved env node input sent)

/-- One tuple of the source is read. -/
theorem tuple_step {pass : Pass T R} {slot : T} {rest : List T}
    (inv : Inv env node start input sent pass) (process : pass.status = .process)
    (pending : pass.pending = slot :: rest) :
    (∃ fault, sortFilterStep env node (slFlagsOf start.policy) pass slot rest = .error fault ∧
      Misuse env node input fault) ∨
    ∃ result, sortFilterStep env node (slFlagsOf start.policy) pass slot rest = .ok result ∧
      Progresses (Inv env node start input) (Post env node input) variant sent pass result := by
  have contents := inv.contents
  rw [process] at contents
  rcases contents with ⟨⟨timestampOut, full⟩, known⟩
  rcases inv.limits with ⟨sizes, count, policy⟩
  have offered := @offerToWindow_assertNotSecondDominates T D R _ _ _ _ env node
    pass.window inv.balanced 0 slot pass.drawn none
  rw [policy] at offered
  rcases offered with
    ⟨checking, ⟨held, heldMem, evicts⟩, failed⟩ | ⟨admission, offerEq, valid, admitted⟩
  · apply Or.inl
    refine ⟨_, by simp only [sortFilterStep, failed, error_bind], rfl, checking, ?_⟩
    intro presorted
    apply (known presorted).windowFirst held.tuple (List.mem_map_of_mem heldMem) slot
    · simp [pending]
    · exact (evictsSlot_iff presorted.1 slot held).mp evicts
  · apply Or.inr
    have limits := inv.limits.trans valid.limits
    have fewer : rest.length < pass.pending.length := by simp [pending]
    simp only [sortFilterStep, offerEq, ok_bind, pure_eq_ok]
    unfold Admitted at admitted
    rw [sizes, count] at admitted
    cases disposition : admission.disposition with
    | dropped =>
        rw [disposition] at admitted
        rcases admitted with ⟨stopped, slots⟩
        simp only [Pass.spill, reduceCtorEq, if_false]
        refine ⟨_, rfl, ⟨valid.balanced, limits, ?_⟩, ?_⟩
        · simp only [process]
          constructor
          · exact ⟨timestampOut, by simpa only [slots] using full⟩
          · exact fun presorted =>
              (known presorted).dropped presorted pending stopped slots _ _
        · apply variant_lt_of_waiting (by rfl)
          simp only [waiting]
          omega
    | stored =>
        rw [disposition] at admitted
        rcases admitted with ⟨survived, ⟨rank, added⟩, room⟩
        have noOverflow : pass.overflow = [] := by
          by_contra overflowed
          exact full overflowed room
        simp only [Pass.spill, reduceCtorEq, if_false, if_true]
        refine ⟨_, rfl, ⟨valid.balanced, limits, ?_⟩, ?_⟩
        · simp only [process]
          constructor
          · exact ⟨timestampOut, fun overflowed => absurd noOverflow overflowed⟩
          · exact fun presorted =>
              (known presorted).stored presorted pending survived noOverflow added _ _
        · apply variant_lt_of_waiting (by rfl)
          simp only [waiting]
          omega
    | overflows =>
        rw [disposition] at admitted
        rcases admitted with ⟨survived, slots, noRoom⟩
        simp only [Pass.spill, reduceCtorEq, if_false, if_true]
        refine ⟨_, rfl, ⟨valid.balanced, limits, ?_⟩, ?_⟩
        · simp only [process]
          constructor
          · exact ⟨by simp [timestampOut], fun _ => by simpa only [slots] using noRoom⟩
          · exact fun presorted =>
              (known presorted).overflows presorted pending survived slots _ _ _
        · refine variant_lt_of_pending (by rfl) ?_ (by exact slots) (by exact fewer)
          simp only [waiting, pending, List.length_append, List.length_cons, List.length_nil]
          omega

/-- The source is exhausted: the scan ends or the next pass starts. -/
theorem endOfSource_step {pass : Pass T R} (inv : Inv env node start input sent pass)
    (process : pass.status = .process) (pending : pass.pending = [])
    (capacity : HasCapacity start.maxKBytes start.maxSlots) :
    ∃ result, sortFilterPass env node (slFlagsOf start.policy) pass = .ok result ∧
      Progresses (Inv env node start input) (Post env node input) variant sent pass result := by
  have contents := inv.contents
  rw [process] at contents
  rcases contents with ⟨⟨timestampOut, full⟩, known⟩
  simp only [sortFilterPass, process, pending]
  by_cases nothing : pass.timestampOut = 0
  · have overflow : pass.overflow = [] :=
      List.length_eq_zero_iff.mp (timestampOut.symm.trans nothing)
    simp only [nothing, if_true, pure_eq_ok]
    refine ⟨_, rfl, rfl, fun presorted => ⟨?_, (known presorted).sentApart⟩⟩
    have covers := (known presorted).covers
    rw [overflow, pending] at covers
    simpa using covers
  · have overflow : pass.overflow ≠ [] := by
      intro empty
      exact nothing (timestampOut.trans (by simp [empty]))
    have used : pass.window.slots ≠ [] := by
      intro empty
      apply full overflow
      rw [empty]
      exact hasRoom_nil_iff.mpr capacity
    simp only [nothing, if_false, pure_eq_ok]
    refine ⟨_, rfl, ⟨balanced_clean, inv.limits, ?_⟩, ?_⟩
    · refine ⟨⟨rfl, fun noTuples => absurd rfl noTuples⟩, fun presorted => ?_⟩
      have known := known presorted
      constructor
      · simpa [pending] using known.covers
      · simpa [pending] using known.inOrder
      · exact known.sentApart
      · simp
      · exact fun x sentMem => Or.inr (known.overflowApart x sentMem)
      · simp [clean]
      · simp [clean]
    · simp only [variant, waiting, Prod.Lex.toLex_lt_toLex]
      exact Or.inr ⟨by simp [process], Or.inr ⟨by simp [pending], Or.inl (by simp [clean, used])⟩⟩

/-! ## The run -/

/-- One iteration in any state. -/
theorem step (capacity : HasCapacity start.maxKBytes start.maxSlots) {pass : Pass T R}
    (inv : Inv env node start input sent pass) :
    (∃ fault, sortFilterPass env node (slFlagsOf start.policy) pass = .error fault ∧
      Misuse env node input fault) ∨
    ∃ result, sortFilterPass env node (slFlagsOf start.policy) pass = .ok result ∧
      Progresses (Inv env node start input) (Post env node input) variant sent pass result := by
  cases status : pass.status with
  | init =>
      have contents := inv.contents
      rw [status] at contents
      rcases contents with ⟨pending, slots, rfl⟩
      apply Or.inr
      simp only [sortFilterPass, status, pure_eq_ok]
      refine ⟨_, rfl, ⟨inv.balanced, inv.limits, ?_⟩, ?_⟩
      · refine ⟨⟨rfl, fun overflowed => absurd rfl overflowed⟩, fun presorted => ?_⟩
        constructor
        · simpa [pending] using Covers.refl (NodeBeats env node) input
        · simpa [pending] using presorted.2
        · exact List.Pairwise.nil
        · simp
        · simp
        · simp [slots]
        · simp [slots]
      · simp only [variant, Prod.Lex.toLex_lt_toLex]
        exact Or.inl (by simp [stage, status])
  | process =>
      cases pending : pass.pending with
      | nil =>
          apply Or.inr
          exact endOfSource_step inv status pending capacity
      | cons slot rest =>
          have bodyEq : sortFilterPass env node (slFlagsOf start.policy) pass =
              sortFilterStep env node (slFlagsOf start.policy) pass slot rest := by
            simp only [sortFilterPass, status, pending]
          rw [bodyEq]
          exact tuple_step inv status pending
  | pipeout | finalPipeout =>
      have contents := inv.contents
      rw [status] at contents
      exact contents.elim
  | done =>
      have contents := inv.contents
      rw [status] at contents
      apply Or.inr
      refine ⟨(pass, .finished), ?_, status, contents⟩
      simp only [sortFilterPass, status, pure_eq_ok]

/-- From an empty window that can take a tuple every scan ends, unless the
assertion stops it. -/
theorem drains_or_misuse (balanced : Balanced env.space start) (empty : start.slots = [])
    (capacity : HasCapacity start.maxKBytes start.maxSlots) (drawn : Nat) :
    (∃ out last, Drains (sortFilterPass env node (slFlagsOf start.policy))
      (Pass.init start input drawn) out last ∧ Post env node input out last) ∨
    ∃ n out fault, run (sortFilterPass env node (slFlagsOf start.policy)) n
      (Pass.init start input drawn) = (out, .failed fault) ∧ Misuse env node input fault := by
  have inv : Inv env node start input [] (Pass.init start input drawn) :=
    ⟨balanced, SameLimits.refl start, rfl, empty, rfl⟩
  exact drains_or_fails_of_variant (Misuse env node input) (Inv env node start input)
    (Post env node input) variant (fun sent pass inv => step capacity inv) [] _ inv

end PgSkyline.SortFilter
