import Mathlib.Data.List.Basic

/-!
# The leading element of a list

A Boolean relation that orders its arguments up to ties has a leading element in every
nonempty list: the first one that no other precedes.  A scan that replaces its
candidate only by an element that precedes it ends with the leading element.
-/

namespace Leading

universe u

variable {A : Type u}

/-- A strict order in which arguments may be tied. -/
structure StrictWeak (before : A → A → Bool) : Prop where
  asymm : ∀ x y, before x y = true → before y x = false
  negTrans : ∀ x y z, before x y = false → before y z = false → before x z = false

namespace StrictWeak

variable {before : A → A → Bool}

theorem flip (strictWeak : StrictWeak before) : StrictWeak fun x y => before y x where
  asymm x y precedes := strictWeak.asymm y x precedes
  negTrans x y z first second := strictWeak.negTrans z y x second first

theorem irrefl (strictWeak : StrictWeak before) (x : A) : before x x = false := by
  by_contra precedes
  have itself := strictWeak.asymm x x (eq_true_of_ne_false precedes)
  exact precedes itself

/-- What precedes an element precedes everything that does not precede this element. -/
theorem before_of_before (strictWeak : StrictWeak before) {x y z : A}
    (precedes : before x y = true) (behind : before z y = false) : before x z = true := by
  by_contra notBefore
  have whole := strictWeak.negTrans x z y (Bool.eq_false_iff.mpr notBefore) behind
  rw [whole] at precedes
  cases precedes

end StrictWeak

/-- `v` is the first of the values that none of them precedes. -/
def Leads (before : A → A → Bool) (values : List A) (v : A) : Prop :=
  ∃ earlier later, values = earlier ++ v :: later ∧ (∀ w ∈ earlier, before v w = true) ∧
    ∀ w ∈ later, before w v = false

/-- The first of values of which none precedes it. -/
theorem leads_cons {before : A → A → Bool} {v : A} {rest : List A}
    (least : ∀ w ∈ rest, before w v = false) : Leads before (v :: rest) v :=
  ⟨[], rest, rfl, by simp, least⟩

namespace Leads

variable {before : A → A → Bool} {values : List A} {v : A}

theorem mem (leads : Leads before values v) : v ∈ values := by
  rcases leads with ⟨earlier, later, rfl, _⟩
  simp

theorem not_before (leads : Leads before values v) (strictWeak : StrictWeak before) {w : A}
    (mem : w ∈ values) : before w v = false := by
  rcases leads with ⟨earlier, later, rfl, overtakes, least⟩
  rcases List.mem_append.mp mem with inEarlier | inRest
  · exact strictWeak.asymm v w (overtakes w inEarlier)
  · rcases List.mem_cons.mp inRest with rfl | inLater
    · exact strictWeak.irrefl w
    · exact least w inLater

/-- One more value becomes the leading one exactly if it precedes the one before. -/
theorem append (leads : Leads before values v) (strictWeak : StrictWeak before) (w : A) :
    Leads before (values ++ [w]) (if before w v = true then w else v) := by
  split
  next precedes =>
    refine ⟨values, [], rfl, ?_, by simp⟩
    intro u mem
    exact strictWeak.before_of_before precedes (leads.not_before strictWeak mem)
  next behind =>
    rcases leads with ⟨earlier, later, rfl, overtakes, least⟩
    refine ⟨earlier, later ++ [w], by simp, overtakes, ?_⟩
    intro u mem
    rcases List.mem_append.mp mem with old | new
    · exact least u old
    · rw [List.mem_singleton.mp new]
      exact Bool.eq_false_iff.mpr behind

/-- There is only one leading element: of two candidates the later one would precede
the earlier one. -/
theorem unique (leads : Leads before values v) (strictWeak : StrictWeak before) {w : A}
    (other : Leads before values w) : v = w := by
  have vBehind := other.not_before strictWeak leads.mem
  have wBehind := leads.not_before strictWeak other.mem
  rcases leads with ⟨earlier, later, split, overtakes, _⟩
  rcases other with ⟨earlier', later', split', overtakes', _⟩
  rw [split] at split'
  rcases List.append_eq_append_iff.mp split' with ⟨between, equal, rest⟩ | ⟨between, equal, rest⟩
  · cases between with
    | nil => exact (List.cons.inj rest).1
    | cons first others =>
        have isFirst := (List.cons.inj rest).1
        have precedes := overtakes' v (by simp [equal, isFirst])
        rw [precedes] at wBehind
        cases wBehind
  · cases between with
    | nil => exact (List.cons.inj rest).1.symm
    | cons first others =>
        have isFirst := (List.cons.inj rest).1
        have precedes := overtakes w (by simp [equal, isFirst])
        rw [precedes] at vBehind
        cases vBehind

end Leads

end Leading
