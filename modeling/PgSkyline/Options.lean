import PgSkyline.Fault
import PgSkyline.Window.Core

/-!
# Skyline options and the choice of the method

Translation of `utils/skyline/skyline.c`: the table of known options, the
queries of the `SKYLINE OF … WITH` list, and the choice of the skyline method.

A name without a value is an option with the integer value 1, so the value of
an option is always an `A_Const`.  Warnings do not change a result and are left
out.
-/

namespace PgSkyline

/-- The values `var_value` of the grammar admits. -/
inductive AConst where
  | integer (value : Int)
  | float (text : String)
  | string (text : String)
  deriving DecidableEq, Repr

structure SkylineOption where
  name : String
  value : AConst
  deriving DecidableEq, Repr

inductive SkylineMethod where
  | unknown
  | oneDim
  | oneDimDistinct
  | twoDimPresort
  | materializedNestedLoop
  | blockNestedLoop
  | sfs
  | elimFilter
  deriving DecidableEq, Repr

inductive SkylineOptionType where
  | unknown
  | method
  | param
  deriving DecidableEq, Repr

structure SkylineAnOption where
  name : String
  optionType : SkylineOptionType
  skylineMethod : SkylineMethod
  deriving DecidableEq, Repr

/-- The table `skyline_options`, sorted by name. -/
def skylineOptions : List SkylineAnOption :=
  [⟨"blocknestedloop", .method, .blockNestedLoop⟩,
    ⟨"bnl", .method, .blockNestedLoop⟩,
    ⟨"ef", .param, .unknown⟩,
    ⟨"efslots", .param, .unknown⟩,
    ⟨"efwindow", .param, .unknown⟩,
    ⟨"efwindowpolicy", .param, .unknown⟩,
    ⟨"efwindowsize", .param, .unknown⟩,
    ⟨"efwindowslots", .param, .unknown⟩,
    ⟨"materializednestedloop", .method, .materializedNestedLoop⟩,
    ⟨"mnl", .method, .materializedNestedLoop⟩,
    ⟨"noindex", .param, .unknown⟩,
    ⟨"presort", .method, .twoDimPresort⟩,
    ⟨"ps", .method, .twoDimPresort⟩,
    ⟨"sfs", .method, .sfs⟩,
    ⟨"slots", .param, .unknown⟩,
    ⟨"window", .param, .unknown⟩,
    ⟨"windowpolicy", .param, .unknown⟩,
    ⟨"windowsize", .param, .unknown⟩,
    ⟨"windowslots", .param, .unknown⟩]

/-- `skyline_lookup_option`. -/
def skylineLookupOption (name : String) : Option SkylineAnOption :=
  skylineOptions.find? fun anoption => anoption.name == name

/-- The first option of this name. -/
def findOption (skylineOfOptions : List SkylineOption) (name : String) : Option AConst :=
  (skylineOfOptions.find? fun option => option.name == name).map SkylineOption.value

/-- `skyline_option_get_int`; `none` leaves the caller's default in place. -/
def skylineOptionGetInt (skylineOfOptions : List SkylineOption) (name : String) :
    Except Fault (Option Int) := do
  assertThat (skylineLookupOption name).isSome "skyline_lookup_option(name) != NULL"
  match findOption skylineOfOptions name with
  | none => return none
  | some (.integer value) => return some value
  | some _ => throw (.elog s!"only integer for option `{name}' allowed")

/-- `skyline_option_get_string`. -/
def skylineOptionGetString (skylineOfOptions : List SkylineOption) (name : String) :
    Except Fault (Option String) := do
  assertThat (skylineLookupOption name).isSome "skyline_lookup_option(name) != NULL"
  match findOption skylineOfOptions name with
  | none => return none
  | some (.string text) => return some text
  | some _ => throw (.elog s!"only strings for option `{name}' allowed")

/-- `skyline_option_get_window_policy`. -/
def skylineOptionGetWindowPolicy (skylineOfOptions : List SkylineOption) (name : String) :
    Except Fault (Option TupleWindowPolicy) := do
  match ← skylineOptionGetString skylineOfOptions name with
  | none => return none
  | some windowPolicyName =>
      if windowPolicyName = "append" then return some .append
      else if windowPolicyName = "prepend" then return some .prepend
      else if windowPolicyName = "entropy" then return some .entropy
      else if windowPolicyName = "random" then return some .random
      else throw (.elog s!"unsupported value for \"{name}\" \"{windowPolicyName}\"")

/-- The C idiom `get(a, &value) || get(b, &value)` on a variable that holds a
default: the second name is looked up only if the first is absent. -/
def skylineOptionGetIntOr (skylineOfOptions : List SkylineOption) (first second : String)
    (value : Int) : Except Fault Int := do
  match ← skylineOptionGetInt skylineOfOptions first with
  | some value => return value
  | none =>
      match ← skylineOptionGetInt skylineOfOptions second with
      | some value => return value
      | none => return value

/-- The effect of one option on the method forced so far. -/
def methodAfterOption (skylineMethod : SkylineMethod) (option : SkylineOption) : SkylineMethod :=
  match skylineLookupOption option.name with
  | some anoption =>
      if anoption.optionType = .method then anoption.skylineMethod else skylineMethod
  | none => skylineMethod

/-- `skyline_method_forced_by_options`: the last method option wins. -/
def skylineMethodForcedByOptions (skylineOfOptions : List SkylineOption) : SkylineMethod :=
  skylineOfOptions.foldl methodAfterOption .unknown

/-- The default method of `skyline_choose_method`. -/
def defaultMethod (skylineDim : Nat) (skylineDistinct hasMatchingPath : Bool) : SkylineMethod :=
  if skylineDim = 1 ∧ skylineDistinct = false then .oneDim
  else if skylineDim = 1 ∧ skylineDistinct = true then .oneDimDistinct
  else if skylineDim = 2 ∧ hasMatchingPath = true then .twoDimPresort
  else if 2 ≤ skylineDim ∧ hasMatchingPath = true then .sfs
  else .blockNestedLoop

/-- `skyline_choose_method` for a clause of `skylineDim` columns. -/
def skylineChooseMethod (skylineDim : Nat) (skylineDistinct : Bool)
    (skylineOfOptions : List SkylineOption) (hasMatchingPath : Bool) :
    Except Fault SkylineMethod := do
  let forced := skylineMethodForcedByOptions skylineOfOptions
  let skylineMethod :=
    if forced = .unknown then defaultMethod skylineDim skylineDistinct hasMatchingPath else forced
  if skylineMethod = .twoDimPresort ∧ 2 < skylineDim then
    throw (.elog "skyline method `2d with presort' only works for <= 2 skyline dimensions")
  else
    assertThat (skylineMethod != .unknown) "skyline_method != SM_UNKNOWN"
    return skylineMethod

/-- `skyline_methode_can_use_limit`: can tuples be returned before all outer tuples were
processed once? -/
def skylineMethodeCanUseLimit : SkylineMethod → Bool
  | .unknown | .oneDim | .oneDimDistinct => false
  | .blockNestedLoop => false
  | .materializedNestedLoop => true
  | .twoDimPresort => true
  | .sfs => true
  | .elimFilter => true

/-! ## What the choice can be -/

theorem methodAfterOption_ne {method : SkylineMethod}
    (noOption : ∀ anoption ∈ skylineOptions, anoption.skylineMethod ≠ method)
    {skylineMethod : SkylineMethod} (different : skylineMethod ≠ method)
    (option : SkylineOption) : methodAfterOption skylineMethod option ≠ method := by
  unfold methodAfterOption
  cases found : skylineLookupOption option.name with
  | none => exact different
  | some anoption =>
      by_cases isMethod : anoption.optionType = .method
      · simpa [isMethod] using noOption anoption (List.mem_of_find?_eq_some found)
      · simpa [isMethod] using different

/-- A method that no option names cannot be forced. -/
theorem skylineMethodForcedByOptions_ne {method : SkylineMethod} (known : method ≠ .unknown)
    (noOption : ∀ anoption ∈ skylineOptions, anoption.skylineMethod ≠ method)
    (skylineOfOptions : List SkylineOption) :
    skylineMethodForcedByOptions skylineOfOptions ≠ method := by
  suffices kept : ∀ start : SkylineMethod, start ≠ method →
      skylineOfOptions.foldl methodAfterOption start ≠ method from kept .unknown known.symm
  induction skylineOfOptions with
  | nil => exact fun start different => different
  | cons option rest ih =>
      exact fun start different => ih _ (methodAfterOption_ne noOption different option)

theorem eq_of_skylineChooseMethod {skylineDim : Nat} {skylineDistinct hasMatchingPath : Bool}
    {skylineOfOptions : List SkylineOption} {method : SkylineMethod}
    (chosen : skylineChooseMethod skylineDim skylineDistinct skylineOfOptions hasMatchingPath =
      .ok method) :
    (if skylineMethodForcedByOptions skylineOfOptions = .unknown then
      defaultMethod skylineDim skylineDistinct hasMatchingPath
    else skylineMethodForcedByOptions skylineOfOptions) = method ∧
      (method = .twoDimPresort → skylineDim ≤ 2) := by
  unfold skylineChooseMethod at chosen
  simp only at chosen
  generalize (if skylineMethodForcedByOptions skylineOfOptions = .unknown then
      defaultMethod skylineDim skylineDistinct hasMatchingPath
    else skylineMethodForcedByOptions skylineOfOptions) = selected at chosen ⊢
  by_cases wide : selected = .twoDimPresort ∧ 2 < skylineDim
  · simp [wide] at chosen
  · have known : selected ≠ .unknown := by
      rintro rfl
      simp at chosen
    simp only [wide, if_false, bne_iff_ne.mpr known, assertThat_true, ok_bind, pure_eq_ok,
      Except.ok.injEq] at chosen
    refine ⟨chosen, fun presort => ?_⟩
    by_contra above
    exact wide ⟨chosen.trans presort, Nat.lt_of_not_le above⟩

/-- The one-dimensional methods are the default of one-column clauses, one for
each reading of the clause; no option selects them. -/
theorem skylineChooseMethod_oneDim {skylineDim : Nat} {skylineDistinct hasMatchingPath : Bool}
    {skylineOfOptions : List SkylineOption} {method : SkylineMethod}
    (chosen : skylineChooseMethod skylineDim skylineDistinct skylineOfOptions hasMatchingPath =
      .ok method) (oneDim : method = .oneDim ∨ method = .oneDimDistinct) :
    skylineDim = 1 ∧ method = if skylineDistinct then .oneDimDistinct else .oneDim := by
  have notForced : skylineMethodForcedByOptions skylineOfOptions ≠ method := by
    rcases oneDim with rfl | rfl
    · exact skylineMethodForcedByOptions_ne (by simp) (by decide) _
    · exact skylineMethodForcedByOptions_ne (by simp) (by decide) _
  obtain ⟨methodEq, _⟩ := eq_of_skylineChooseMethod chosen
  split at methodEq
  · subst methodEq
    unfold defaultMethod at oneDim ⊢
    split_ifs at oneDim ⊢ <;> simp_all
  · exact absurd methodEq notForced

/-- No choice leaves the method open, and none is the elimination filter. -/
theorem known_of_skylineChooseMethod {skylineDim : Nat} {skylineDistinct hasMatchingPath : Bool}
    {skylineOfOptions : List SkylineOption} {method : SkylineMethod}
    (chosen : skylineChooseMethod skylineDim skylineDistinct skylineOfOptions hasMatchingPath =
      .ok method) : method ≠ .unknown ∧ method ≠ .elimFilter := by
  obtain ⟨methodEq, _⟩ := eq_of_skylineChooseMethod chosen
  have notForced : skylineMethodForcedByOptions skylineOfOptions ≠ .elimFilter :=
    skylineMethodForcedByOptions_ne (by simp) (by decide) _
  split at methodEq
  · subst methodEq
    unfold defaultMethod
    split_ifs <;> simp
  · rename_i forced
    rw [← methodEq]
    exact ⟨forced, notForced⟩

end PgSkyline
