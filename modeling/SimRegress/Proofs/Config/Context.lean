import Mathlib
import SimRegress.Config.Context
import SimRegress.Config.Settings
import SimRegress.Proofs.Float.Rounding
import SimRegress.Proofs.Traversal

/-!
# Resolving accepted settings

Settings that reading and checking accept have valid tolerances and a time limit that is no NaN
and not below zero (`RunnerConfig.check_eq_ok`). Resolving them into a run context goes in three
stages: the tool directory, the prefix of simulations, the time limit (`ofConfig_stages`); the
tolerances are never refused again. Two inversion lemmas say what a context that resolves holds
and where resolving fails (`ofConfig_eq_ok`, `ofConfig_eq_error`), and the laws of an accepted
setting are read off them (`accepted_settings_resolve`):
a resolved context has the tolerances of the settings and a time limit exactly when the limit in
minutes is not zero, which is the limit in seconds rounded to a nanosecond; resolving fails only on
the tool directory, on the prefix, or on a positive limit whose seconds have no duration.

That last failure stops the program. It happens exactly when the other two stages pass and the
limit, times sixty as a float, is infinite or at least `2^64` seconds; the check of the settings
lets such limits through, since it asks only for a limit not below zero.
-/

namespace SimRegress

open Binary64

/-! ### Floats of the time limit -/

section Limit

variable {x : Float}

lemma beq_zero_iff_not_pos (h : 0.0 ≤ x) : (x == 0.0) = true ↔ ¬ 0.0 < x := by
  obtain ⟨-, hxn, hx0⟩ := le_iff_value.1 h
  rw [value_zero] at hx0
  rw [Float.beq_iff_value, lt_iff_value, value_zero]
  have hz : (0.0 : Float).isNaN = false := by decide
  simp only [hxn, hz, true_and]
  omega

lemma Duration.ofSeconds_error_of_nonneg {y : Float} (h : 0.0 ≤ y) {f : SecondsFault}
    (hf : Duration.ofSeconds y = .error f) : f = .tooBigOrNaN := by
  have hneg : ¬ y < 0.0 := by
    intro hlt
    obtain ⟨-, -, hv⟩ := lt_iff_value.1 hlt
    obtain ⟨-, -, hv'⟩ := le_iff_value.1 h
    rw [value_zero] at hv hv'
    omega
  unfold Duration.ofSeconds at hf
  rw [if_neg hneg] at hf
  by_cases hbad : (y.isNaN || y.isInf) = true
  · rw [if_pos hbad] at hf
    cases hf
    rfl
  rw [if_neg hbad] at hf
  dsimp only at hf
  split at hf
  · cases hf
    rfl
  · cases hf

lemma timeLimit_of_pos (h : 0.0 < x) : timeLimit x = some <$> Duration.ofSeconds (x * 60.0) :=
  if_pos h

lemma timeLimit_of_not_pos (h : ¬ 0.0 < x) : timeLimit x = .ok none := if_neg h

lemma timeLimit_error {f : SecondsFault} (hf : timeLimit x = .error f) :
    0.0 < x ∧ Duration.ofSeconds (x * 60.0) = .error f ∧ f = .tooBigOrNaN := by
  by_cases hpos : 0.0 < x
  · rw [timeLimit_of_pos hpos] at hf
    -- the seconds of a positive limit are a number not below zero
    have hsec : 0.0 ≤ x * 60.0 :=
      Float.mul_nonneg_of_finite (Float.le_of_lt hpos) (by decide) (by decide)
    cases hs : Duration.ofSeconds (x * 60.0) with
    | error f' =>
      rw [hs] at hf
      cases hf
      exact ⟨hpos, rfl, Duration.ofSeconds_error_of_nonneg hsec hs⟩
    | ok d =>
      rw [hs] at hf
      cases hf
  · rw [timeLimit_of_not_pos hpos] at hf
    cases hf

lemma timeLimit_ok {tl : Option Duration} (h : timeLimit x = .ok tl) :
    (tl = none ↔ ¬ 0.0 < x) ∧ ∀ d, tl = some d → Duration.ofSeconds (x * 60.0) = .ok d := by
  by_cases hpos : 0.0 < x
  · rw [timeLimit_of_pos hpos] at h
    cases hs : Duration.ofSeconds (x * 60.0) with
    | error f =>
      rw [hs] at h
      cases h
    | ok d =>
      rw [hs] at h
      cases h
      exact ⟨by simp [hpos], fun d' hd' => by cases hd'; rfl⟩
  · rw [timeLimit_of_not_pos hpos] at h
    cases h
    exact ⟨by simp [hpos], fun _ hd => by cases hd⟩

end Limit

/-! ### Accepted settings -/

lemma RunnerConfig.check_eq_ok {c c' : RunnerConfig} (h : c.check = .ok c') :
    c' = c ∧ (⟨c.atol, c.rtol⟩ : Tolerance).valid = true ∧ 0.0 ≤ c.maxExecutionTime := by
  unfold RunnerConfig.check at h
  by_cases hvalid : (⟨c.atol, c.rtol⟩ : Tolerance).valid = true
  · by_cases hlimit : 0.0 ≤ c.maxExecutionTime
    · simp only [hvalid, hlimit, Bool.not_true, Bool.false_eq_true, if_false,
        decide_true] at h
      cases h
      exact ⟨rfl, hvalid, hlimit⟩
    · simp only [hvalid, hlimit, Bool.not_true, Bool.false_eq_true, if_false, if_true,
        decide_false, Bool.not_false] at h
      cases h
  · simp only [hvalid, Bool.not_false, if_true] at h
    cases h

lemma RunnerConfig.parse_checked {text : String} {c : RunnerConfig}
    (h : RunnerConfig.parse text = .ok c) : c.check = .ok c := by
  unfold RunnerConfig.parse at h
  -- reading the document and the settings succeeded, and the last step is the check
  obtain ⟨root, -, h⟩ := except_bind_eq_ok h
  obtain ⟨c', -, h⟩ := except_bind_eq_ok h
  obtain ⟨rfl, -⟩ := RunnerConfig.check_eq_ok h
  exact h

lemma loadSettings_checked {path : String} {file : Option String} {required : Bool}
    {o : ConfigOverrides} {c : RunnerConfig} (h : loadSettings path file required o = .ok c) :
    c.check = .ok c := by
  unfold loadSettings at h
  -- whatever the base settings, the last step is the check
  have hlast : ∀ x : Except ConfigError RunnerConfig,
      (x >>= fun base => (o.apply base).check) = .ok c → c.check = .ok c := by
    intro x hx
    obtain ⟨base, -, hx⟩ := except_bind_eq_ok hx
    obtain ⟨rfl, -⟩ := RunnerConfig.check_eq_ok hx
    exact hx
  dsimp only at h
  cases file with
  | some text => exact hlast _ h
  | none =>
    cases required with
    | false => exact hlast (pure {}) h
    | true => exact hlast (throw (ConfigError.unreadable path missingFileFault)) h

/-! ### Resolving in stages -/

/-- The tool directory of a context: none when blank, else expanded. -/
def resolvedBinDir (env : Shell.Environment) (value : String) :
    Except ContextError (Option String) :=
  if Text.isBlankText value then pure none
  else match Shell.expandPath env value with
    | .ok dir => pure (some dir)
    | .error fault => throw (ContextError.binDir value fault)

/-- The words of the prefix of simulations. -/
def resolvedPrefix (value : String) : Except ContextError (List String) :=
  match Shell.words value with
  | some ws => pure ws
  | none => throw (ContextError.prefixSimulation value)

lemma resolvedBinDir_error {env : Shell.Environment} {value : String} {e : ContextError}
    (h : resolvedBinDir env value = .error e) :
    ∃ f, e = .binDir value f ∧ Shell.expandPath env value = .error f := by
  unfold resolvedBinDir at h
  split at h
  · cases h
  · split at h
    · cases h
    · rename_i f hf
      cases h
      exact ⟨f, rfl, hf⟩

lemma resolvedBinDir_ok_iff {env : Shell.Environment} {value : String} :
    (∃ b, resolvedBinDir env value = .ok b) ↔
      Text.isBlankText value = true ∨ ∃ dir, Shell.expandPath env value = .ok dir := by
  unfold resolvedBinDir
  by_cases hblank : Text.isBlankText value = true
  · simp only [hblank, if_true, true_or, iff_true]
    exact ⟨none, rfl⟩
  · simp only [hblank, Bool.false_eq_true, if_false, false_or]
    cases Shell.expandPath env value with
    | ok dir => exact ⟨fun _ => ⟨dir, rfl⟩, fun _ => ⟨some dir, rfl⟩⟩
    | error f =>
      constructor
      · rintro ⟨_, h⟩
        cases h
      · rintro ⟨_, h⟩
        cases h

lemma resolvedPrefix_error {value : String} {e : ContextError}
    (h : resolvedPrefix value = .error e) :
    e = .prefixSimulation value ∧ Shell.words value = none := by
  unfold resolvedPrefix at h
  split at h
  · cases h
  · rename_i hw
    cases h
    exact ⟨rfl, hw⟩

lemma resolvedPrefix_ok_iff {value : String} :
    (∃ ws, resolvedPrefix value = .ok ws) ↔ (Shell.words value).isSome := by
  unfold resolvedPrefix
  cases Shell.words value with
  | some ws => exact ⟨fun _ => rfl, fun _ => ⟨ws, rfl⟩⟩
  | none =>
    constructor
    · rintro ⟨_, h⟩
      cases h
    · intro h
      cases h

section Stages

variable (env : Shell.Environment) (c : RunnerConfig)

lemma ofConfig_stages (hvalid : (⟨c.atol, c.rtol⟩ : Tolerance).valid = true) :
    RunContext.ofConfig env c = (do
      let binDir ← resolvedBinDir env c.binDir
      let prefixSimulation ← resolvedPrefix c.prefixSimulation
      let timeout ← (timeLimit c.maxExecutionTime).mapError .timeout
      pure
        { binDir := binDir, timeout := timeout, tolerance := ⟨c.atol, c.rtol⟩,
          maxFailures := c.maxCompareFailure, prefixSimulation := prefixSimulation,
          exeExt := c.exeExt, minimalEndTime := (env.get? "MBSIM_SET_MINIMAL_TEND").isSome }) := by
  have hcheck : (!(⟨c.atol, c.rtol⟩ : Tolerance).valid) = false := by rw [hvalid]; rfl
  unfold RunContext.ofConfig resolvedBinDir resolvedPrefix
  dsimp only
  rw [hcheck]
  -- both sides branch on the same three results
  cases Text.isBlankText c.binDir <;> cases Shell.expandPath env c.binDir <;>
    cases Shell.words c.prefixSimulation <;> rfl

lemma ofConfig_eq_ok (hvalid : (⟨c.atol, c.rtol⟩ : Tolerance).valid = true) {ctx : RunContext}
    (h : RunContext.ofConfig env c = .ok ctx) :
    ∃ tl, timeLimit c.maxExecutionTime = .ok tl ∧ ctx.tolerance = ⟨c.atol, c.rtol⟩ ∧
      ctx.timeout = tl := by
  rw [ofConfig_stages env c hvalid] at h
  obtain ⟨b, -, h⟩ := except_bind_eq_ok h
  obtain ⟨ws, -, h⟩ := except_bind_eq_ok h
  obtain ⟨tl, ht, h⟩ := except_bind_eq_ok h
  cases h
  exact ⟨tl, except_mapError_eq_ok ht, rfl, rfl⟩

/-- **Where resolving fails**, with valid tolerances: at the tool directory; at the prefix, after
the directory resolved; or at the time limit, after both resolved. -/
lemma ofConfig_eq_error (hvalid : (⟨c.atol, c.rtol⟩ : Tolerance).valid = true) {e : ContextError}
    (h : RunContext.ofConfig env c = .error e) :
    resolvedBinDir env c.binDir = .error e ∨
      (∃ b, resolvedBinDir env c.binDir = .ok b) ∧
        (resolvedPrefix c.prefixSimulation = .error e ∨
          (∃ ws, resolvedPrefix c.prefixSimulation = .ok ws) ∧
            ∃ f, timeLimit c.maxExecutionTime = .error f ∧ e = .timeout f) := by
  rw [ofConfig_stages env c hvalid] at h
  rcases except_bind_eq_error h with hb | ⟨b, hb, h⟩
  · exact .inl hb
  refine .inr ⟨⟨b, hb⟩, ?_⟩
  rcases except_bind_eq_error h with hw | ⟨ws, hw, h⟩
  · exact .inl hw
  refine .inr ⟨⟨ws, hw⟩, ?_⟩
  rcases except_bind_eq_error h with ht | ⟨tl, -, h⟩
  · exact except_mapError_eq_error ht
  · cases h

lemma ofConfig_of_timeLimit_error (hvalid : (⟨c.atol, c.rtol⟩ : Tolerance).valid = true)
    {b : Option String} {ws : List String} {f : SecondsFault}
    (hb : resolvedBinDir env c.binDir = .ok b) (hw : resolvedPrefix c.prefixSimulation = .ok ws)
    (ht : timeLimit c.maxExecutionTime = .error f) :
    RunContext.ofConfig env c = .error (.timeout f) := by
  rw [ofConfig_stages env c hvalid, hb, hw, ht]
  rfl

end Stages

/-! ### The laws of accepted settings -/

/-- What resolving promises for settings `c` in an environment `env`. -/
structure ContextLaws (env : Shell.Environment) (c : RunnerConfig) : Prop where
  /-- A resolved context has the tolerances of the settings, no time limit exactly for a limit
  of zero minutes, and else the limit in seconds rounded to a nanosecond. -/
  ok : ∀ ctx, RunContext.ofConfig env c = .ok ctx →
    ctx.tolerance = ⟨c.atol, c.rtol⟩ ∧ (ctx.timeout = none ↔ (c.maxExecutionTime == 0.0) = true) ∧
      ∀ d, ctx.timeout = some d → Duration.ofSeconds (c.maxExecutionTime * 60.0) = .ok d
  /-- Resolving fails only on the tool directory, on the prefix, or on a positive limit whose
  seconds are too many for a duration. -/
  error : ∀ e, RunContext.ofConfig env c = .error e →
    (∃ f, e = .binDir c.binDir f ∧ Shell.expandPath env c.binDir = .error f) ∨
    (e = .prefixSimulation c.prefixSimulation ∧ Shell.words c.prefixSimulation = none) ∨
    (e = .timeout .tooBigOrNaN ∧ 0.0 < c.maxExecutionTime ∧
      Duration.ofSeconds (c.maxExecutionTime * 60.0) = .error .tooBigOrNaN)
  /-- The time limit stops the program exactly when the tool directory and the prefix resolve
  and the positive limit's seconds have no duration. -/
  fault_iff : (∃ f, RunContext.ofConfig env c = .error (.timeout f)) ↔
    (Text.isBlankText c.binDir = true ∨ ∃ dir, Shell.expandPath env c.binDir = .ok dir) ∧
      (Shell.words c.prefixSimulation).isSome ∧ 0.0 < c.maxExecutionTime ∧
      ∃ f, Duration.ofSeconds (c.maxExecutionTime * 60.0) = .error f

lemma contextLaws_of_check (env : Shell.Environment) {c : RunnerConfig} (hc : c.check = .ok c) :
    ContextLaws env c := by
  obtain ⟨-, hvalid, hlimit⟩ := RunnerConfig.check_eq_ok hc
  constructor
  · intro ctx hctx
    obtain ⟨tl, ht, htol, hto⟩ := ofConfig_eq_ok env c hvalid hctx
    obtain ⟨hnone, hsome⟩ := timeLimit_ok ht
    refine ⟨htol, ?_, fun d hd => hsome d (hto ▸ hd)⟩
    rw [hto, hnone, beq_zero_iff_not_pos hlimit]
  · intro e he
    rcases ofConfig_eq_error env c hvalid he with hb | ⟨-, hw | ⟨-, f, ht, rfl⟩⟩
    · exact .inl (resolvedBinDir_error hb)
    · exact .inr (.inl (resolvedPrefix_error hw))
    · obtain ⟨hpos, hsec, rfl⟩ := timeLimit_error ht
      exact .inr (.inr ⟨rfl, hpos, hsec⟩)
  constructor
  · -- a fault of the time limit is no fault of the directory or the prefix
    rintro ⟨f, hf⟩
    rcases ofConfig_eq_error env c hvalid hf with hb | ⟨hb, hw | ⟨hw, f', ht, -⟩⟩
    · obtain ⟨_, he, -⟩ := resolvedBinDir_error hb
      cases he
    · cases (resolvedPrefix_error hw).1
    · obtain ⟨hpos, hsec, -⟩ := timeLimit_error ht
      exact ⟨resolvedBinDir_ok_iff.mp hb, resolvedPrefix_ok_iff.mp hw, hpos, f', hsec⟩
  · rintro ⟨hb, hw, hpos, f, hf⟩
    obtain ⟨b, hb⟩ := resolvedBinDir_ok_iff.mpr hb
    obtain ⟨ws, hw⟩ := resolvedPrefix_ok_iff.mpr hw
    have ht : timeLimit c.maxExecutionTime = .error f := by
      rw [timeLimit_of_pos hpos, hf]
      rfl
    exact ⟨f, ofConfig_of_timeLimit_error env c hvalid hb hw ht⟩

/-- **Accepted settings resolve without surprise, except for a huge time limit.** For settings
read from a file and checked, or loaded from the file or the defaults with the command line over
them, resolving never refuses the tolerances. A resolved context has the tolerances
`(atol, rtol)`, no time limit exactly for a limit of zero minutes and else the limit's seconds
rounded to a nanosecond; resolving fails on the tool directory or the prefix, and otherwise
stops the program exactly when the limit is positive and its seconds, as a float, are infinite
or at least `2^64`. -/
theorem accepted_settings_resolve (env : Shell.Environment) (c : RunnerConfig)
    (hc : (∃ text, RunnerConfig.parse text = .ok c) ∨
      ∃ path file required o, loadSettings path file required o = .ok c) :
    ContextLaws env c := by
  have hcheck : c.check = .ok c := by
    rcases hc with ⟨text, h⟩ | ⟨path, file, required, o, h⟩
    · exact RunnerConfig.parse_checked h
    · exact loadSettings_checked h
  exact contextLaws_of_check env hcheck

/-- A time limit of `3.0744573456182586e17` minutes given on the command line: the settings load,
and their seconds, `2^64` once rounded, stop the program with the fault of too many seconds. -/
theorem accepted_settings_resolve_huge_limit :
    ((∃ text, RunnerConfig.parse text = .ok { maxExecutionTime := 3.0744573456182586e17 }) ∨
      ∃ path file required o, loadSettings path file required o =
        .ok { maxExecutionTime := 3.0744573456182586e17 }) ∧
      ContextLaws ⟨[]⟩ { maxExecutionTime := 3.0744573456182586e17 } ∧
      RunContext.ofConfig ⟨[]⟩ { maxExecutionTime := 3.0744573456182586e17 } =
        .error (.timeout .tooBigOrNaN) := by
  have hload : loadSettings "RunExamples.toml" none false
      { maxExecutionTime := some 3.0744573456182586e17 } =
        .ok { maxExecutionTime := 3.0744573456182586e17 } := by
    rfl
  have hc : (∃ text, RunnerConfig.parse text = .ok { maxExecutionTime := 3.0744573456182586e17 }) ∨
      ∃ path file required o, loadSettings path file required o =
        .ok { maxExecutionTime := 3.0744573456182586e17 } :=
    .inr ⟨_, _, _, _, hload⟩
  exact ⟨hc, accepted_settings_resolve ⟨[]⟩ _ hc, rfl⟩

end SimRegress
