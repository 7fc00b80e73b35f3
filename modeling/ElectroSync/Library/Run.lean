import Mathlib.Data.List.Induction

/-!
# Runs of labelled transition relations

A transition relation `R : σ → ε → σ → Prop` relates a state, the label of a step, and the state
after the step. `Run R s₀ tr s` says that the steps `tr`, oldest first, lead from `s₀` to `s`.

A deterministic machine is given by a partial function `step : σ → ε → Option σ` (`none`: the label
is not enabled); `Enabled step` is its relation and `exec step` runs it. `Guarded R ok` keeps the
steps whose state and label meet `ok`, and `guardStep` does so for a step function. `Since start
stop` and `Once P` are past-time operators of temporal logic, on the labels and on the steps of a
run.
-/

namespace Transition

/-- The steps `tr`, oldest first, lead from `s₀` to `s`. -/
inductive Run (R : σ → ε → σ → Prop) (s₀ : σ) : List ε → σ → Prop
  | nil : Run R s₀ [] s₀
  | snoc : Run R s₀ tr s → R s e s' → Run R s₀ (tr ++ [e]) s'

/-- The steps of `R` whose state and label meet `ok`. -/
def Guarded (R : σ → ε → σ → Prop) (ok : σ → ε → Prop) : σ → ε → σ → Prop :=
  fun s e s' => R s e s' ∧ ok s e

/-- The relation of a partial step function. -/
def Enabled (step : σ → ε → Option σ) : σ → ε → σ → Prop :=
  fun s e s' => step s e = some s'

variable {R R' : σ → ε → σ → Prop} {s₀ s t : σ} {tr tr' : List ε}

namespace Run

/-- What a step preserves holds after every run. -/
theorem invariant {P : σ → Prop} (h : Run R s₀ tr s) (init : P s₀)
    (step : ∀ {s e s'}, P s → R s e s' → P s') : P s := by
  induction h with
  | nil => exact init
  | snoc _ hstep ih => exact step ih hstep

/-- As `invariant`, for a property of the state and of the steps taken so far. -/
theorem invariantTrace {P : List ε → σ → Prop} (h : Run R s₀ tr s) (init : P [] s₀)
    (step : ∀ {tr s e s'}, Run R s₀ tr s → P tr s → R s e s' → P (tr ++ [e]) s') : P tr s := by
  induction h with
  | nil => exact init
  | snoc hrun hstep ih => exact step hrun ih hstep

theorem mono (hle : ∀ s e s', R s e s' → R' s e s') (h : Run R s₀ tr s) : Run R' s₀ tr s := by
  induction h with
  | nil => exact .nil
  | snoc _ hstep ih => exact ih.snoc (hle _ _ _ hstep)

/-- A run is a run of the guarded relation when each of its steps meets the guard. -/
theorem guard {ok : σ → ε → Prop} (h : Run R s₀ tr s)
    (meets : ∀ {pre e post s s'}, tr = pre ++ e :: post → Run R s₀ pre s → R s e s' → ok s e) :
    Run (Guarded R ok) s₀ tr s := by
  induction h with
  | nil => exact .nil
  | @snoc tr s e s' hrun hstep ih =>
    refine (ih ?_).snoc ⟨hstep, meets rfl hrun hstep⟩
    intro pre d post t t' split
    have longer : tr ++ [e] = pre ++ d :: (post ++ [e]) := by simp [split]
    exact meets longer

/-- A simulation: what a map of the states takes to steps, it takes to runs. -/
theorem simulate {S : τ → ε → τ → Prop} {f : σ → τ}
    (step : ∀ {s e s'}, R s e s' → S (f s) e (f s')) (h : Run R s₀ tr s) :
    Run S (f s₀) tr (f s) := by
  induction h with
  | nil => exact .nil
  | snoc _ hstep ih => exact ih.snoc (step hstep)

theorem single (h : R s₀ e s) : Run R s₀ [e] s := Run.nil.snoc h

theorem trans (h : Run R s₀ tr s) (h' : Run R s tr' t) : Run R s₀ (tr ++ tr') t := by
  induction h' with
  | nil => simpa using h
  | snoc _ hstep ih => simpa [← List.append_assoc] using ih.snoc hstep

theorem nil_iff : Run R s₀ [] s ↔ s = s₀ := by
  constructor
  · intro h
    generalize htr : ([] : List ε) = tr at h
    cases h with
    | nil => rfl
    | snoc => simp at htr
  · rintro rfl
    exact .nil

theorem snoc_iff : Run R s₀ (tr ++ [e]) t ↔ ∃ s, Run R s₀ tr s ∧ R s e t := by
  constructor
  · intro h
    generalize htr : tr ++ [e] = tr₁ at h
    cases h with
    | nil => simp at htr
    | snoc hrun hstep =>
      obtain ⟨rfl, he⟩ := List.append_inj' htr rfl
      cases he
      exact ⟨_, hrun, hstep⟩
  · rintro ⟨s, hrun, hstep⟩
    exact hrun.snoc hstep

/-- A deterministic relation takes a list of steps to one state. -/
theorem unique (functional : ∀ {s e s' s''}, R s e s' → R s e s'' → s' = s'')
    (h : Run R s₀ tr s) (h' : Run R s₀ tr t) : s = t := by
  induction h generalizing t with
  | nil => exact (nil_iff.mp h').symm
  | snoc _ hstep ih =>
    obtain ⟨u, hrun, hstep'⟩ := snoc_iff.mp h'
    cases ih hrun
    exact functional hstep hstep'

/-- A run of `tr ++ tr'` passes through a state after `tr`. -/
theorem append_iff : Run R s₀ (tr ++ tr') t ↔ ∃ s, Run R s₀ tr s ∧ Run R s tr' t := by
  constructor
  · induction tr' using List.reverseRecOn generalizing t with
    | nil => intro h; exact ⟨t, by simpa using h, .nil⟩
    | append_singleton tr' e ih =>
      intro h
      rw [← List.append_assoc, snoc_iff] at h
      obtain ⟨u, hu, hstep⟩ := h
      obtain ⟨s, hs, hsu⟩ := ih hu
      exact ⟨s, hs, hsu.snoc hstep⟩
  · rintro ⟨s, hs, hst⟩
    exact hs.trans hst

theorem cons_iff : Run R s₀ (e :: tr) t ↔ ∃ s, R s₀ e s ∧ Run R s tr t := by
  rw [← List.singleton_append, append_iff]
  constructor
  · rintro ⟨s, h, hrun⟩
    rw [← List.nil_append [e], snoc_iff] at h
    obtain ⟨_, hnil, hstep⟩ := h
    cases nil_iff.mp hnil
    exact ⟨s, hstep, hrun⟩
  · rintro ⟨s, hstep, hrun⟩
    exact ⟨s, single hstep, hrun⟩

theorem split_at (h : Run R s₀ (tr ++ e :: tr') t) :
    ∃ s s', Run R s₀ tr s ∧ R s e s' ∧ Run R s' tr' t := by
  obtain ⟨s, hs, h⟩ := append_iff.mp h
  obtain ⟨s', hstep, h⟩ := cons_iff.mp h
  exact ⟨s, s', hs, hstep, h⟩

end Run

/-! ## What has happened since -/

/-- A step that meets `start` was taken, and none that meets `stop` came after it. -/
def Since (start stop : ε → Prop) (tr : List ε) : Prop :=
  ∃ pre e post, tr = pre ++ e :: post ∧ start e ∧ ∀ e' ∈ post, ¬ stop e'

theorem not_since_nil {start stop : ε → Prop} : ¬ Since start stop [] := by
  rintro ⟨pre, e, post, split, -⟩
  simp at split

theorem since_snoc_iff {start stop : ε → Prop} :
    Since start stop (tr ++ [e]) ↔ start e ∨ Since start stop tr ∧ ¬ stop e := by
  constructor
  · rintro ⟨pre, e', post, split, started, quiet⟩
    induction post using List.reverseRecOn with
    | nil =>
      obtain ⟨-, same⟩ := List.append_inj' split rfl
      cases same
      exact .inl started
    | append_singleton post last _ =>
      have longer : tr ++ [e] = (pre ++ e' :: post) ++ [last] := by simp [split]
      obtain ⟨rfl, same⟩ := List.append_inj' longer rfl
      cases same
      exact .inr ⟨⟨pre, e', post, rfl, started, fun e'' member =>
        quiet e'' (List.mem_append_left _ member)⟩, quiet e (by simp)⟩
  · rintro (started | ⟨⟨pre, e', post, rfl, started, quiet⟩, running⟩)
    · exact ⟨tr, e, [], rfl, started, by simp⟩
    · refine ⟨pre, e', post ++ [e], by simp, started, fun e'' member => ?_⟩
      rcases List.mem_append.mp member with member | member
      · exact quiet e'' member
      · rwa [List.mem_singleton.mp member]

/-- A property that a step starts, stops or keeps holds when it has been started and not stopped
since. -/
theorem Run.since_iff {P : σ → Prop} {start stop : ε → Prop} (h : Run R s₀ tr s) (init : ¬ P s₀)
    (step : ∀ {s e s'}, R s e s' → (P s' ↔ start e ∨ P s ∧ ¬ stop e)) :
    P s ↔ Since start stop tr := by
  induction h with
  | nil => exact iff_of_false init not_since_nil
  | snoc _ hstep ih => rw [step hstep, since_snoc_iff, ih]

/-! ## What has been the case once -/

/-- Some step of the run was taken from a state that, with the label of the step, meets `P`. -/
def Once (R : σ → ε → σ → Prop) (s₀ : σ) (P : σ → ε → Prop) (tr : List ε) : Prop :=
  ∃ pre e post s s', tr = pre ++ e :: post ∧ Run R s₀ pre s ∧ R s e s' ∧ P s e

theorem Run.once {P : σ → ε → Prop} (h : Run R s₀ tr s) (hstep : R s e s') (now : P s e) :
    Once R s₀ P (tr ++ [e]) :=
  ⟨tr, e, [], s, s', rfl, h, hstep, now⟩

theorem Once.snoc {P : σ → ε → Prop} (h : Once R s₀ P tr) : Once R s₀ P (tr ++ [e]) := by
  obtain ⟨pre, d, post, s, s', rfl, before, hstep, meets⟩ := h
  exact ⟨pre, d, post ++ [e], s, s', List.append_assoc .., before, hstep, meets⟩

theorem Once.mono {P Q : σ → ε → Prop} (h : Once R s₀ P tr) (weaker : ∀ s e, P s e → Q s e) :
    Once R s₀ Q tr := by
  obtain ⟨pre, e, post, s, s', split, before, hstep, meets⟩ := h
  exact ⟨pre, e, post, s, s', split, before, hstep, weaker s e meets⟩

/-! ## Executable machines -/

/-- Takes the steps of a list in order, `none` as soon as one is not enabled. -/
def exec (step : σ → ε → Option σ) : σ → List ε → Option σ
  | s, [] => some s
  | s, e :: tr => (step s e).bind (exec step · tr)

/-- `step` with the labels that do not meet `ok` disabled. -/
def guardStep (step : σ → ε → Option σ) (ok : σ → ε → Prop) [∀ s e, Decidable (ok s e)] :
    σ → ε → Option σ :=
  fun s e => if ok s e then step s e else none

theorem exec_run {step : σ → ε → Option σ} (h : exec step s₀ tr = some s) :
    Run (Enabled step) s₀ tr s := by
  induction tr generalizing s₀ with
  | nil =>
    cases h
    exact .nil
  | cons e tr ih =>
    obtain ⟨s₁, hstep, h⟩ := Option.bind_eq_some_iff.mp h
    exact Run.cons_iff.mpr ⟨s₁, hstep, ih h⟩

/-- A run that ends in a state with a decidable property can be found by running it. -/
theorem exec_any {P : σ → Bool} (h : (exec step s₀ tr).any P) :
    ∃ s, Run (Enabled step) s₀ tr s ∧ P s := by
  obtain ⟨s, hs, hP⟩ := (Option.any_eq_true ..).mp h
  exact ⟨s, exec_run hs, hP⟩

theorem exec_guarded_run {step : σ → ε → Option σ} {ok : σ → ε → Prop}
    [∀ s e, Decidable (ok s e)] (h : exec (guardStep step ok) s₀ tr = some s) :
    Run (Guarded (Enabled step) ok) s₀ tr s := by
  apply (exec_run h).mono
  intro s e s' hstep
  simp only [Enabled, guardStep, Option.ite_none_right_eq_some] at hstep
  exact ⟨hstep.2, hstep.1⟩

theorem exec_guarded_any {step : σ → ε → Option σ} {ok : σ → ε → Prop}
    [∀ s e, Decidable (ok s e)] {P : σ → Bool} (h : (exec (guardStep step ok) s₀ tr).any P) :
    ∃ s, Run (Guarded (Enabled step) ok) s₀ tr s ∧ P s := by
  obtain ⟨s, hs, hP⟩ := (Option.any_eq_true ..).mp h
  exact ⟨s, exec_guarded_run hs, hP⟩

end Transition
