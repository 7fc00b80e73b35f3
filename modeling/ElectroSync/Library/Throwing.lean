import Mathlib.Data.List.Basic

/-!
# Computations that throw over a state that survives the throw

`Throwing σ ε α` is the monad of an asynchronous function that awaits effects on a state `σ` and
may throw an `ε`: what was done before a throw stays done. `eval` runs it, and one equation for each
operation takes a program apart, so that no proof looks into the monad.
-/

/-- A computation over the state `σ` that returns an `α` or throws an `ε`. -/
abbrev Throwing (σ ε α : Type) := ExceptT ε (StateM σ) α

namespace Throwing

/-- The result of a computation from a state, and the state it leaves. -/
def eval (x : Throwing σ ε α) (s : σ) : Except ε α × σ := x.run s

/-- The outcome of an effect outside the model: it leaves the state alone. -/
def ofExcept (r : Except ε α) : Throwing σ ε α := fun s => (r, s)

/-- A statement that only changes the state. -/
def update (f : σ → σ) : Throwing σ ε Unit := fun s => (.ok (), f s)

/-- A statement that changes the state and returns something. -/
def act (f : σ → α × σ) : Throwing σ ε α := fun s => (.ok (f s).1, (f s).2)

/-- A statement that reads the state. -/
def read (f : σ → α) : Throwing σ ε α := fun s => (.ok (f s), s)

@[simp] theorem eval_pure (a : α) (s : σ) : (pure a : Throwing σ ε α).eval s = (.ok a, s) := rfl

@[simp] theorem eval_throw (e : ε) (s : σ) :
    (throw e : Throwing σ ε α).eval s = (.error e, s) := rfl

@[simp] theorem eval_ofExcept (r : Except ε α) (s : σ) :
    (ofExcept r : Throwing σ ε α).eval s = (r, s) := rfl

@[simp] theorem eval_update (f : σ → σ) (s : σ) :
    (update f : Throwing σ ε Unit).eval s = (.ok (), f s) := rfl

@[simp] theorem eval_act (f : σ → α × σ) (s : σ) :
    (act f : Throwing σ ε α).eval s = (.ok (f s).1, (f s).2) := rfl

@[simp] theorem eval_read (f : σ → α) (s : σ) :
    (read f : Throwing σ ε α).eval s = (.ok (f s), s) := rfl

/-- A sequence stops at the first throw and keeps the state reached there. -/
theorem eval_bind (x : Throwing σ ε α) (f : α → Throwing σ ε β) (s : σ) :
    (x >>= f).eval s =
      match x.eval s with
      | (.ok a, s') => (f a).eval s'
      | (.error e, s') => (.error e, s') := by
  simp only [eval, ExceptT.run_bind]
  change (match (x s).1 with
    | .ok a => (f a).run
    | .error e => (pure (Except.error e) : StateM σ (Except ε β))) (x s).2 = _
  rcases h : x s with ⟨_ | _, _⟩
  · simp only [ExceptT.run, h]
    rfl
  · simp only [ExceptT.run, h]

/-- A handler runs in the state in which the throw happened. -/
theorem eval_tryCatch (x : Throwing σ ε α) (h : ε → Throwing σ ε α) (s : σ) :
    (tryCatch x h).eval s =
      match x.eval s with
      | (.ok a, s') => (.ok a, s')
      | (.error e, s') => (h e).eval s' := by
  simp only [eval, ExceptT.run_tryCatch]
  change (match (x s).1 with
    | .ok a => (pure (Except.ok a) : StateM σ (Except ε α))
    | .error e => (h e).run) (x s).2 = _
  rcases hx : x s with ⟨_ | _, _⟩
  · simp only [ExceptT.run, hx]
  · simp only [ExceptT.run, hx]
    rfl

theorem eval_bind_ok {x : Throwing σ ε α} {f : α → Throwing σ ε β} (h : x.eval s = (.ok a, s')) :
    (x >>= f).eval s = (f a).eval s' := by
  rw [eval_bind, h]

theorem eval_bind_error {x : Throwing σ ε α} {f : α → Throwing σ ε β}
    (h : x.eval s = (.error e, s')) : (x >>= f).eval s = (.error e, s') := by
  rw [eval_bind, h]

/-- A computation whose result is only wrapped. -/
theorem eval_bind_pure (x : Throwing σ ε α) (g : α → β) (s : σ) :
    (do return g (← x) : Throwing σ ε β).eval s = ((x.eval s).1.map g, (x.eval s).2) := by
  rw [eval_bind]
  rcases x.eval s with ⟨_ | _, _⟩ <;> rfl

/-- Runs `f` on the elements in order, up to the first throw. -/
def forEach (f : α → Throwing σ ε Unit) : List α → Throwing σ ε Unit
  | [] => pure ()
  | a :: as => do
    f a
    forEach f as

theorem eval_forEach_append (f : α → Throwing σ ε Unit) (as bs : List α) (s : σ) :
    (forEach f (as ++ bs)).eval s = (do forEach f as; forEach f bs : Throwing σ ε Unit).eval s := by
  induction as generalizing s with
  | nil => rfl
  | cons a as ih =>
    simp only [List.cons_append, forEach, eval_bind]
    rcases (f a).eval s with ⟨_ | _, s'⟩
    · rfl
    · simp only [ih, eval_bind]

end Throwing
