import ElectroSync.Library.Throwing

/-!
# Computations that run alike

`Alike R x y`: from states related by `R`, the computations `x` and `y` return the same or throw the
same, and leave states related by `R`. A computation that does not look at what `R` leaves open runs
like itself, and the rules are those by which it is built.
-/

namespace Throwing

variable {R : σ → τ → Prop} {x : Throwing σ ε α} {y : Throwing τ ε α}

def Alike (R : σ → τ → Prop) (x : Throwing σ ε α) (y : Throwing τ ε α) : Prop :=
  ∀ s t, R s t → (x.eval s).1 = (y.eval t).1 ∧ R (x.eval s).2 (y.eval t).2

namespace Alike

theorem pure (a : α) : Alike R (Pure.pure a : Throwing σ ε α) (Pure.pure a) :=
  fun _ _ related => ⟨rfl, related⟩

theorem throw (e : ε) : Alike R (MonadExcept.throw e : Throwing σ ε α) (MonadExcept.throw e) :=
  fun _ _ related => ⟨rfl, related⟩

theorem ofExcept (r : Except ε α) : Alike R (ofExcept r) (ofExcept r) :=
  fun _ _ related => ⟨rfl, related⟩

theorem update {f : σ → σ} {g : τ → τ} (keeps : ∀ s t, R s t → R (f s) (g t)) :
    Alike R (update f : Throwing σ ε Unit) (update g) :=
  fun s t related => ⟨rfl, keeps s t related⟩

theorem read {f : σ → α} {g : τ → α} (same : ∀ s t, R s t → f s = g t) :
    Alike R (read f : Throwing σ ε α) (read g) :=
  fun s t related => ⟨congrArg Except.ok (same s t related), related⟩

/-- The rule of a sequence, from one pair of states. -/
theorem bind_at {s : σ} {t : τ} {f : α → Throwing σ ε β} {g : α → Throwing τ ε β}
    (alike : (x.eval s).1 = (y.eval t).1 ∧ R (x.eval s).2 (y.eval t).2)
    (next : ∀ a, Alike R (f a) (g a)) :
    ((x >>= f).eval s).1 = ((y >>= g).eval t).1 ∧
      R ((x >>= f).eval s).2 ((y >>= g).eval t).2 := by
  rw [eval_bind, eval_bind]
  generalize x.eval s = left, y.eval t = right at alike
  obtain ⟨r, s'⟩ := left
  obtain ⟨r', t'⟩ := right
  obtain ⟨rfl, after⟩ := alike
  cases r with
  | error e => exact ⟨rfl, after⟩
  | ok a => exact next a s' t' after

theorem bind {f : α → Throwing σ ε β} {g : α → Throwing τ ε β} (h : Alike R x y)
    (next : ∀ a, Alike R (f a) (g a)) : Alike R (x >>= f) (y >>= g) :=
  fun s t related => bind_at (h s t related) next

theorem tryCatch {f : ε → Throwing σ ε α} {g : ε → Throwing τ ε α} (h : Alike R x y)
    (handler : ∀ e, Alike R (f e) (g e)) :
    Alike R (MonadExcept.tryCatch x f) (MonadExcept.tryCatch y g) := by
  intro s t related
  have alike := h s t related
  rw [eval_tryCatch, eval_tryCatch]
  generalize x.eval s = left, y.eval t = right at alike
  obtain ⟨r, s'⟩ := left
  obtain ⟨r', t'⟩ := right
  obtain ⟨rfl, after⟩ := alike
  cases r with
  | error e => exact handler e s' t' after
  | ok a => exact ⟨rfl, after⟩

theorem ite {p : Prop} [Decidable p] {x' : Throwing σ ε α} {y' : Throwing τ ε α}
    (h : p → Alike R x y) (h' : ¬ p → Alike R x' y') :
    Alike R (if p then x else x') (if p then y else y') := by
  split
  · exact h ‹p›
  · exact h' ‹¬ p›

end Alike

end Throwing
