import Mathlib.Data.List.Forall2

/-!
# Two computations side by side

`Lift E R x y` relates the outcomes of two computations that may throw: both return, and the results
are related by `R`, or both throw, and the errors are related by `E`. Sequences of related steps are
related, and so are runs over the elements of related lists.
-/

namespace Related

variable {E : ε → δ → Prop}

inductive Lift (E : ε → δ → Prop) (R : α → β → Prop) : Except ε α → Except δ β → Prop
  | ok : R a b → Lift E R (.ok a) (.ok b)
  | error : E e d → Lift E R (.error e) (.error d)

namespace Lift
variable {R : α → β → Prop} {S : α' → β' → Prop}

theorem mono {R' : α → β → Prop} (h : Lift E R x y) (le : ∀ a b, R a b → R' a b) :
    Lift E R' x y := by
  cases h with
  | ok h => exact .ok (le _ _ h)
  | error h => exact .error h

theorem pure {a : α} {b : β} (h : R a b) :
    Lift E R (Pure.pure a : Except ε α) (Pure.pure b : Except δ β) :=
  .ok h

theorem bind {x : Except ε α} {y : Except δ β} {f : α → Except ε α'} {g : β → Except δ β'}
    (h : Lift E R x y) (next : ∀ a b, R a b → Lift E S (f a) (g b)) :
    Lift E S (x >>= f) (y >>= g) := by
  cases h with
  | ok h => exact next _ _ h
  | error h => exact .error h

/-- Related lists, with a related step on each pair of elements. -/
theorem mapM {f : γ → Except ε α} {g : γ' → Except δ β} {l : List γ} {l' : List γ'}
    (h : List.Forall₂ (fun c c' => Lift E R (f c) (g c')) l l') :
    Lift E (List.Forall₂ R) (l.mapM f) (l'.mapM g) := by
  induction h with
  | nil => exact .ok .nil
  | cons first _ ih =>
    rw [List.mapM_cons, List.mapM_cons]
    refine first.bind fun a b related => ?_
    refine ih.bind fun as bs rest => ?_
    exact .pure (.cons related rest)

end Lift

end Related
