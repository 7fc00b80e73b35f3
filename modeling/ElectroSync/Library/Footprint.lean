import ElectroSync.Library.Interleaving

/-!
# Processes with footprints of their own

The shared state is seen in parts: `view s k` is the part named `k`, and `owner p` names the part
that the process `p` works on. A program is `Framed` when a step leaves every other part alone.
Processes of different owners then cannot interfere, so that an assertion which relates a process to
its own part, and which the process's own steps keep, holds in every interleaving.
-/

namespace Interleaving
open Transition

variable {σ ι ρ χ κ τ : Type} {prog : Program σ ι ρ χ} {owner : ρ → κ} {view : σ → κ → τ}
  {P : τ → ρ → Prop} {s s' : System σ ρ} {i : ℕ} {c : χ} {k : κ}

/-- A step changes only the part of the process that takes it. -/
structure Framed (prog : Program σ ι ρ χ) (owner : ρ → κ) (view : σ → κ → τ) : Prop where
  owner_eq : ∀ {shared p chance shared' p'}, prog.next shared p chance = some (shared', p') →
    owner p' = owner p
  view_eq : ∀ {shared p chance shared' p' k}, prog.next shared p chance = some (shared', p') →
    k ≠ owner p → view shared' k = view shared k

/-- No two processes have the same owner. -/
def DistinctOwners (owner : ρ → κ) (s : System σ ρ) : Prop :=
  Apart (fun p q => owner p ≠ owner q) s

/-- Every process meets `P`, together with its own part. -/
def Locally (owner : ρ → κ) (view : σ → κ → τ) (P : τ → ρ → Prop) (s : System σ ρ) : Prop :=
  Everywhere (fun shared p => P (view shared (owner p)) p) s

/-- The owners of the processes, in the order in which they started. -/
def owners (owner : ρ → κ) (s : System σ ρ) : List κ := s.procs.map owner

theorem distinctOwners_iff : DistinctOwners owner s ↔ (owners owner s).Nodup := by
  rw [List.Nodup, List.pairwise_iff_getElem]
  constructor
  · intro apart i j hi hj less
    simp only [owners, List.length_map] at hi hj
    simp only [owners, List.getElem_map]
    exact apart i j _ _ (Nat.ne_of_lt less) (List.getElem?_eq_getElem hi)
      (List.getElem?_eq_getElem hj)
  · intro ordered i j p q different here here'
    obtain ⟨hi, rfl⟩ := List.getElem?_eq_some_iff.mp here
    obtain ⟨hj, rfl⟩ := List.getElem?_eq_some_iff.mp here'
    simp only [owners, List.length_map, List.getElem_map] at ordered
    rcases Nat.lt_or_gt_of_ne different with less | less
    · exact ordered i j hi hj less
    · exact (ordered j i hj hi less).symm

namespace Framed
variable (framed : Framed prog owner view)
include framed

theorem owners_step (h : step prog s (.advance i c) = some s') :
    owners owner s' = owners owner s :=
  map_advance framed.owner_eq h

/-- The rule of local assertions for processes with different owners: no other premise than that a
process keeps its own. -/
theorem locally_step (apart : DistinctOwners owner s) (local_ : Locally owner view P s)
    (keeps : ∀ {shared p chance shared' p'}, P (view shared (owner p)) p →
      prog.next shared p chance = some (shared', p') → P (view shared' (owner p)) p')
    (h : step prog s (.advance i c) = some s') : Locally owner view P s' := by
  obtain ⟨p, shared', p', here, next, rfl⟩ := advance_cases h
  refine Everywhere.set local_ ?_ ?_
  · rw [framed.owner_eq next]
    exact keeps (local_ i p here) next
  · intro j q other here' meets
    rwa [framed.view_eq next (apart j i q p other here' here)]

/-- A part that no process owns stays as it is. -/
theorem view_step (unowned : k ∉ owners owner s) (h : step prog s (.advance i c) = some s') :
    view s'.shared k = view s.shared k := by
  obtain ⟨p, shared', p', here, next, rfl⟩ := advance_cases h
  apply framed.view_eq next
  rintro rfl
  exact unowned (List.mem_map_of_mem (List.mem_of_getElem? here))

end Framed

end Interleaving
