import Mathlib.Logic.Relation
import Mathlib.Data.Nat.Notation

/-!
# Wait-for relations

`W t u` says that `t` is blocked and that only `u` can let it go on. A deadlock is a cycle
of `W`. A relation whose steps all go down in some rank has no cycle.
-/

set_option autoImplicit false

namespace Dhas.Library

variable {τ : Type*}

/-- Some member waits, over one or more steps, for itself. -/
def HasCycle (W : τ → τ → Prop) : Prop := ∃ t, Relation.TransGen W t t

/-- INTERNAL: a rank that goes down along every wait excludes a cycle. -/
theorem not_hasCycle_of_rank {W : τ → τ → Prop} (r : τ → ℕ)
    (hr : ∀ t u, W t u → r u < r t) : ¬ HasCycle W := by
  rintro ⟨t, ht⟩
  have hdown : ∀ u v, Relation.TransGen W u v → r v < r u := by
    intro u v huv
    induction huv with
    | single h => exact hr _ _ h
    | tail _ h ih => exact Nat.lt_trans (hr _ _ h) ih
  exact Nat.lt_irrefl _ (hdown t t ht)

/-- INTERNAL: two threads that wait for each other. -/
theorem hasCycle_of_two {W : τ → τ → Prop} {t u : τ} (htu : W t u) (hut : W u t) :
    HasCycle W :=
  ⟨t, .tail (.single htu) hut⟩

/-- INTERNAL: three threads that wait round in a ring. -/
theorem hasCycle_of_three {W : τ → τ → Prop} {t u v : τ} (htu : W t u) (huv : W u v)
    (hvt : W v t) : HasCycle W :=
  ⟨t, .tail (.tail (.single htu) huv) hvt⟩

end Dhas.Library
