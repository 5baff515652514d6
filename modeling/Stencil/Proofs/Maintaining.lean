import Stencil.Proofs.Extension

/-!
# What Operations Maintain

Invariants of stores that hold whatever comes of an operation.

An operation may fail when part of it is done, and what was done stays. So an
invariant that runs of operations are to keep has to hold of the store that an
operation leaves behind in any case, and only what is said of the result is left
to success.

An invariant can speak of more than the store, say of a set of addresses. This
may have become another one after the operation, and a relation says how the
store and the set before have to do with those after. Neither of the two is fixed
here. All that matters is that the relation can be composed.

## Main definitions

* `Action.Maintains`: Whatever comes of an action, an invariant holds.

## Theorems

* `Action.maintains_bind`: Actions one after the other.
* `Action.maintains_bind_looks`: An action that only looks, before another one.
-/

namespace Stencil

namespace Action

variable {α β σ : Type} {rel : Store → σ → Store → σ → Prop} {inv : Store → σ → Prop}
  {x : Action α} {f : α → Action β} {st : Store} {s : σ} {post mid : α → Store → σ → Prop}
  {last : β → Store → σ → Prop}

/-- Whatever comes of it, what the action leaves behind is related to what there
    was, and an invariant holds of it. If it succeeds, then a condition holds. -/
def Maintains (rel : Store → σ → Store → σ → Prop) (inv : Store → σ → Prop) (x : Action α)
    (st : Store) (s : σ) (post : α → Store → σ → Prop) : Prop :=
  ∃ s', rel st s (x.storeAfter st) s' ∧ inv (x.storeAfter st) s'
    ∧ ∀ a, x.resultAt st = .ok a → post a (x.storeAfter st) s'

theorem maintains_mono (h : x.Maintains rel inv st s post) {weaker : α → Store → σ → Prop}
    (imp : ∀ a st' s', post a st' s' → weaker a st' s') : x.Maintains rel inv st s weaker := by
  rcases h with ⟨s', related, holds, gives⟩
  exact ⟨s', related, holds, fun a given => imp a _ s' (gives a given)⟩

/-- Actions one after the other. -/
theorem maintains_bind
    (trans : ∀ {st st' st'' : Store} {s s' s'' : σ}, rel st s st' s' → rel st' s' st'' s'' →
      rel st s st'' s'')
    (first : x.Maintains rel inv st s mid)
    (second : ∀ a st' s', rel st s st' s' → inv st' s' → mid a st' s' →
      (f a).Maintains rel inv st' s' last) :
    (x >>= f).Maintains rel inv st s last := by
  rcases first with ⟨s₁, related, holds, gives⟩
  -- What the first action leaves behind counts even if it fails.
  cases result : x.resultAt st with
  | error e =>
      refine ⟨s₁, ?_, ?_, fun b h => ?_⟩
      · rw [storeAfter_bind_error result]
        exact related
      · rw [storeAfter_bind_error result]
        exact holds
      · rw [resultAt_bind_error result] at h
        cases h
  | ok a =>
      rcases second a _ s₁ related holds (gives a result) with ⟨s₂, related', holds', gives'⟩
      rw [← storeAfter_bind_ok (f := f) result] at related' holds' gives'
      rw [← resultAt_bind_ok (f := f) result] at gives'
      exact ⟨s₂, trans related related', holds', gives'⟩

/-- An action that only looks, before another one. What it adds before it fails
    must not matter. -/
theorem maintains_bind_looks (still : ∀ st', st.Extends st' → rel st s st' s ∧ inv st' s)
    (looks : x.Looks st)
    (second : ∀ a, x.resultAt st = .ok a → (f a).Maintains rel inv st s last) :
    (x >>= f).Maintains rel inv st s last := by
  cases result : x.resultAt st with
  | error e =>
      rw [Maintains, storeAfter_bind_error result, resultAt_bind_error result]
      rcases still _ looks.adds with ⟨related, holds⟩
      exact ⟨s, related, holds, fun b h => nomatch h⟩
  | ok a =>
      have rest := second a result
      rw [Maintains] at rest ⊢
      rw [storeAfter_bind_ok result, resultAt_bind_ok result, looks.steady a result]
      exact rest

theorem maintains_bind_asking {q : Store → α}
    (rest : (f (q st)).Maintains rel inv st s last) :
    (asking q >>= f).Maintains rel inv st s last :=
  rest

end Action

end Stencil
