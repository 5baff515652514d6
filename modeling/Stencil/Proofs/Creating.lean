import Stencil.Proofs.Storing

/-!
# Making Templates

What becomes of a store when a caller makes a template.

Options can be anything. Checking them may call functions, which give new
objects, and it may fail. Whatever it comes to, the objects that were there stay as
they are. So making a template adds objects, and the last of them is the
template, as long as the global logger works as loggers do.

## Theorems

* `Settings.extends_resolve`: Having options checked adds objects at most.
* `Exposed.create_cases`: Making a template adds objects.
-/

namespace Stencil

namespace Settings

variable {interp : Interpretation} {st st' : Store}

theorem extends_extended (st : Store) (made : List Object) : st.Extends (st.extended made) := by
  induction made generalizing st with
  | nil => exact .refl st
  | cons o made ih => exact (Store.extends_push st o).trans (ih (st.push o))

theorem extends_checkedAs (st : Store) (options : Value) :
    st.Extends (checkedAs st options).1 := by
  unfold checkedAs
  split
  · exact Store.extends_push st _
  · exact Store.extends_push st _
  · exact Store.extends_push st _
  · exact .refl st

/-- Having options checked adds objects at most. -/
theorem extends_resolve {options : Value} {settings : Settings}
    (h : resolve interp st options = .ok (st', settings)) : st.Extends st' := by
  rcases ok_of_bind h with ⟨checked, -, h⟩
  cases outcome : checked.outcome with
  | error issues =>
      rw [outcome] at h
      cases h
  | ok data =>
      rw [outcome] at h
      cases h
      exact (extends_checkedAs st options).trans (extends_extended _ checked.made)

end Settings

namespace Exposed

variable {interp : Interpretation} {st : Store}

/-- Whether a logger works depends on nothing else. -/
theorem isOrderly_congr {st' : Store} {r : Ref} (same : st'.get r = st.get r) :
    st'.isOrderly r = st.isOrderly r := by
  rw [Store.isOrderly, Store.isOrderly, Store.isLogger, Store.isLogger, same]

section

variable {level label : String} (there : st.get Store.globalLogger
  = Object.logger (.text level) (.text label) .undefined)

include there

theorem index_lt_of_logger : Store.globalLogger.index < st.objects.size := by
  by_contra outside
  rw [Store.get_of_size_le (Nat.le_of_not_lt outside)] at there
  cases there

theorem isOrderly_of_logger : st.isOrderly Store.globalLogger = true := by
  rw [Store.isOrderly, Store.isLogger, there]
  rfl

end

/-- Making a template adds objects: at the end the template, or some before it
    failed. -/
theorem create_cases (interp : Interpretation) (variant : Variant) (source : String)
    (options : Value) (inside : Store.globalLogger.index < st.objects.size)
    (orderly : st.isOrderly Store.globalLogger = true) :
    (∃ st' u, st.Extends st' ∧ u.defaults = [] ∧ u.journal.root = Store.globalLogger
        ∧ (create interp variant (.text source) options).resultAt st = .ok (.object st'.next)
        ∧ (create interp variant (.text source) options).storeAfter st
          = st'.push (Object.ofBody (.template u)))
      ∨ ∃ e, (create interp variant (.text source) options).resultAt st = .error e
        ∧ st.Extends ((create interp variant (.text source) options).storeAfter st) := by
  -- Reading the options comes first, and may already fail.
  cases resolved : Settings.resolve interp st options with
  | error e =>
      have failed : (Action.raising fun st => Settings.resolve interp st options).resultAt st
          = .error e := by
        simp only [Action.resultAt, Action.raising, resolved]
      have kept : (Action.raising fun st => Settings.resolve interp st options).storeAfter st
          = st := by
        simp only [Action.storeAfter, Action.raising, resolved]
      refine .inr ⟨e, Action.resultAt_bind_error failed, ?_⟩
      rw [create, Action.storeAfter_bind_error failed, kept]
      exact .refl st
  | ok result =>
      rcases result with ⟨st', settings⟩
      have grown := Settings.extends_resolve resolved
      have given : (Action.raising fun st => Settings.resolve interp st options).resultAt st
          = .ok settings := by
        simp only [Action.resultAt, Action.raising, resolved]
      have left : (Action.raising fun st => Settings.resolve interp st options).storeAfter st
          = st' := by
        simp only [Action.storeAfter, Action.raising, resolved]
      -- Whatever reading them has added, the logger is as it was.
      have orderly' : st'.isOrderly Store.globalLogger = true := by
        rw [isOrderly_congr (grown.get_eq _ inside), orderly]
      rw [create, Action.resultAt_bind_ok given, Action.storeAfter_bind_ok given, left,
        Action.resultAt_bind_asking, Action.storeAfter_bind_asking, orderly']
      simp only [if_true]
      cases parsed : Outline.ofSource? source with
      | ok outline =>
          rcases Template.add_ok variant settings st' parsed with ⟨u, made, gives, added⟩
          refine .inl ⟨st', u, grown, made.defaults, congrArg Journal.root made.journal, ?_, ?_⟩
          · rw [Action.resultAt_bind_ok gives]
            rfl
          · rw [Action.storeAfter_bind_ok gives, added]
            rfl
      | error m =>
          rcases Template.add_error variant settings st' parsed with ⟨fails, kept⟩
          refine .inr ⟨_, Action.resultAt_bind_error fails, ?_⟩
          rw [Action.storeAfter_bind_error fails, kept]
          exact grown

end Exposed

end Stencil
