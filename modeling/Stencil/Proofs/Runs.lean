import Stencil.Proofs.Unchanged

/-!
# Callers and Their Templates

What callers can do to the templates that they hold.

A caller makes templates, derives others from them, sets defaults, renders and
compares, in any order and as long as it likes. In between it makes objects and
writes to them whatever it likes, whether or not they were passed to a template.
Nothing is said about whether an operation succeeds: what it leaves behind
counts in any case.

The only thing that matters about a caller is what it has: the templates that
it was given, and the objects that it writes to. Other objects that it brings
along, like functions, stay as they are. A template never gives away what it
keeps, so at all times what a caller has is apart from what is kept, and that
is what `World.Sound` says. A step keeps this, so a run does.

It follows that a caller can change a template in one way only. All that a
template leads to is the same before and after a run in which it was not given
any defaults, and so is what it renders as.

## Main definitions

* `Operation`: What a caller does with templates.
* `Step`: What a caller does: an operation, or something with its own objects.
* `World`, `World.after`, `World.run`: A caller with a store, and runs.
* `World.AllowsAll`: A run passes plain data and templates only.
* `World.Sound`: What a caller has is apart from what is kept.
* `World.Frame`: What changes at most during a run.

## Theorems

* `World.Sound.after`, `World.Sound.run`: Steps, and runs.
* `World.changes_only_by_setDefault`: A template changes only by being given
  defaults.
-/

namespace Stencil

open Store (globalLogger)

/-- What a caller does with templates. -/
inductive Operation where
  | create (variant : Variant) (source : String) (options : Value)
  | setDefault (r : Ref) (values : Value)
  | substitute (r : Ref) (values : Value)
  | render (r : Ref) (values : Value)
  | safeRender (r : Ref) (values : Value)
  | equals (r : Ref) (v : Value)

/-- What a caller does: an operation on templates, or something with objects of its
    own. -/
inductive Step where
  | perform (op : Operation)
  /-- A new object, and whether the caller will ever write to it. -/
  | bring (o : Object) (writable : Bool)
  | write (q : Ref) (o : Object)

/-- What is done by an operation. It gives the templates that the caller gets. -/
def Operation.run (interp : Interpretation) : Operation → Action (List Ref)
  | create variant source options => do
    return (← Exposed.create interp variant (.text source) options).refs
  | setDefault r values => do
    let _ ← Template.askSetDefault interp "template" r values
    return []
  | substitute r values => do
    return (← Template.substitute interp "template" r values).refs
  | render r values => do
    let _ ← Template.render interp "template" r values
    return []
  | safeRender r values => do
    let _ ← Template.askSafeRender interp "template" r values
    return []
  | equals r v => do
    let _ ← Template.askEquals interp "template" r v
    return []

/-- The template that an operation gives defaults to. -/
def Operation.changes : Operation → Set Ref
  | setDefault r _ => {r}
  | _ => ∅

/-- The template that is given defaults in a step. -/
def Step.changes : Step → Set Ref
  | perform op => op.changes
  | _ => ∅

/-- A caller with a store: the templates that it was given, and the objects that
    it writes to. -/
structure World where
  store : Store
  held : List Ref
  owned : List Ref

namespace World

section

variable (interp : Interpretation)

/-- What a step leads to, whether or not it succeeds. -/
def after (w : World) : Step → World
  | .perform op =>
    { w with
      store := (op.run interp).storeAfter w.store
      held := w.held ++ ((op.run interp).resultAt w.store).toOption.getD [] }
  | .bring o writable =>
    { w with
      store := w.store.push o
      owned := if writable then w.owned ++ [w.store.next] else w.owned }
  | .write q o => { w with store := w.store.write q o }

/-- What steps lead to, one after the other. -/
def run (w : World) (steps : List Step) : World :=
  steps.foldl (after interp) w

end

/-- Values that a caller passes: plain data, and templates that it was given. -/
def Admits (w : World) (v : Value) : Prop :=
  w.store.IsInput v ∨ ∃ r ∈ w.held, v = .object r

/-- Objects of such values that a caller passes. -/
def Supplies (w : World) (values : Value) : Prop :=
  ∃ supplied, w.store.Supplies values supplied ∧ ∀ e ∈ supplied, w.Admits e.2

/-- The operations that a caller can ask for: those on templates that it was
    given, with values that it can pass. -/
def Offers (w : World) : Operation → Prop
  | .create _ _ _ => True
  | .setDefault r values | .substitute r values => r ∈ w.held ∧ w.Supplies values
  | .render r values | .safeRender r values =>
    r ∈ w.held ∧ (w.Supplies values ∨ values = .undefined)
  | .equals r v => r ∈ w.held ∧ w.Admits v

/-- The steps that a caller can take. -/
def Allows (w : World) : Step → Prop
  | .perform op => w.Offers op
  | .bring _ _ => True
  | .write q _ => q ∈ w.owned

/-- The runs that a caller can make. -/
def AllowsAll (interp : Interpretation) : World → List Step → Prop
  | _, [] => True
  | w, s :: steps => w.Allows s ∧ AllowsAll interp (w.after interp s) steps

/-- A caller that has nothing yet, with a global logger that works as loggers do. -/
structure IsFresh (w : World) : Prop where
  held : w.held = []
  owned : w.owned = []
  logger : ∃ level label,
    w.store.get globalLogger = Object.logger (.text level) (.text label) .undefined

/-- What a caller has is apart from what is kept, and from the global logger. -/
structure Sound (w : World) (kept : Set Ref) : Prop where
  guarded : w.store.Guarded {r | r ∈ w.held} kept
  held : ∀ r ∈ w.held, r ∉ kept
  owned : ∀ q ∈ w.owned, q.index < w.store.objects.size ∧ q ∉ kept ∧ q ∉ w.held ∧ q ≠ globalLogger
  logger : ∃ level label,
    w.store.get globalLogger = Object.logger (.text level) (.text label) .undefined

/-- What changes at most during a run: objects that the caller writes to, and
    templates that are given defaults. -/
structure Frame (w : World) (steps : List Step) (w' : World) : Prop where
  size_le : w.store.objects.size ≤ w'.store.objects.size
  held : ∀ q ∈ w'.held, q ∈ w.held ∨ w.store.objects.size ≤ q.index
  owned : ∀ q ∈ w'.owned, q ∈ w.owned ∨ w.store.objects.size ≤ q.index
  changes : ∀ s ∈ steps, ∀ q ∈ s.changes, q ∈ w.held ∨ w.store.objects.size ≤ q.index
  get_eq : ∀ q, q.index < w.store.objects.size → q ∉ w.owned → (∀ s ∈ steps, q ∉ s.changes) →
    w'.store.get q = w.store.get q

variable {interp : Interpretation} {w w' w'' : World} {kept : Set Ref} {op : Operation} {s : Step}
  {steps steps' : List Step}

theorem run_append : w.run interp (steps ++ steps') = (w.run interp steps).run interp steps' :=
  List.foldl_append

theorem allowsAll_append : w.AllowsAll interp (steps ++ steps')
    ↔ w.AllowsAll interp steps ∧ (w.run interp steps).AllowsAll interp steps' := by
  induction steps generalizing w with
  | nil => exact ⟨fun h => ⟨trivial, h⟩, fun h => h.2⟩
  | cons s steps ih => exact (and_congr_right fun _ => ih).trans and_assoc.symm

/-! ### Frames -/

namespace Frame

theorem refl (w : World) : Frame w [] w where
  size_le := Nat.le_refl _
  held _ hq := .inl hq
  owned _ hq := .inl hq
  changes _ hs := absurd hs List.not_mem_nil
  get_eq _ _ _ _ := rfl

theorem trans (first : Frame w steps w') (second : Frame w' steps' w'') :
    Frame w (steps ++ steps') w'' where
  size_le := Nat.le_trans first.size_le second.size_le
  held q hq := by
    rcases second.held q hq with before | new
    · exact first.held q before
    · exact .inr (Nat.le_trans first.size_le new)
  owned q hq := by
    rcases second.owned q hq with before | new
    · exact first.owned q before
    · exact .inr (Nat.le_trans first.size_le new)
  changes s hs q hq := by
    rcases List.mem_append.mp hs with early | late
    · exact first.changes s early q hq
    · rcases second.changes s late q hq with before | new
      · exact first.held q before
      · exact .inr (Nat.le_trans first.size_le new)
  get_eq q inside others spared := by
    -- The caller may own objects later on that it did not own at first, but these are new,
    -- and the object in question is not.
    have still : q ∉ w'.owned := by
      intro mem
      rcases first.owned q mem with before | new
      · exact others before
      · exact Nat.lt_irrefl _ (Nat.lt_of_lt_of_le inside new)
    rw [second.get_eq q (Nat.lt_of_lt_of_le inside first.size_le) still
        fun s hs => spared s (List.mem_append_right _ hs),
      first.get_eq q inside others fun s hs => spared s (List.mem_append_left _ hs)]

/-- What the caller did not have is the same in the end. -/
theorem unchanged (frame : Frame w steps w') {q : Ref} (inside : q.index < w.store.objects.size)
    (notHeld : q ∉ w.held) (notOwned : q ∉ w.owned) : w'.store.get q = w.store.get q := by
  refine frame.get_eq q inside notOwned fun s hs changed => ?_
  rcases frame.changes s hs q changed with held | new
  · exact notHeld held
  · exact Nat.lt_irrefl _ (Nat.lt_of_lt_of_le inside new)

end Frame

/-! ### Operations -/

namespace Sound

theorem passes (sound : w.Sound kept) {v : Value} (admits : w.Admits v) :
    w.store.Passes kept v := by
  rcases admits with input | ⟨r, hr, rfl⟩
  · exact .inl input
  · exact .inr ⟨r, rfl, sound.guarded.held r hr⟩

theorem logger_inside (sound : w.Sound kept) : globalLogger.index < w.store.objects.size := by
  rcases sound.logger with ⟨level, label, there⟩
  exact Exposed.index_lt_of_logger there

theorem logger_orderly (sound : w.Sound kept) : w.store.isOrderly globalLogger = true := by
  rcases sound.logger with ⟨level, label, there⟩
  exact Exposed.isOrderly_of_logger there

/-- The global logger is no template that the caller was given. -/
theorem logger_not_held (sound : w.Sound kept) : globalLogger ∉ w.held := by
  intro mem
  rcases sound.guarded.held _ mem with ⟨t, template, -⟩
  rcases sound.logger with ⟨level, label, there⟩
  rw [there] at template
  cases template

section

variable {st : Store} {held off : Set Ref}

/-- The templates that an operation gives are new, and apart from what is kept. -/
def GivesAll (st : Store) (refs : List Ref) (st' : Store) (kept' : Set Ref) : Prop :=
  ∀ q ∈ refs, st.objects.size ≤ q.index ∧ q ∉ kept' ∧ st'.Keeps kept' q

/-- An operation whose result the caller does not get. -/
theorem guards_none {α : Type} {x : Action α} (le : off ⊆ held)
    (guards : x.Guards held off st kept fun _ _ _ => True) :
    (x >>= fun _ => (pure [] : Action (List Ref))).Guards held off st kept (GivesAll st) := by
  refine Action.guards_bind guards fun _ st' kept' _ guarded' _ => ?_
  exact Action.guards_pure guarded' le fun q hq => absurd hq List.not_mem_nil

/-- An operation that gives a template. -/
theorem guards_one {x : Action Value} (guards : x.Guards held ∅ st kept fun v st' kept' =>
      ∃ q, v = .object q ∧ Template.Gives held st q st' kept') :
    (x >>= fun v => (pure v.refs : Action (List Ref))).Guards held ∅ st kept (GivesAll st) := by
  refine Action.guards_bind guards fun v st' kept' _ guarded' given => ?_
  rcases given with ⟨q, rfl, new, apart, template⟩
  refine Action.guards_pure guarded' (Set.empty_subset _) fun p hp => ?_
  rw [List.mem_singleton.mp hp]
  exact ⟨new, apart, template.held q (Set.mem_union_left _ rfl)⟩

end

/-- An operation leaves alone what is kept, and all templates but the one that it
    gives defaults to. -/
theorem guards_run (interp : Interpretation) (sound : w.Sound kept) (offered : w.Offers op) :
    (op.run interp).Guards {r | r ∈ w.held} op.changes w.store kept (GivesAll w.store) := by
  have guarded := sound.guarded
  have supplies : ∀ {values : Value}, w.Supplies values ∨ values = .undefined →
      ∃ supplied, Template.Offers w.store values supplied
        ∧ ∀ e ∈ supplied, w.store.Passes kept e.2 := by
    rintro values (⟨supplied, supplies, admits⟩ | nothing)
    · exact ⟨supplied, .inl supplies, fun e he => sound.passes (admits e he)⟩
    · exact ⟨[], .inr ⟨nothing, rfl⟩, fun e he => absurd he List.not_mem_nil⟩
  cases op with
  | create variant source options =>
      exact guards_one (Exposed.guards_create interp variant source options guarded
        sound.logger_inside sound.logger_orderly)
  | setDefault r values =>
      rcases offered with ⟨hr, supplied, supplies, admits⟩
      exact guards_none (Set.singleton_subset_iff.mpr hr) (Template.guards_setDefault _ guarded hr
        supplies fun e he => sound.passes (admits e he))
  | substitute r values =>
      rcases offered with ⟨hr, supplied, supplies, admits⟩
      exact guards_one (Template.guards_substitute _ guarded hr supplies
        fun e he => sound.passes (admits e he))
  | render r values =>
      rcases offered with ⟨hr, given⟩
      rcases supplies given with ⟨supplied, offered, passes⟩
      exact guards_none (Set.empty_subset _) (Template.guards_render _ guarded hr offered passes)
  | safeRender r values =>
      rcases offered with ⟨hr, given⟩
      rcases supplies given with ⟨supplied, offered, passes⟩
      exact guards_none (Set.empty_subset _)
        (Template.guards_safeRender _ guarded hr offered passes)
  | equals r v =>
      rcases offered with ⟨hr, admits⟩
      exact guards_none (Set.empty_subset _)
        (Template.guards_equals _ guarded hr (sound.passes admits))

/-! ### Steps -/

/-- An operation, whether or not it succeeds. -/
theorem after_perform (interp : Interpretation) (sound : w.Sound kept) (offered : w.Offers op) :
    ∃ kept', (w.after interp (.perform op)).Sound kept' ∧ kept ⊆ kept'
      ∧ Frame w [.perform op] (w.after interp (.perform op)) := by
  rcases sound.guards_run interp offered with ⟨kept', grows, guarded, gives⟩
  have among : ∀ q ∈ op.changes, q ∈ w.held := by
    cases op with
    | setDefault r values => exact fun q hq => hq ▸ offered.1
    | _ => exact fun q hq => absurd hq (Set.notMem_empty q)
  -- An operation that fails gives no template, but it may have stored some defaults.
  have given : GivesAll w.store (((op.run interp).resultAt w.store).toOption.getD [])
      ((op.run interp).storeAfter w.store) kept' := by
    cases result : (op.run interp).resultAt w.store with
    | error e => exact fun q hq => absurd hq List.not_mem_nil
    | ok refs => exact gives refs result
  -- What is kept besides is new, so it is nothing that the caller had before.
  have apart : ∀ q, q.index < w.store.objects.size → q ∉ kept → q ∉ kept' := by
    intro q inside apart mem
    rcases grows.added q mem with known | new
    · exact apart known
    · exact Nat.lt_irrefl _ (Nat.lt_of_lt_of_le inside new)
  refine ⟨kept', ⟨⟨fun r hr => ?_, guarded.kept⟩, fun r hr => ?_, fun q hq => ?_, ?_⟩,
    grows.kept_le, ?_⟩
  · rcases List.mem_append.mp hr with before | new
    · exact guarded.held r before
    · exact (given r new).2.2
  · rcases List.mem_append.mp hr with before | new
    · exact apart r (sound.guarded.held r before).index_lt (sound.held r before)
    · exact (given r new).2.1
  · rcases sound.owned q hq with ⟨inside, notKept, notHeld, notLogger⟩
    refine ⟨Nat.lt_of_lt_of_le inside grows.size_le, apart q inside notKept, fun mem => ?_,
      notLogger⟩
    rcases List.mem_append.mp mem with before | new
    · exact notHeld before
    · exact Nat.lt_irrefl _ (Nat.lt_of_lt_of_le inside (given q new).1)
  · have still := grows.get_eq _ sound.logger_inside fun mem => sound.logger_not_held (among _ mem)
    exact still ▸ sound.logger
  · refine ⟨grows.size_le, fun q hq => ?_, fun q hq => .inl hq, fun s hs q hq => ?_,
      fun q inside _ spared => ?_⟩
    · rcases List.mem_append.mp hq with before | new
      · exact .inl before
      · exact .inr (given q new).1
    · rw [List.mem_singleton.mp hs] at hq
      exact .inl (among q hq)
    · exact grows.get_eq q inside (spared _ List.mem_cons_self)

/-- An object that the caller brings along. -/
theorem after_bring (interp : Interpretation) (sound : w.Sound kept) (o : Object)
    (writable : Bool) :
    (w.after interp (.bring o writable)).Sound kept
      ∧ Frame w [.bring o writable] (w.after interp (.bring o writable)) := by
  have grown : w.store.Extends (w.store.push o) := Store.extends_push w.store o
  have owned : ∀ q ∈ (w.after interp (.bring o writable)).owned,
      q ∈ w.owned ∨ q = w.store.next := by
    intro q hq
    cases writable with
    | true => exact (List.mem_append.mp hq).imp id List.mem_singleton.mp
    | false => exact .inl hq
  refine ⟨⟨sound.guarded.extends grown, sound.held, fun q hq => ?_, ?_⟩, ?_⟩
  · rcases owned q hq with before | rfl
    · rcases sound.owned q before with ⟨inside, apart⟩
      exact ⟨Nat.lt_of_lt_of_le inside grown.size_le, apart⟩
    · -- The address is new, so nothing else is there.
      have new : ∀ {q : Ref}, q.index < w.store.objects.size → q ≠ w.store.next :=
        fun inside same => Nat.lt_irrefl _ (same ▸ inside)
      refine ⟨?_, fun mem => ?_, fun mem => ?_, fun same => ?_⟩
      · rw [after, Store.size_push]
        exact Nat.lt_succ_self _
      · exact new (sound.guarded.index_lt mem) rfl
      · exact new (sound.guarded.held _ mem).index_lt rfl
      · exact new sound.logger_inside same.symm
  · exact (grown.get_eq _ sound.logger_inside) ▸ sound.logger
  · refine ⟨grown.size_le, fun q hq => .inl hq, fun q hq => ?_, fun s hs q hq => ?_,
      fun q inside _ _ => grown.get_eq q inside⟩
    · refine (owned q hq).imp id fun same => ?_
      rw [same]
      exact Nat.le_refl _
    · rw [List.mem_singleton.mp hs] at hq
      exact absurd hq (Set.notMem_empty q)

/-- An object of its own that the caller writes to. -/
theorem after_write (interp : Interpretation) (sound : w.Sound kept) {q : Ref}
    (owned : q ∈ w.owned) (o : Object) :
    (w.after interp (.write q o)).Sound kept
      ∧ Frame w [.write q o] (w.after interp (.write q o)) := by
  rcases sound.owned q owned with ⟨-, notKept, notHeld, notLogger⟩
  have size : (w.store.write q o).objects.size = w.store.objects.size := Store.size_write
  have same : ∀ p, p ≠ q → (w.store.write q o).get p = w.store.get p :=
    fun p apart => Store.get_write_ne apart
  refine ⟨⟨⟨fun r hr => ?_, fun r hr => ?_⟩, sound.held, fun p hp => ?_, ?_⟩, ?_⟩
  · -- A template is no object that the caller owns, and neither is anything that is kept.
    exact (sound.guarded.held r hr).of_same (same r fun h => notHeld (h ▸ hr)) (le_refl kept)
  · have other := same r fun h => notKept (h ▸ hr)
    rcases sound.guarded.kept r hr with keeps | ⟨S, within, on, mem⟩
    · exact .inl (keeps.of_same other (le_refl kept))
    · refine .inr ⟨S, within, on.of_same (Nat.le_of_eq size.symm) fun p hp => ?_, mem⟩
      exact same p fun h => notKept (h ▸ within hp)
  · rw [after, size]
    exact sound.owned p hp
  · exact (same _ notLogger.symm) ▸ sound.logger
  · refine ⟨Nat.le_of_eq size.symm, fun p hp => .inl hp, fun p hp => .inl hp,
      fun s hs p hp => ?_, fun p _ other _ => same p fun h => other (h ▸ owned)⟩
    rw [List.mem_singleton.mp hs] at hp
    exact absurd hp (Set.notMem_empty p)

/-- Whatever a caller does, what it has stays apart from what is kept. -/
theorem after (interp : Interpretation) (sound : w.Sound kept) (allowed : w.Allows s) :
    ∃ kept', (w.after interp s).Sound kept' ∧ kept ⊆ kept' ∧ Frame w [s] (w.after interp s) := by
  cases s with
  | perform op => exact sound.after_perform interp allowed
  | bring o writable =>
      rcases sound.after_bring interp o writable with ⟨sound', frame⟩
      exact ⟨kept, sound', le_refl kept, frame⟩
  | write q o =>
      rcases sound.after_write interp allowed o with ⟨sound', frame⟩
      exact ⟨kept, sound', le_refl kept, frame⟩

/-- Whatever a caller does and for how long, what it has stays apart from what is
    kept. -/
theorem run (sound : w.Sound kept) (allowed : w.AllowsAll interp steps) :
    ∃ kept', (w.run interp steps).Sound kept' ∧ kept ⊆ kept'
      ∧ Frame w steps (w.run interp steps) := by
  induction steps generalizing w kept with
  | nil => exact ⟨kept, sound, le_refl kept, .refl w⟩
  | cons s steps ih =>
      -- What is kept is not known in advance: each step determines it for the next one.
      rcases sound.after interp allowed.1 with ⟨kept₁, sound₁, le₁, frame₁⟩
      rcases ih sound₁ allowed.2 with ⟨kept₂, sound₂, le₂, frame₂⟩
      exact ⟨kept₂, sound₂, le₁.trans le₂, frame₁.trans frame₂⟩

/-! ### Templates that are not given defaults -/

theorem kept_same (sound : w.Sound kept) (frame : Frame w steps w') {q : Ref} (hq : q ∈ kept) :
    w'.store.get q = w.store.get q := by
  refine frame.unchanged (sound.guarded.index_lt hq) (fun held => sound.held q held hq) ?_
  exact fun owned => (sound.owned q owned).2.1 hq

theorem logger_same (sound : w.Sound kept) (frame : Frame w steps w') :
    w'.store.get globalLogger = w.store.get globalLogger := by
  refine frame.unchanged sound.logger_inside sound.logger_not_held ?_
  exact fun owned => (sound.owned _ owned).2.2.2 rfl

/-- A template changes only by being given defaults. -/
theorem held_same (sound : w.Sound kept) (frame : Frame w steps w') {r : Ref} (hr : r ∈ w.held)
    (spared : ∀ values, .perform (.setDefault r values) ∉ steps) :
    w'.store.get r = w.store.get r := by
  refine frame.get_eq r (sound.guarded.held r hr).index_lt
    (fun owned => (sound.owned r owned).2.2.1 hr) fun s hs changed => ?_
  cases s with
  | perform op =>
      cases op with
      | setDefault q values => exact spared values ((Set.mem_singleton_iff.mp changed) ▸ hs)
      | _ => exact Set.notMem_empty r changed
  | _ => exact Set.notMem_empty r changed

/-- All that a template leads to is as it was, if the template is not given any
    defaults. -/
theorem reached_same (sound : w.Sound kept) (frame : Frame w steps w') {r : Ref} (hr : r ∈ w.held)
    (spared : ∀ values, .perform (.setDefault r values) ∉ steps) {q : Ref}
    (reached : w.store.Reaches (.object r) q) : w'.store.get q = w.store.get q := by
  have logger : (w.store.get globalLogger).held = [] := by
    rcases sound.logger with ⟨level, label, there⟩
    rw [there]
    rfl
  -- Of what a template leads to, only the template itself could have been given
  -- defaults: the rest of the templates there are copies, which no caller holds.
  rcases sound.guarded.reaches (sound.guarded.held r hr) logger reached with rfl | rfl | hq
  · exact sound.held_same frame hr spared
  · exact sound.logger_same frame
  · exact sound.kept_same frame hq

end Sound

/-- A caller that has nothing yet has nothing that is kept. -/
theorem IsFresh.sound (fresh : w.IsFresh) : w.Sound ∅ := by
  have noneHeld : ∀ r, r ∉ w.held := fun r hr => List.not_mem_nil (fresh.held ▸ hr)
  have noneOwned : ∀ q, q ∉ w.owned := fun q hq => List.not_mem_nil (fresh.owned ▸ hq)
  refine ⟨⟨fun r hr => ?_, fun r hr => ?_⟩, fun r hr => ?_, fun q hq => ?_, fresh.logger⟩
  · exact absurd hr (noneHeld r)
  · exact absurd hr (Set.notMem_empty r)
  · exact absurd hr (noneHeld r)
  · exact absurd hq (noneOwned q)

/-! ### Isolation -/

/-- However many templates there are, and whatever is done with them and with the
    data that was passed: a template, and all that it leads to, stays the same as
    long as it is not given defaults itself. If what its serializers write is up to
    the content of values, then it also renders the same. -/
theorem changes_only_by_setDefault {start : World} {past future : List Step} {r : Ref}
    (fresh : start.IsFresh) (allowed : start.AllowsAll interp (past ++ future))
    (mem : r ∈ (start.run interp past).held)
    (spared : ∀ values, .perform (.setDefault r values) ∉ future) :
    let before := (start.run interp past).store
    let later := (start.run interp (past ++ future)).store
    let others := {q | q ∈ (start.run interp past).held ∨ q ∈ (start.run interp past).owned}
    (∃ t, before.template? r = some t ∧ later.template? r = some t)
      ∧ (∀ q, before.Reaches (.object r) q → later.get q = before.get q)
      ∧ ((∀ q t, before.Reaches (.object r) q → before.template? q = some t →
            t.WritesContent interp before others) →
          ∀ {values values' : Value} {supplied supplied' : List (String × Value)},
            Template.Offers before values supplied → Template.Offers later values' supplied' →
            (∀ e ∈ supplied, before.IsInput e.2) →
            List.Forall₂ (before.SameEntry later) supplied supplied' →
            (Template.render interp "template" r values').resultAt later
              = (Template.render interp "template" r values).resultAt before) := by
  intro before later others
  rcases allowsAll_append.mp allowed with ⟨early, late⟩
  rcases fresh.sound.run early with ⟨kept, sound, -, -⟩
  rcases sound.run late with ⟨kept', sound', le, frame⟩
  rw [← run_append] at sound' frame
  have keeps := sound.guarded.held r mem
  have here := sound.held_same frame mem spared
  refine ⟨?_, fun q reached => sound.reached_same frame mem spared reached, ?_⟩
  · rcases keeps with ⟨t, there, -⟩
    exact ⟨t, Store.template?_of_get there, Store.template?_of_get (here.trans there)⟩
  · intro writes values values' supplied supplied' offered offered' input supplies
    have unchanged : ∀ q, q.index < before.objects.size → q ∉ others →
        later.get q = before.get q := by
      intro q inside other
      exact frame.unchanged inside (fun held => other (.inl held)) fun owned => other (.inr owned)
    -- Serializers look at their argument, and at objects that nobody changes: those that
    -- the caller neither held nor owned.
    exact Template.render_unchanged sound.guarded sound'.guarded le frame.size_le unchanged
      (fun q hq => sound.kept_same frame hq) keeps here writes "template" offered offered' input
      supplies

section

/-- A caller that has nothing yet. -/
private def novice : World :=
  ⟨Store.initial, [], []⟩

/-- A template is made with a serializer of its own and given an array as a
    default. -/
private def preparing : List Step := [
  .bring (.ofBody (.function (.constant (.text "x")))) false,
  .bring (.plain [("serializer", .object ⟨2⟩)]) false,
  .perform (.create .prompt "$\x7ba\x7d" (.object ⟨3⟩)),
  .bring (.ofBody (.array [some (.text "old")])) true,
  .bring (.plain [("a", .object ⟨5⟩)]) true,
  .perform (.setDefault ⟨4⟩ (.object ⟨6⟩))]

/-- The array is written, and the template becomes a default of another one. -/
private def meddling : List Step := [
  .write ⟨5⟩ (.ofBody (.array [some (.text "new")])),
  .perform (.create .prompt "$\x7ba\x7d" .undefined),
  .bring (.plain [("a", .object ⟨4⟩)]) true,
  .perform (.setDefault ⟨9⟩ (.object ⟨10⟩))]

private theorem novice_allows :
    novice.AllowsAll .standard (preparing ++ meddling) := by
  refine ⟨trivial, trivial, trivial, trivial, trivial, ⟨by decide +kernel, ?_⟩, ?_, trivial,
    trivial, ⟨by decide +kernel, ?_⟩, trivial⟩
  · refine ⟨[("a", .object ⟨5⟩)], ⟨⟨6⟩, rfl, by decide +kernel, by decide +kernel⟩, fun e he => ?_⟩
    rw [List.mem_singleton.mp he]
    refine .inl (Store.isInput_of_leaf (by decide +kernel) ?_ (by decide +kernel))
    change ((novice.run .standard (preparing.take 5)).store.get ⟨5⟩).IsInput
    have there : (novice.run .standard (preparing.take 5)).store.get ⟨5⟩
        = .bare (.array [some (.text "old")]) {} := by decide +kernel
    rw [there]
    exact .array _ {}
  · exact (by decide +kernel : (⟨5⟩ : Ref) ∈ (novice.run .standard preparing).owned)
  · refine ⟨[("a", .object ⟨4⟩)], ⟨⟨10⟩, rfl, by decide +kernel, by decide +kernel⟩, fun e he => ?_⟩
    rw [List.mem_singleton.mp he]
    exact .inr ⟨⟨4⟩, by decide +kernel, rfl⟩

/-- The caller with the template. -/
private def prepared : World :=
  novice.run .standard preparing

/-- What the template leads to: itself, the global logger, and the copy of the
    array. -/
private theorem prepared_reaches {q : Ref}
    (reached : prepared.store.Reaches (.object ⟨4⟩) q) :
    q ∈ ([⟨4⟩, ⟨0⟩, ⟨7⟩] : List Ref) := by
  have closed : ∀ r ∈ ([⟨4⟩, ⟨0⟩, ⟨7⟩] : List Ref),
      ∀ q ∈ (prepared.store.get r).held,
        (prepared.store.get q).isFunction = false →
          q ∈ ([⟨4⟩, ⟨0⟩, ⟨7⟩] : List Ref) := by
    decide +kernel
  exact Store.reaches_of_closed (S := {q | q ∈ ([⟨4⟩, ⟨0⟩, ⟨7⟩] : List Ref)})
    (by decide +kernel) closed reached

/-- The serializer of the template gives the same text for all values. -/
private theorem prepared_writes {q : Ref} {t : Template} {free : Set Ref}
    (reached : prepared.store.Reaches (.object ⟨4⟩) q)
    (found : prepared.store.template? q = some t) (other : ⟨2⟩ ∉ free) :
    t.WritesContent .standard prepared.store free := by
  have made : ∀ r ∈ ([⟨4⟩, ⟨0⟩, ⟨7⟩] : List Ref),
      ∀ u ∈ prepared.store.template? r,
        u.variant = .prompt ∧ u.serializer = some ⟨2⟩ := by
    decide +kernel
  have there : (prepared.store.get ⟨2⟩).body
      = .function (.constant (.text "x")) := by decide +kernel
  rcases made q (prepared_reaches reached) t found with ⟨variant, serializer⟩
  have text : ∀ {st : Store} {v : Value} {key : String},
      st.get ⟨2⟩ = prepared.store.get ⟨2⟩ →
        (t.write .standard key v).resultAt st = .ok "x" := by
    intro st v key same
    rw [Template.resultAt_write_eq_ok_iff, Template.serialize, variant]
    change t.serializeBase .standard st v = _
    rw [Template.serializeBase, serializer]
    change st.call .standard ⟨2⟩ .undefined v = _
    rw [Store.call, same, there]
    rfl
  intro st' key v v' size_le same _ _
  rw [text (same ⟨2⟩ (by decide +kernel) other), text rfl]

/-- A caller that writes to an array that it set as a default, and that makes a
    template with the default a default of another one. -/
theorem changes_only_by_setDefault_of_array :
    let before := (novice.run .standard preparing).store
    let later := (novice.run .standard (preparing ++ meddling)).store
    novice.IsFresh ∧ novice.AllowsAll .standard (preparing ++ meddling)
      ∧ ⟨4⟩ ∈ (novice.run .standard preparing).held
      ∧ (∀ values, .perform (.setDefault ⟨4⟩ values) ∉ meddling)
      ∧ later.get ⟨5⟩ ≠ before.get ⟨5⟩ ∧ before.Reaches (.object ⟨4⟩) ⟨7⟩
      ∧ later.get ⟨7⟩ = before.get ⟨7⟩
      ∧ (Template.render .standard "template" ⟨4⟩ .undefined).resultAt later
        = (Template.render .standard "template" ⟨4⟩ .undefined).resultAt before := by
  intro before later
  have fresh : novice.IsFresh := ⟨rfl, rfl, _, _, rfl⟩
  have mem : ⟨4⟩ ∈ (novice.run .standard preparing).held := by decide +kernel
  have spared : ∀ values, .perform (.setDefault ⟨4⟩ values) ∉ meddling := by
    intro values mem
    simp [meddling] at mem
  have root : before.Reaches (.object ⟨4⟩) ⟨4⟩ := .root rfl (by decide +kernel)
  have copy : before.Reaches (.object ⟨4⟩) ⟨7⟩ :=
    .step root (by decide +kernel) (by decide +kernel)
  have other : ⟨2⟩ ∉ {q | q ∈ (novice.run .standard preparing).held
      ∨ q ∈ (novice.run .standard preparing).owned} := by
    change ¬ (_ ∨ _)
    decide +kernel
  rcases changes_only_by_setDefault fresh novice_allows mem spared with ⟨-, same, renders⟩
  refine ⟨fresh, novice_allows, mem, spared, by decide +kernel, copy, same _ copy, ?_⟩
  exact renders (fun q t reached found => prepared_writes reached found other)
    (.inr ⟨rfl, rfl⟩) (.inr ⟨rfl, rfl⟩) nofun .nil

end

end World

end Stencil
