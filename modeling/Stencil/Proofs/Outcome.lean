import Stencil.Template.Action

/-!
# What Actions Come To

The result of an action at a store, and the store after it.

An outcome also holds the reports, and nothing ever depends on these. Taken
apart into its result and the store after it, an action is opened one step at
a time: the first step of a sequence either fails, and then so does the
sequence, or it gives a value and the rest runs in the store after it.

Many actions only look at the store. `Steady` says that an action which
succeeds has left the store as it is. A sequence of such actions is a
computation with errors at one store, which is what `resultAt_bind` states;
what a failing action does to the store makes no difference there.

## Main definitions

* `Action.resultAt`, `Action.storeAfter`: The two parts of an outcome.
* `Action.Steady`: Success leaves the store as it is.
* `Action.Ensures`: What holds after success, where nothing fails but what
  values bring along.

## Theorems

* `Action.resultAt_bind_ok`, `Action.resultAt_bind_error`: The result of a
  sequence, by what its first step comes to.
* `Action.storeAfter_bind_ok`, `Action.storeAfter_bind_error`: The store after
  a sequence.
* `Action.resultAt_bind`: The result of a sequence whose first step is steady.
* `Action.steady_bind`: A sequence of steady actions is steady.
* `Action.ensures_bind`: A sequence ensures what its last step does.
-/

namespace Stencil

/-- A computation that succeeds does so step by step. -/
theorem ok_of_bind {α β ε : Type} {x : Except ε α} {f : α → Except ε β} {b : β}
    (h : (x >>= f) = .ok b) : ∃ a, x = .ok a ∧ f a = .ok b := by
  cases x with
  | error e => cases h
  | ok a => exact ⟨a, rfl, h⟩

namespace Action

variable {α β : Type}

/-- What an action gives or raises at a store. -/
def resultAt (x : Action α) (st : Store) : Except Failure α :=
  (x.run st).result

/-- The store that an action leaves behind. -/
def storeAfter (x : Action α) (st : Store) : Store :=
  (x.run st).store

/-- If the action succeeds, the store is as it was. -/
def Steady (x : Action α) (st : Store) : Prop :=
  ∀ a, x.resultAt st = .ok a → x.storeAfter st = st

/-! ### Sequences -/

variable {x : Action α} {f : α → Action β} {st : Store} {a : α} {e : Failure}

theorem resultAt_bind_ok (h : x.resultAt st = .ok a) :
    (x >>= f).resultAt st = (f a).resultAt (x.storeAfter st) := by
  change (x.run st).result = .ok a at h
  simp only [resultAt, storeAfter, bind, andThen, h]

theorem storeAfter_bind_ok (h : x.resultAt st = .ok a) :
    (x >>= f).storeAfter st = (f a).storeAfter (x.storeAfter st) := by
  change (x.run st).result = .ok a at h
  simp only [storeAfter, bind, andThen, h]

theorem resultAt_bind_error (h : x.resultAt st = .error e) :
    (x >>= f).resultAt st = .error e := by
  change (x.run st).result = .error e at h
  simp only [resultAt, bind, andThen, h]

theorem storeAfter_bind_error (h : x.resultAt st = .error e) :
    (x >>= f).storeAfter st = x.storeAfter st := by
  change (x.run st).result = .error e at h
  simp only [storeAfter, bind, andThen, h]

/-- A steady action is a computation with errors, as far as results go. -/
theorem resultAt_bind (steady : x.Steady st) :
    (x >>= f).resultAt st = x.resultAt st >>= fun a => (f a).resultAt st := by
  cases h : x.resultAt st with
  | error e => rw [resultAt_bind_error h]; rfl
  | ok a => rw [resultAt_bind_ok h, steady a h]; rfl

theorem steady_bind (first : x.Steady st)
    (second : ∀ a, x.resultAt st = .ok a → (f a).Steady st) : (x >>= f).Steady st := by
  intro b h
  cases hx : x.resultAt st with
  | error e =>
      rw [resultAt_bind_error hx] at h
      cases h
  | ok a =>
      rw [resultAt_bind_ok hx, first a hx] at h
      rw [storeAfter_bind_ok hx, first a hx]
      exact second a hx b h

/-! ### Single steps -/

@[simp] theorem resultAt_pure : (pure a : Action α).resultAt st = .ok a := rfl

@[simp] theorem storeAfter_pure : (pure a : Action α).storeAfter st = st := rfl

@[simp] theorem resultAt_fail : (fail e : Action α).resultAt st = .error e := rfl

@[simp] theorem resultAt_asking {q : Store → α} : (asking q).resultAt st = .ok (q st) := rfl

@[simp] theorem storeAfter_asking {q : Store → α} : (asking q).storeAfter st = st := rfl

@[simp] theorem resultAt_changing {q : Store → Store} :
    (changing q).resultAt st = .ok () := rfl

@[simp] theorem storeAfter_changing {q : Store → Store} :
    (changing q).storeAfter st = q st := rfl

@[simp] theorem resultAt_adding {q : Store → Store × α} :
    (adding q).resultAt st = .ok (q st).2 := rfl

@[simp] theorem storeAfter_adding {q : Store → Store × α} :
    (adding q).storeAfter st = (q st).1 := rfl

@[simp] theorem resultAt_report {q : Store → Event} : (report q).resultAt st = .ok () := rfl

@[simp] theorem storeAfter_report {q : Store → Event} : (report q).storeAfter st = st := rfl

@[simp] theorem resultAt_attempt : x.attempt.resultAt st = .ok (x.resultAt st) := rfl

@[simp] theorem storeAfter_attempt : x.attempt.storeAfter st = x.storeAfter st := rfl

theorem storeAfter_checked {made : Except TemplateError α} : (checked made).storeAfter st = st := by
  cases made with
  | ok a => rfl
  | error e => rfl

theorem resultAt_looking {q : Store → Except Thrown α} :
    (looking q).resultAt st = (q st).mapError .thrown := by
  cases h : q st with
  | ok a =>
      simp only [resultAt, looking, h]
      rfl
  | error t =>
      simp only [resultAt, looking, h]
      rfl

theorem storeAfter_looking {q : Store → Except Thrown α} : (looking q).storeAfter st = st := by
  cases h : q st with
  | ok a => simp only [storeAfter, looking, h]
  | error t => simp only [storeAfter, looking, h]

theorem resultAt_reading_ok {q : Store → Except Thrown (Store × α)} {st' : Store}
    (h : q st = .ok (st', a)) : (reading q).resultAt st = .ok a := by
  simp only [resultAt, reading, h]

theorem storeAfter_reading_ok {q : Store → Except Thrown (Store × α)} {st' : Store}
    (h : q st = .ok (st', a)) : (reading q).storeAfter st = st' := by
  simp only [storeAfter, reading, h]

theorem resultAt_reading_error {q : Store → Except Thrown (Store × α)} {t : Thrown}
    (h : q st = .error t) : (reading q).resultAt st = .error (.thrown t) := by
  simp only [resultAt, reading, h]

theorem storeAfter_reading_error {q : Store → Except Thrown (Store × α)} {t : Thrown}
    (h : q st = .error t) : (reading q).storeAfter st = st := by
  simp only [storeAfter, reading, h]

/-! ### Sequences that begin with a single step -/

@[simp] theorem resultAt_bind_asking {q : Store → α} :
    (asking q >>= f).resultAt st = (f (q st)).resultAt st := rfl

@[simp] theorem storeAfter_bind_asking {q : Store → α} :
    (asking q >>= f).storeAfter st = (f (q st)).storeAfter st := rfl

@[simp] theorem resultAt_bind_adding {q : Store → Store × α} :
    (adding q >>= f).resultAt st = (f (q st).2).resultAt (q st).1 := rfl

@[simp] theorem storeAfter_bind_adding {q : Store → Store × α} :
    (adding q >>= f).storeAfter st = (f (q st).2).storeAfter (q st).1 := rfl

@[simp] theorem resultAt_bind_report {q : Store → Event} {g : Unit → Action β} :
    (report q >>= g).resultAt st = (g ()).resultAt st := rfl

@[simp] theorem storeAfter_bind_report {q : Store → Event} {g : Unit → Action β} :
    (report q >>= g).storeAfter st = (g ()).storeAfter st := rfl

theorem resultAt_bind_looking_ok {q : Store → Except Thrown α} (h : q st = .ok a) :
    (looking q >>= f).resultAt st = (f a).resultAt st := by
  rw [resultAt_bind_ok (a := a), storeAfter_looking]
  rw [resultAt_looking, h]
  rfl

/-- Looking changes nothing, and neither does what follows. -/
theorem storeAfter_bind_looking {q : Store → Except Thrown α}
    (rest : ∀ a, (f a).storeAfter st = st) : (looking q >>= f).storeAfter st = st := by
  cases h : (looking q).resultAt st with
  | error e => rw [storeAfter_bind_error h, storeAfter_looking]
  | ok a => rw [storeAfter_bind_ok h, storeAfter_looking, rest a]

theorem resultAt_bind_looking_error {q : Store → Except Thrown α} {t : Thrown}
    (h : q st = .error t) : (looking q >>= f).resultAt st = .error (.thrown t) := by
  refine resultAt_bind_error ?_
  rw [resultAt_looking, h]
  rfl

/-! ### Steady steps -/

theorem steady_of_storeAfter (h : x.storeAfter st = st) : x.Steady st :=
  fun _ _ => h

/-! ### Conditions -/

/-- If the action succeeds, then a condition holds of its value and of the store
    after it. It fails only if it may, and then with something that a value
    raised. -/
def Ensures (x : Action α) (mayRaise : Prop) (st : Store) (post : α → Store → Prop) : Prop :=
  match x.resultAt st with
  | .ok a => post a (x.storeAfter st)
  | .error f => mayRaise ∧ ∃ raised, f = .thrown raised

variable {mayRaise : Prop} {post : α → Store → Prop} {last : β → Store → Prop}

theorem ensures_of_ok (gives : x.resultAt st = .ok a) (holds : post a (x.storeAfter st)) :
    x.Ensures mayRaise st post := by
  rw [Ensures, gives]
  exact holds

/-- What must not fail gives a value. -/
theorem exists_of_ensures (h : x.Ensures False st post) :
    ∃ a, x.resultAt st = .ok a ∧ post a (x.storeAfter st) := by
  rw [Ensures] at h
  cases gives : x.resultAt st with
  | error e =>
      rw [gives] at h
      exact absurd h.1 not_false
  | ok a =>
      rw [gives] at h
      exact ⟨a, rfl, h⟩

theorem ensures_bind (first : x.Ensures mayRaise st post)
    (second : ∀ a st', post a st' → (f a).Ensures mayRaise st' last) :
    (x >>= f).Ensures mayRaise st last := by
  rw [Ensures] at first
  cases gives : x.resultAt st with
  | error e =>
      rw [gives] at first
      rw [Ensures, resultAt_bind_error gives]
      exact first
  | ok a =>
      rw [gives] at first
      rw [Ensures, resultAt_bind_ok gives, storeAfter_bind_ok gives]
      exact second a _ first

/-- A step whose outcome is known. -/
theorem ensures_bind_ok (gives : x.resultAt st = .ok a)
    (rest : (f a).Ensures mayRaise (x.storeAfter st) last) :
    (x >>= f).Ensures mayRaise st last := by
  rw [Ensures, resultAt_bind_ok gives, storeAfter_bind_ok gives]
  exact rest

theorem ensures_bind_asking {q : Store → α} (rest : (f (q st)).Ensures mayRaise st last) :
    (asking q >>= f).Ensures mayRaise st last :=
  rest

theorem ensures_mono {weaker : α → Store → Prop} (h : x.Ensures mayRaise st post)
    (imp : ∀ a st', post a st' → weaker a st') : x.Ensures mayRaise st weaker := by
  rw [Ensures] at h ⊢
  cases gives : x.resultAt st with
  | error e =>
      rw [gives] at h
      exact h
  | ok a =>
      rw [gives] at h
      exact imp a _ h

/-- What may raise something only raises it if it fails. -/
theorem ensures_restrict (h : x.Ensures True st post)
    (failing : ∀ e, x.resultAt st = .error e → mayRaise) : x.Ensures mayRaise st post := by
  rw [Ensures] at h ⊢
  cases gives : x.resultAt st with
  | error e =>
      rw [gives] at h
      exact ⟨failing e gives, h.2⟩
  | ok a =>
      rw [gives] at h
      exact h

/-- What a computation that extends the store ensures. -/
theorem ensures_reading {q : Store → Except Thrown (Store × α)}
    (holds : ∀ a st', q st = .ok (st', a) → post a st') : (reading q).Ensures True st post := by
  cases read : q st with
  | error raised =>
      rw [Ensures, resultAt_reading_error read]
      exact ⟨trivial, raised, rfl⟩
  | ok result =>
      rw [Ensures, resultAt_reading_ok read, storeAfter_reading_ok read]
      exact holds _ _ read

end Action

end Stencil
