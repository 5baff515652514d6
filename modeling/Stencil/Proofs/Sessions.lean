import Stencil.Proofs.Recursion
import Stencil.Proofs.Runs

/-!
# Sessions

What callers can do to templates and to all that they get out of them.

The map of the defaults of a template is a new one each time that it is read, but
what is in it are the defaults themselves. So a caller gets at the templates that
are stored, and can go on with these as with any other: give them defaults, pass
them to other templates or to the one that they were read from, and read on. It
can write to whatever else it finds there as well. Nothing is apart from anything
else then, and what is not given away is no invariant.

What stays in all of this is that the templates form a forest. The caller passes
templates that it has got, wherever from, and inert values. Each time a template
is stored it is copied, so it does not matter that the same one was passed twice,
or a template to itself.

Values that are not inert are left out, since they break this: an object around a
text can have a method `valueOf` that gives a template, and that takes the place
of a copy.

## Main definitions

* `Move`: What a caller does: an operation, reading defaults, or something with
  objects.
* `Session`, `Session.after`, `Session.run`: A store with the templates that a
  caller has got, and runs.
* `Session.AllowsAll`: A run passes inert values and templates only.
* `Session.Has`: The templates that there are.
* `Session.Sound`: The templates form a forest.

## Theorems

* `Session.Sound.after`, `Session.Sound.run`: Steps, and runs.
* `Session.templates_nest`: No template contains itself, none is stored twice, and
  rendering and copying come to an end.
-/

namespace Stencil

open Store (globalLogger Evolves Forest)

/-- What a caller does: an operation on templates, or something with the objects that
    it has brought along or found. -/
inductive Move where
  | perform (op : Operation)
  /-- The map of the defaults of a template is read. -/
  | read (r : Ref)
  | bring (o : Object)
  | write (q : Ref) (o : Object)

/-- The templates in a map. -/
def Store.templatesIn (st : Store) (v : Value) : List Ref :=
  match v with
  | .object m =>
    match (st.get m).body with
    | .map entries => entries.filterMap fun e => st.templateRef? e.2
    | _ => []
  | _ => []

/-- What is done in a move. It gives the templates that the caller gets. -/
def Move.run (interp : Interpretation) : Move → Action (List Ref)
  | perform op => op.run interp
  | read r => do
    let defaults ← Exposed.part interp (.object r) "defaults"
    Action.asking fun st => st.templatesIn defaults
  | bring o => do
    Action.changing fun st => st.push o
    return []
  | write q o => do
    Action.changing fun st => st.write q o
    return []

/-- What changes in a move: the template that is given defaults, or the object that
    is written. -/
def Move.changes : Move → Set Ref
  | perform op => op.changes
  | write q _ => {q}
  | _ => ∅

/-- An object can be given other contents. It stays of the kind that it is, and is
    neither a template, of which only the defaults can change, nor a wrapped value,
    which cannot change at all. -/
structure Store.CanWrite (st : Store) (q : Ref) (o : Object) : Prop where
  prototype_eq : o.prototype = (st.get q).prototype
  isFunction_eq : o.isFunction = (st.get q).isFunction
  function : (st.get q).isFunction = true → o.body = (st.get q).body
  noTemplate : ∀ t, (st.get q).body ≠ .template t
  notBoxed : ∀ v, (st.get q).body ≠ .boxed v
  notLogger : q ≠ globalLogger

/-- A store with the templates that a caller has got. -/
structure Session where
  store : Store
  known : List Ref

namespace Session

section

variable (interp : Interpretation)

/-- What a move leads to, whether or not it succeeds. -/
def after (w : Session) (m : Move) : Session where
  store := (m.run interp).storeAfter w.store
  known := w.known ++ ((m.run interp).resultAt w.store).toOption.getD []

/-- What moves lead to, one after the other. -/
def run (w : Session) (moves : List Move) : Session :=
  moves.foldl (after interp) w

/-- Values that a caller passes: inert ones, and templates that it has got. -/
def Admits (w : Session) (v : Value) : Prop :=
  w.store.Inert interp v ∨ ∃ r ∈ w.known, v = .object r

/-- Objects of such values that a caller passes. -/
def Supplies (w : Session) (values : Value) : Prop :=
  ∃ supplied, w.store.Supplies values supplied ∧ ∀ e ∈ supplied, w.Admits interp e.2

/-- The operations that a caller can ask for: those on templates that it has got. -/
def Offers (w : Session) : Operation → Prop
  | .create _ _ _ => True
  | .setDefault r values | .substitute r values => r ∈ w.known ∧ w.Supplies interp values
  | .render r values | .safeRender r values =>
    r ∈ w.known ∧ (w.Supplies interp values ∨ values = .undefined)
  | .equals r v => r ∈ w.known ∧ w.Admits interp v

/-- The moves that a caller can make. -/
def Allows (w : Session) : Move → Prop
  | .perform op => w.Offers interp op
  | .read r => r ∈ w.known
  | .bring _ => True
  | .write q o => w.store.CanWrite q o

/-- The runs that a caller can make. -/
def AllowsAll : Session → List Move → Prop
  | _, [] => True
  | w, m :: moves => w.Allows interp m ∧ AllowsAll (w.after interp m) moves

end

/-- Nobody has got any template yet, and the global logger works as loggers do. -/
structure IsFresh (w : Session) : Prop where
  known : w.known = []
  logger : ∃ level label,
    w.store.get globalLogger = Object.logger (.text level) (.text label) .undefined

/-- The templates that there are: those that the caller has got, and those that are
    stored in one of them. -/
inductive Has (w : Session) : Ref → Prop
  | known {r : Ref} (mem : r ∈ w.known) : Has w r
  | stored {r x : Ref} {key : String} (above : Has w r) (stores : w.store.Stores r key x) :
      Has w x

/-- What the caller has got belongs to a forest. -/
structure Sound (interp : Interpretation) (w : Session) (W : Set Ref) : Prop where
  forest : w.store.Forest interp W
  known : ∀ r ∈ w.known, r ∈ W
  logger : ∃ level label,
    w.store.get globalLogger = Object.logger (.text level) (.text label) .undefined

/-- What changes during a run. -/
def changes (moves : List Move) : Set Ref :=
  {q | ∃ m ∈ moves, q ∈ m.changes}

variable {interp : Interpretation} {w : Session} {W : Set Ref} {op : Operation} {m : Move}
  {moves moves' : List Move}

theorem run_append :
    w.run interp (moves ++ moves') = (w.run interp moves).run interp moves' :=
  List.foldl_append

theorem allowsAll_append : w.AllowsAll interp (moves ++ moves')
    ↔ w.AllowsAll interp moves ∧ (w.run interp moves).AllowsAll interp moves' := by
  induction moves generalizing w with
  | nil => exact ⟨fun h => ⟨trivial, h⟩, fun h => h.2⟩
  | cons m moves ih => exact (and_congr_right fun _ => ih).trans and_assoc.symm

end Session

/-! ### Reading and writing -/

namespace Store

variable {interp : Interpretation} {st : Store} {W : Set Ref} {r q : Ref} {t : Template}
  {o : Object}

/-- The defaults of a template are read as a new map. -/
theorem member_defaults (interp : Interpretation) (there : st.get r = .ofBody (.template t)) :
    st.member interp (.object r) "defaults"
      = .ok (st.push (.ofBody (.map (t.defaults.map fun e => (.text e.1, e.2)))),
        .object st.next) := by
  have found : st.find? r (.text "defaults")
      = some (.native (.part .defaults) (.family (.template .prompt))) := by
    rw [find?, findWithin, there]
    change Family.find? (.template t.variant) (.text "defaults") = _
    cases t.variant <;> rfl
  change st.read interp r (.text "defaults") = _
  rw [read, readWithin, found]
  change st.defaultsPart _ r = _
  rw [defaultsPart, there]
  rfl

/-- An object was written. -/
theorem Later.write (can : st.CanWrite q o) : st.Later (st.write q o) := by
  have others : ∀ r, r ≠ q → (st.write q o).get r = st.get r := fun r apart => get_write_ne apart
  refine ⟨Nat.le_of_eq size_write.symm, fun r inside => ?_, fun r inside => ?_,
    fun r callable => ?_, fun r v body => ?_, fun r t there => ?_⟩
  · by_cases same : r = q
    · rw [same, get_write_self (same ▸ inside), can.prototype_eq]
    · rw [others r same]
  · by_cases same : r = q
    · rw [same, get_write_self (same ▸ inside), can.isFunction_eq]
    · rw [others r same]
  · by_cases same : r = q
    · subst same
      rw [get_write_self (index_lt_of_isFunction callable), can.function callable]
    · rw [others r same]
  · exact others r fun same => can.notBoxed v (same ▸ body)
  · refine ⟨t.defaults, (others r fun same => can.noTemplate t ?_).trans there⟩
    rw [← same, there]
    rfl

/-- The contents of an array or a collection can be replaced by others of the kind. -/
theorem canWrite_ofBody {b b' : Body} (there : st.get q = .ofBody b)
    (family : b'.family = b.family) (object : (Object.ofBody b).isFunction = false)
    (object' : (Object.ofBody b').isFunction = false) (noTemplate : ∀ t, b ≠ .template t)
    (notBoxed : ∀ v, b ≠ .boxed v) (notLogger : q ≠ globalLogger) :
    st.CanWrite q (.ofBody b') := by
  refine ⟨?_, ?_, ?_, ?_, ?_, notLogger⟩
  all_goals rw [there]
  · exact congrArg Prototype.family family
  · rw [object, object']
  · rw [object]
    exact nofun
  · exact noTemplate
  · exact notBoxed

/-- Writing an object that is no template changes nothing about a forest. -/
theorem Forest.write (forest : st.Forest interp W) (can : st.CanWrite q o) :
    Evolves 0 {q} st W (st.write q o) W ∧ (st.write q o).Forest interp W := by
  have later := Later.write can
  have apart : ∀ r ∈ W, r ≠ q := by
    rintro r hr rfl
    rcases forest.template r hr with ⟨t, there, -⟩
    exact can.noTemplate t (by rw [there]; rfl)
  rcases forest.after later fun r hr => get_write_ne (apart r hr) with ⟨forest', stored⟩
  refine ⟨⟨later, fun r _ other => get_write_ne other, le_refl W, fun r hr => .inl hr, ?_⟩, forest'⟩
  exact fun r hr key x h => .inl ⟨hr, stored r hr h⟩

/-- The templates that are read out of the defaults of one that belongs to a forest
    belong to it. -/
theorem Forest.templatesIn (forest : st.Forest interp W) (hr : r ∈ W)
    (there : st.get r = .ofBody (.template t)) :
    let read := st.push (.ofBody (.map (t.defaults.map fun e => (.text e.1, e.2))))
    ∀ x ∈ read.templatesIn (.object st.next), x ∈ W := by
  intro read x mem
  have grown : st.Extends read := extends_push st _
  have entries : read.templatesIn (.object st.next)
      = (t.defaults.map fun e => (Value.text e.1, e.2)).filterMap
        fun e => read.templateRef? e.2 := by
    rw [Store.templatesIn, get_push_next]
    rfl
  rw [entries] at mem
  rcases List.mem_filterMap.mp mem with ⟨d, hd, found⟩
  rcases List.mem_map.mp hd with ⟨e, he, rfl⟩
  have accepts := forest.accepts hr (template?_of_get there) he
  have evolves : Evolves 0 ∅ st W read W := (forest.extends grown).1
  exact (evolves.accepts accepts).leadsTo (forest.of_extends grown) x found

end Store

namespace Session

variable {interp : Interpretation} {w : Session} {W : Set Ref} {op : Operation} {m : Move}
  {moves : List Move}

/-! ### Moves -/

namespace Sound

theorem logger_inside (sound : w.Sound interp W) :
    globalLogger.index < w.store.objects.size := by
  rcases sound.logger with ⟨level, label, there⟩
  exact Exposed.index_lt_of_logger there

/-- The global logger is no template. -/
theorem logger_apart (sound : w.Sound interp W) : globalLogger ∉ W := by
  intro mem
  rcases sound.forest.template _ mem with ⟨t, template, -⟩
  rcases sound.logger with ⟨level, label, there⟩
  rw [there] at template
  cases template

theorem accepts (sound : w.Sound interp W) {v : Value} (admits : w.Admits interp v) :
    w.store.Accepts interp W v :=
  admits.imp id fun ⟨r, hr, same⟩ => ⟨r, sound.known r hr, same⟩

section

variable {α : Type} {st : Store} {since : Nat} {off : Set Ref}

/-- The templates that a caller gets belong to the forest. -/
def GetsAll (refs : List Ref) (_ : Store) (W : Set Ref) : Prop :=
  ∀ q ∈ refs, q ∈ W

/-- Something of which the caller gets no result. -/
theorem keepsForest_none {x : Action α}
    (h : x.KeepsForest interp since off st W fun _ _ _ => True) :
    (x >>= fun _ => (pure [] : Action (List Ref))).KeepsForest interp 0 off st W GetsAll := by
  refine Action.maintains_bind Evolves.trans
    (Action.keepsForest_weaken h (Nat.zero_le _) (le_refl off)) fun _ st' W' _ forest' _ => ?_
  exact Action.keepsForest_pure forest' nofun

/-- Something that adds objects of which the caller gets none. -/
theorem keepsForest_none_of_extends {x : Action α} (forest : st.Forest interp W)
    (h : st.Extends (x.storeAfter st)) :
    (x >>= fun _ => (pure [] : Action (List Ref))).KeepsForest interp 0 off st W GetsAll := by
  have adds : x.KeepsForest interp 0 off st W fun _ _ _ => True :=
    Action.keepsForest_of_extends forest h fun _ _ => trivial
  exact keepsForest_none adds

/-- Something that gives a template. -/
theorem keepsForest_one {x : Action Value}
    (h : x.KeepsForest interp since ∅ st W fun v _ W' => ∃ q ∈ W', v = .object q) :
    (x >>= fun v => (pure v.refs : Action (List Ref))).KeepsForest interp 0 ∅ st W GetsAll := by
  refine Action.maintains_bind Evolves.trans
    (Action.keepsForest_weaken h (Nat.zero_le _) (le_refl ∅)) fun v st' W' _ forest' given => ?_
  rcases given with ⟨q, hq, rfl⟩
  refine Action.keepsForest_pure forest' fun p hp => ?_
  rw [List.mem_singleton.mp hp]
  exact hq

end

/-- An operation leaves a forest, whether or not it succeeds. -/
theorem keepsForest_operation (sound : w.Sound interp W) (offered : w.Offers interp op) :
    (op.run interp).KeepsForest interp 0 op.changes w.store W GetsAll := by
  have forest := sound.forest
  -- Leaving the values out offers an empty list of them.
  have gives : ∀ {values : Value}, w.Supplies interp values ∨ values = .undefined →
      ∃ supplied, Template.Offers w.store values supplied
        ∧ ∀ e ∈ supplied, w.store.Accepts interp W e.2 := by
    rintro values (⟨supplied, supplies, admits⟩ | nothing)
    · exact ⟨supplied, .inl supplies, fun e he => sound.accepts (admits e he)⟩
    · exact ⟨[], .inr ⟨nothing, rfl⟩, nofun⟩
  cases op with
  | create variant source options =>
      rcases sound.logger with ⟨level, label, there⟩
      exact keepsForest_one (Exposed.keepsForest_create interp variant source options forest
        sound.logger_inside (Exposed.isOrderly_of_logger there))
  | setDefault r values =>
      rcases offered with ⟨hr, supplied, supplies, admits⟩
      exact keepsForest_none (Template.keepsForest_setDefault interp _ forest (sound.known r hr)
        supplies fun e he => sound.accepts (admits e he))
  | substitute r values =>
      rcases offered with ⟨hr, supplied, supplies, admits⟩
      exact keepsForest_one (Template.keepsForest_substitute interp _ forest (sound.known r hr)
        supplies fun e he => sound.accepts (admits e he))
  | render r values =>
      rcases offered with ⟨hr, given⟩
      rcases gives given with ⟨supplied, offered, accepts⟩
      exact keepsForest_none_of_extends forest
        (Template.extends_render interp _ forest (sound.known r hr) offered accepts)
  | safeRender r values =>
      rcases offered with ⟨hr, given⟩
      rcases gives given with ⟨supplied, offered, accepts⟩
      exact keepsForest_none_of_extends forest
        (Template.extends_safeRender interp _ forest (sound.known r hr) offered accepts)
  | equals r v =>
      rcases offered with ⟨hr, admits⟩
      rcases forest.template? (sound.known r hr) with ⟨t, held⟩
      refine keepsForest_none_of_extends forest ?_
      rw [Template.storeAfter_askEquals _ held ((sound.accepts admits).leadsTo_template forest)]
      exact .refl w.store

/-- A move leaves a forest. -/
theorem keepsForest_run (sound : w.Sound interp W) (allowed : w.Allows interp m) :
    (m.run interp).KeepsForest interp 0 m.changes w.store W GetsAll := by
  have forest := sound.forest
  cases m with
  | perform op => exact sound.keepsForest_operation allowed
  | read r =>
      rcases forest.template r (sound.known r allowed) with ⟨t, there, -⟩
      have read := Store.member_defaults interp there
      have reads : (Exposed.part interp (.object r) "defaults").KeepsForest interp 0 ∅ w.store W
          fun v st _ => ∀ x ∈ st.templatesIn v, x ∈ W := by
        refine Action.keepsForest_of_extends forest ?_ fun v given => ?_
        · rw [Exposed.part, Action.storeAfter_reading_ok read]
          exact Store.extends_push w.store _
        · rw [Exposed.part, Action.resultAt_reading_ok read, Except.ok.injEq] at given
          rw [Exposed.part, Action.storeAfter_reading_ok read, ← given]
          exact forest.templatesIn (sound.known r allowed) there
      refine Action.maintains_bind Evolves.trans reads fun v st' W' evolves forest' among => ?_
      refine Action.keepsForest_of_extends forest' (.refl st') fun refs given => ?_
      cases given
      exact fun x hx => evolves.le (among x hx)
  | bring o =>
      exact keepsForest_none_of_extends forest (Store.extends_push w.store o)
  | write q o =>
      rcases forest.write allowed with ⟨evolves, forest'⟩
      exact keepsForest_none ⟨W, evolves, forest', fun _ _ => trivial⟩

/-- Whatever a caller does, the templates form a forest afterwards. -/
theorem after (sound : w.Sound interp W) (allowed : w.Allows interp m) :
    ∃ W', (w.after interp m).Sound interp W'
      ∧ Evolves 0 m.changes w.store W (w.after interp m).store W' := by
  rcases sound.keepsForest_run allowed with ⟨W', evolves, forest, gets⟩
  have apart : globalLogger ∉ m.changes := by
    cases m with
    | perform op =>
        cases op with
        | setDefault r values =>
            exact fun same => sound.logger_apart (same ▸ sound.known r allowed.1)
        | _ => exact Set.notMem_empty _
    | write q o => exact allowed.notLogger.symm
    | _ => exact Set.notMem_empty _
  refine ⟨W', ⟨forest, fun r hr => ?_, ?_⟩, evolves⟩
  · rcases List.mem_append.mp hr with before | new
    · exact evolves.le (sound.known r before)
    · -- A move that fails gives no templates.
      cases result : (m.run interp).resultAt w.store with
      | error e =>
          rw [result] at new
          cases new
      | ok refs =>
          rw [result] at new
          exact gets refs result r new
  · exact (evolves.get_eq _ sound.logger_inside apart) ▸ sound.logger

/-- Whatever a caller does and for how long, the templates form a forest. -/
theorem run (sound : w.Sound interp W) (allowed : w.AllowsAll interp moves) :
    ∃ W', (w.run interp moves).Sound interp W'
      ∧ Evolves 0 (changes moves) w.store W (w.run interp moves).store W' := by
  induction moves generalizing w W with
  | nil => exact ⟨W, sound, (sound.forest.extends (.refl w.store)).1⟩
  | cons m moves ih =>
      -- The forest of each move is the one that the next move starts from.
      rcases sound.after allowed.1 with ⟨W₁, sound₁, first⟩
      rcases ih sound₁ allowed.2 with ⟨W₂, sound₂, rest⟩
      refine ⟨W₂, sound₂, (first.mono (Nat.le_refl 0) ?_).trans (rest.mono (Nat.le_refl 0) ?_)⟩
      · exact fun q hq => ⟨m, List.mem_cons_self, hq⟩
      · exact fun q ⟨m', mem, hq⟩ => ⟨m', List.mem_cons_of_mem _ mem, hq⟩

/-- All templates that there are belong to the forest. -/
theorem mem_of_has (sound : w.Sound interp W) {r : Ref} (has : w.Has r) : r ∈ W := by
  induction has with
  | known mem => exact sound.known _ mem
  | stored _ stores ih => exact (sound.forest.stores ih stores).1

/-- The templates that there are form a forest. -/
theorem forest_has (sound : w.Sound interp W) : w.store.Forest interp {r | w.Has r} := by
  refine ⟨fun r hr => ?_, fun r hr r' hr' _ _ _ first second => ?_⟩
  · rcases sound.forest.template r (sound.mem_of_has hr) with ⟨t, there, defaults⟩
    refine ⟨t, there, fun e he => (defaults e he).imp id ?_⟩
    rintro ⟨x, hx, same, above⟩
    have stores : w.store.Stores r e.1 x :=
      ⟨t, Store.template?_of_get there, same ▸ he, sound.forest.templateRef? hx⟩
    exact ⟨x, hr.stored stores, same, above⟩
  · exact sound.forest.unique r (sound.mem_of_has hr) r' (sound.mem_of_has hr') first second

end Sound

/-- Nothing is a forest. -/
theorem IsFresh.sound (fresh : w.IsFresh) : w.Sound interp ∅ := by
  refine ⟨⟨nofun, nofun⟩, fun r hr => ?_, fresh.logger⟩
  rw [fresh.known] at hr
  cases hr

/-! ### Nesting -/

/-- However templates are given to one another as defaults, be it to themselves or
    after they were read out of a template: none contains itself, and each that is
    stored is stored under one key of one template. So rendering and copying a template
    come down to rendering and copying those that are stored in it: there is only one
    way to satisfy the equation that says so. -/
theorem templates_nest {start : Session} (fresh : start.IsFresh)
    (allowed : start.AllowsAll interp moves) :
    let w := start.run interp moves
    (∀ r, w.Has r → ¬ Relation.TransGen (fun q x => ∃ key, w.store.Stores q key x) r r)
      ∧ (∀ {q r x : Ref} {key key' : String}, w.Has q → w.Has r → w.store.Stores q key x →
          w.store.Stores r key' x → q = r ∧ key = key')
      ∧ WellFounded (fun x r => w.Has r ∧ ∃ key, w.store.Stores r key x)
      ∧ (∃ text, Template.RendersBy interp w.store {r | w.Has r} text ∧ ∀ r, w.Has r →
          (Template.render interp "template" r .undefined).resultAt w.store
            = (text r).map Value.text)
      ∧ (∀ {text : Ref → Except Failure String},
          Template.RendersBy interp w.store {r | w.Has r} text →
          ∀ {r : Ref} {t : Template} {values : Value} {supplied : List (String × Value)},
            w.Has r → w.store.template? r = some t →
            Template.Offers w.store values supplied →
            (∀ e ∈ supplied, w.store.Accepts interp {r | w.Has r} e.2) →
            (Template.render interp "template" r values).resultAt w.store
              = (t.filled (t.converted interp w.store text) supplied).map Value.text)
      ∧ (∀ {r : Ref} {t : Template}, w.Has r → w.store.template? r = some t →
          (Template.copy interp r).run w.store
            = (Template.copyBy interp (Template.copy interp) t).run w.store)
      ∧ ∀ {copyTemplate : Ref → Action Value}, Template.CopiesBy interp copyTemplate →
          ∀ {r : Ref}, w.Has r →
            (copyTemplate r).run w.store = (Template.copy interp r).run w.store := by
  intro w
  rcases fresh.sound.run allowed with ⟨W, sound, -⟩
  have forest : w.store.Forest interp {r | w.Has r} := sound.forest_has
  refine ⟨fun r hr => forest.acyclic hr, fun hq hr => forest.unique _ hq _ hr, forest.wellFounded,
    ⟨_, Template.rendersBy_rendered interp w.store _, fun r hr => ?_⟩,
    fun renders _ _ _ _ hr held offered accepts => ?_, fun hr held => ?_, fun copies _ hr => ?_⟩
  · exact Template.render_alone forest "template" hr
  · exact Template.render_of_rendersBy forest renders "template" hr held offered accepts
  · exact Template.copiesBy_copy interp forest hr held
  · exact Template.run_copy_eq copies forest hr

section

/-- Nobody has got any template yet. -/
private def outset : Session :=
  ⟨Store.initial, []⟩

/-- A template is given itself as a default, and the copy that is read out of it is
    given the template as a default in turn. -/
private def entangling : List Move := [
  .perform (.create .prompt "$\x7ba\x7d" .undefined),
  .bring (.plain [("a", .object ⟨3⟩)]),
  .perform (.setDefault ⟨3⟩ (.object ⟨4⟩)),
  .read ⟨3⟩,
  .perform (.setDefault ⟨5⟩ (.object ⟨4⟩))]

private theorem outset_allows : outset.AllowsAll .standard entangling := by
  refine ⟨trivial, trivial, ⟨by decide +kernel, ?_⟩, ?_, ⟨by decide +kernel, ?_⟩, trivial⟩
  · refine ⟨[("a", .object ⟨3⟩)], ⟨⟨4⟩, rfl, by decide +kernel, by decide +kernel⟩, fun e he => ?_⟩
    rw [List.mem_singleton.mp he]
    exact .inr ⟨⟨3⟩, by decide +kernel, rfl⟩
  · exact (by decide +kernel : (⟨3⟩ : Ref) ∈ (outset.run .standard (entangling.take 3)).known)
  · refine ⟨[("a", .object ⟨3⟩)], ⟨⟨4⟩, rfl, by decide +kernel, by decide +kernel⟩, fun e he => ?_⟩
    rw [List.mem_singleton.mp he]
    exact .inr ⟨⟨3⟩, by decide +kernel, rfl⟩

/-- A template that is stored in itself, and in the copy that this led to. -/
theorem templates_nest_of_knot :
    let w := outset.run .standard entangling
    outset.IsFresh ∧ outset.AllowsAll .standard entangling
      ∧ w.Has ⟨3⟩ ∧ w.Has ⟨8⟩ ∧ w.store.Stores ⟨3⟩ "a" ⟨5⟩ ∧ w.store.Stores ⟨5⟩ "a" ⟨7⟩
      ∧ w.store.Stores ⟨7⟩ "a" ⟨8⟩
      ∧ ¬ Relation.TransGen (fun q x => ∃ key, w.store.Stores q key x) ⟨3⟩ ⟨3⟩
      ∧ (∀ q key, w.Has q → w.store.Stores q key ⟨8⟩ → ⟨7⟩ = q ∧ "a" = key)
      ∧ WellFounded (fun x r => w.Has r ∧ ∃ key, w.store.Stores r key x)
      ∧ ∃ t, w.store.template? ⟨3⟩ = some t
        ∧ (Template.render .standard "template" ⟨3⟩ .undefined).resultAt w.store
          = (t.filled (t.converted .standard w.store fun r =>
              Template.rendered .standard w.store w.store.objects.size r []) []).map Value.text
        ∧ (Template.copy .standard ⟨3⟩).run w.store
          = (Template.copyBy .standard (Template.copy .standard) t).run w.store := by
  intro w
  have fresh : outset.IsFresh := ⟨rfl, _, _, rfl⟩
  have first : w.store.Stores ⟨3⟩ "a" ⟨5⟩ := by decide +kernel
  have second : w.store.Stores ⟨5⟩ "a" ⟨7⟩ := by decide +kernel
  have third : w.store.Stores ⟨7⟩ "a" ⟨8⟩ := by decide +kernel
  have has : w.Has ⟨3⟩ := .known (by decide +kernel)
  have above : w.Has ⟨7⟩ := (has.stored first).stored second
  rcases templates_nest fresh outset_allows with
    ⟨acyclic, unique, wellFounded, -, renders, copies, -⟩
  refine ⟨fresh, outset_allows, has, above.stored third, first, second, third, acyclic _ has,
    fun q key hq stores => unique above hq third stores, wellFounded, ?_⟩
  rcases first with ⟨t, held, -⟩
  refine ⟨t, held, ?_, copies has held⟩
  exact renders (Template.rendersBy_rendered .standard w.store _) has held (.inr ⟨rfl, rfl⟩) nofun

end

end Session

end Stencil
