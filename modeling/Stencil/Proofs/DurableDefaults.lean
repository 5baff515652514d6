import Stencil.Proofs.CarriedDefaults
import Stencil.Proofs.InnerTemplates
import Stencil.Proofs.Repeats

/-!
# Durable Defaults

Defaults that can be passed on any number of times.

What copying a value gives is up to the objects that it leads to, and some of them have
methods of their own that are called. For graphs of objects that have none it is known,
and so it is for templates in which such graphs are stored, at any depth. These values
are durable. Copying one succeeds, and the copy is durable again.

A copy of a template is another template, and it need not have the settings of the
first: what is derived from a template of some variants is of another one. As with
graphs, this happens the first time. So a copy of a copy is told from the original in
the same way as the copy is, and `Store.Echoes` holds of both. Two values that echo the
same one are twins. They agree in all that there is to a default except for addresses.

A template is given its defaults one after the other, and the copies of those that are
templates come later than it. That is why an echo keeps track of where its templates
are: it is not among them that something changes.

## Main definitions

* `Store.Durable`: Values that can be copied any number of times.
* `Store.Echoes`: What copying makes of a durable value.
* `Store.Twins`: Values that do not differ except for addresses.
* `Store.Passed`: A derived template with some of its defaults.

## Theorems

* `Store.Echoes.trans`, `Store.Echoes.twins`: Echoes of echoes, and of the same.
* `Store.Echoes.durable`: What echoes a value is durable.
* `Template.echoesAs_copy`: Copying a durable value.
-/

namespace Stencil

namespace Store

/-! ### Echoes -/

/-- A graph of objects that can be copied, or a template whose defaults are durable. -/
def Durable (st : Store) : Value → Prop :=
  Nested st.Clones st.Known

/-- A template in a later store, at an address that is not below a bound, is a copy of
    another one, apart from its defaults. -/
structure Echo (base : Store) (low : Nat) (st : Store) (r : Ref) (t : Template) (q : Ref)
    (u : Template) : Prop where
  known : base.Known r t
  there : st.get q = .ofBody (.template u)
  above : low ≤ q.index
  variant : u.variant = t.derivedVariant
  settings : u.settings = t.derivedSettings
  source : u.source = t.source

/-- A value in a later store is what copying makes of another one. -/
def Echoes (base : Store) (low : Nat) (st : Store) : Value → Value → Prop :=
  Paired (base.Repeats st) (base.Echo low st)

/-- Two templates are the same apart from their defaults. -/
structure Twin (st : Store) (r : Ref) (t : Template) (q : Ref) (u : Template) : Prop where
  left : st.inner? (.object r) = some t
  right : st.inner? (.object q) = some u
  variant : t.variant = u.variant
  settings : t.settings = u.settings
  source : t.source = u.source

/-- Two values are the same apart from addresses: graphs of the same content of which
    nothing gets lost, or templates whose defaults are twins. -/
def Twins (st : Store) : Value → Value → Prop :=
  Paired (fun v w => st.Lasts v ∧ st.Repeats st v w) st.Twin

variable {base st st' st'' : Store} {low low' : Nat} {r q p s : Ref} {t u u' : Template}
  {v w x : Value}

namespace Durable

theorem holds (durable : st.Durable v) : st.Holds v := by
  cases durable with
  | leaf clones => exact clones.holds
  | template known _ => exact holds_of_inner? known.inner

theorem later (durable : st.Durable v) (intact : st.Intact) (h : st.Extends st') :
    st'.Durable v :=
  Nested.imp durable (fun _ clones => clones.later h) fun _ _ known => known.later intact.closed h

end Durable

/-- A graph is no template. -/
theorem Clones.inner?_eq_none (clones : st.Clones v) (intact : st.Intact) : st.inner? v = none := by
  rw [inner?, clones.templateRef?_eq_none intact.untouched, Option.bind_none]

theorem Echo.isInner' (echo : base.Echo low st r t q u) : st.inner? (.object q) = some u :=
  inner?_of_get echo.there

/-- What is derived once has the settings that it would be derived with. -/
theorem Echo.derived (echo : base.Echo low st r t q u) :
    u.derivedVariant = t.derivedVariant ∧ u.derivedSettings = t.derivedSettings := by
  have variant := echo.variant
  have settings := echo.settings
  have name : u.name = t.derivedSettings.name := congrArg Settings.name settings
  cases kind : t.variant with
  | shouting =>
      simp only [Template.derivedVariant, Template.derivedSettings, kind] at variant settings name ⊢
      simp only [variant, name, and_self]
  | _ =>
      simp only [Template.derivedVariant, Template.derivedSettings, kind] at variant settings name ⊢
      simp only [variant, settings, and_self]

namespace Echoes

theorem holds (echoes : base.Echoes low st v w) : st.Holds w := by
  cases echoes with
  | leaf repeats => exact repeats.lasts.clones.holds
  | template echo _ _ => exact holds_of_inner? echo.isInner'

/-- What is undefined echoes nothing else. -/
theorem given (echoes : base.Echoes low st v w) (given : v ≠ .undefined) : w ≠ .undefined := by
  cases echoes with
  | leaf repeats =>
      rcases repeats with ⟨f, S, -, -, rfl⟩
      exact fun absent => given ((Value.rename_eq_iff rfl).mp absent)
  | template _ _ _ => nofun

/-- An echo remains one if the templates from the bound on stay the same, and all objects
    that can be copied. -/
theorem of_same (echoes : base.Echoes low st v w) (le : low' ≤ low) (grown : base.Extends st')
    (size_le : st.objects.size ≤ st'.objects.size)
    (same : ∀ r, r.index < st.objects.size → low ≤ r.index ∨ st.Clonable r →
      st'.get r = st.get r) : base.Echoes low' st' v w := by
  refine Paired.imp echoes (fun v w repeats => ?_) fun r t q u echo => ?_
  · exact repeats.of_same grown size_le fun r inside clonable => same r inside (.inr clonable)
  · have inside := index_lt_of_template? (template?_of_get echo.there)
    exact { echo with
      there := (same q inside (.inl echo.above)).trans echo.there
      above := Nat.le_trans le echo.above }

theorem later (echoes : base.Echoes low st v w) (le : low' ≤ low) (grown : base.Extends st)
    (h : st.Extends st') : base.Echoes low' st' v w :=
  echoes.of_same le (grown.trans h) h.size_le fun r inside _ => h.get_eq r inside

/-- An echo remains one while a template below the bound changes. -/
theorem extendsBut {next : Ref} (echoes : base.Echoes low st v w) (below : next.index < low)
    (grown : base.Extends st') (held : st.template? next = some t)
    (h : st.ExtendsBut next st') : base.Echoes low st' v w := by
  refine echoes.of_same (Nat.le_refl _) grown h.size_le fun r inside kept => h.get_eq r inside ?_
  rintro rfl
  rcases kept with above | clonable
  · omega
  · rw [clonable.template?] at held
    cases held

/-- What echoes a value is durable. -/
theorem durable (echoes : base.Echoes low st v w) : st.Durable w := by
  induction echoes with
  | leaf repeats => exact .leaf repeats.lasts.clones
  | @template r q t u echo keys values ih =>
      have length := congrArg List.length keys
      rw [List.length_map, List.length_map] at length
      have origin : ∀ d ∈ u.defaults, ∃ e ∈ t.defaults, (e, d) ∈ t.defaults.zip u.defaults := by
        intro d hd
        rw [← List.map_snd_zip (Nat.le_of_eq length.symm)] at hd
        rcases List.mem_map.mp hd with ⟨⟨e, d⟩, mem, rfl⟩
        exact ⟨e, (List.of_mem_zip mem).1, mem⟩
      refine .template ⟨echo.isInner', ⟨keys ▸ echo.known.orderly.distinct, fun d hd => ?_⟩⟩
        fun d hd => ?_
      · rcases origin d hd with ⟨e, he, mem⟩
        exact Echoes.given (values e d mem) (echo.known.orderly.given e he)
      · rcases origin d hd with ⟨e, -, mem⟩
        exact ih e d mem

/-- An echo of an echo. -/
theorem trans (first : base.Echoes low st v w) (second : st.Echoes low' st' w x)
    (intact : st.Intact) : base.Echoes low' st' v x := by
  refine Paired.trans first second (fun _ _ _ repeats repeats' => repeats.trans repeats') ?_ ?_ ?_
  · intro r t q u p s u' echo echo'
    have same : u' = u := Option.some.inj (echo'.known.inner.symm.trans echo.isInner')
    subst same
    exact ⟨rfl, { echo with
      there := echo'.there
      above := echo'.above
      variant := echo'.variant.trans echo.derived.1
      settings := echo'.settings.trans echo.derived.2
      source := echo'.source.trans echo.source }⟩
  · intro v q u p s repeats echo
    have none := repeats.lasts.clones.inner?_eq_none intact
    rw [echo.known.inner] at none
    cases none
  · intro r t q u x echo repeats
    have none := repeats.clones.inner?_eq_none intact
    rw [echo.isInner'] at none
    cases none

/-- Two echoes of a value are twins. -/
theorem twins (first : base.Echoes low st v w) (second : base.Echoes low' st v x)
    (intact : base.Intact) : st.Twins w x := by
  refine Paired.trans first.symm second ?_ ?_ ?_ ?_
  · exact fun _ _ _ repeats repeats' => ⟨repeats.lasts, repeats.of_common repeats'⟩
  · intro r t q u p s u' echo echo'
    have same : u' = u := Option.some.inj (echo'.known.inner.symm.trans echo.known.inner)
    subst same
    exact ⟨rfl, echo.isInner', echo'.isInner', echo.variant.trans echo'.variant.symm,
      echo.settings.trans echo'.settings.symm, echo.source.trans echo'.source.symm⟩
  · intro v q u p s repeats echo
    have none := repeats.clones.inner?_eq_none intact
    rw [echo.known.inner] at none
    cases none
  · intro r t q u x echo repeats
    have none := repeats.clones.inner?_eq_none intact
    rw [echo.known.inner] at none
    cases none

end Echoes

/-! ### Copies -/

/-- An entry and what copying makes of it under the same key. -/
structure EchoesEntry (base : Store) (low : Nat) (st : Store) (e d : String × Value) : Prop where
  key : e.1 = d.1
  value : base.Echoes low st e.2 d.2

/-- A template that was derived in one store has, in a later one, echoes of some entries
    of a first one as its defaults. -/
structure Passed (base start : Store) (u : Template) (entries : List (String × Value))
    (st : Store) : Prop where
  intact : start.Intact → st.Intact
  grown : start.Extends st
  held : ∃ defaults, st.get start.next = .ofBody (.template { u with defaults := defaults })
    ∧ List.Forall₂ (base.EchoesEntry (start.objects.size + 1) st) entries defaults

variable {start : Store} {entries : List (String × Value)} {key : String}

theorem keys_eq_of_echoes {copies : List (String × Value)}
    (echoes : List.Forall₂ (base.EchoesEntry low st) entries copies) :
    entries.map Prod.fst = copies.map Prod.fst :=
  keys_forall₂ (fun _ _ first => first.key) echoes

/-- A template that was derived is given nothing yet. -/
theorem passed_push (base : Store) {source : String} (held : start.template? r = some t)
    (derived : u.IsDerived t source) :
    Passed base start u [] (start.push (.ofBody (.template u))) where
  intact intact := intact.push (Template.inside_of_derived intact held derived)
  grown := extends_push _ _
  held := by
    refine ⟨[], ?_, .nil⟩
    rw [get_push_next, ← derived.defaults]

theorem Passed.inside (passed : Passed base start u entries st) :
    start.next.index < st.objects.size := by
  rcases passed.held with ⟨defaults, there, -⟩
  exact index_lt_of_template? (template?_of_get there)

/-- A template is given the copy of a value under a new key. -/
theorem Passed.put (passed : Passed base start u entries st) (after : base.Extends start)
    (intact : st.Intact → st'.Intact) (grown : st.Extends st')
    (echoes : base.Echoes (start.objects.size + 1) st' v w) (new : key ∉ entries.map Prod.fst) :
    Passed base start u (entries ++ [(key, v)]) (st'.putDefault start.next key w) := by
  rcases passed.held with ⟨defaults, there, before⟩
  have still := (grown.get_eq _ passed.inside).trans there
  have template := template?_of_get still
  have changed : st'.ExtendsBut start.next (st'.putDefault start.next key w) :=
    extendsBut_putDefault template
  have grown' := changed.after (passed.grown.trans grown) (Nat.le_refl _)
  have keeps : ∀ {x y : Value}, base.Echoes (start.objects.size + 1) st' x y →
      base.Echoes (start.objects.size + 1) (st'.putDefault start.next key w) x y :=
    fun echoes => echoes.extendsBut (Nat.lt_succ_self _) (after.trans grown') template changed
  refine ⟨fun h => (intact (passed.intact h)).putDefault template echoes.holds, grown',
    defaults ++ [(key, w)], ?_, ?_⟩
  · rw [get_putDefault_self template, still,
      setDefaultValue_new (keys_eq_of_echoes before ▸ new)]
    rfl
  · refine List.rel_append (before.imp fun e d first => ?_) (.cons ⟨rfl, keeps echoes⟩ .nil)
    exact ⟨first.key, keeps (first.value.later (Nat.le_refl _) (after.trans passed.grown) grown)⟩

end Store

namespace Template

open Store (Passed)

variable {interp : Interpretation} {base start st : Store} {t u : Template}
  {copyTemplate : Ref → Action Value} {entries done : List (String × Value)} {key : String}
  {v : Value}

/-- Copies of a value are echoes of it, in whatever store they are made. -/
def EchoesAs (interp : Interpretation) (copyTemplate : Ref → Action Value) (base : Store)
    (v : Value) : Prop :=
  ∀ ⦃st : Store⦄, base.Extends st →
    (copied interp copyTemplate v).Ensures False st fun w st' =>
      (st.Intact → st'.Intact) ∧ st.Extends st' ∧ base.Echoes st.objects.size st' v w

/-- Copies of graphs are echoes. -/
theorem echoesAs_graph (intact : base.Intact) (clones : base.Clones v) :
    EchoesAs interp copyTemplate base v := by
  intro st grown
  refine Action.ensures_bind_asking ?_
  -- What is no template in the store it belongs to is none later on.
  rw [grown.templateRef?_eq intact.closed clones.holds,
    clones.templateRef?_eq_none intact.untouched]
  rcases (clones.later grown).copy interp with ⟨st', w, gives, grown', repeats, keeps⟩
  refine Action.ensures_of_ok (Action.resultAt_reading_ok gives) ?_
  rw [Action.storeAfter_reading_ok gives]
  exact ⟨keeps, grown', .leaf (repeats.earlier grown clones)⟩

/-- Storing the copy of a value under a new key. -/
theorem ensures_storeOne_passed (copies : EchoesAs interp copyTemplate base v)
    (present : v ≠ .undefined) (after : base.Extends start)
    (passed : Passed base start u done st) (new : key ∉ done.map Prod.fst) :
    (storeOne interp copyTemplate start.next key v).Ensures False st fun _ st' =>
      Passed base start u (done ++ [(key, v)]) st' := by
  rcases passed.held with ⟨defaults, there, -⟩
  have isSealed := Store.isSealed_of_template? (Store.template?_of_get there)
  refine ensures_storeOne isSealed (fun absent => absurd absent present) fun _ => ?_
  refine Action.ensures_mono (copies (after.trans passed.grown)) ?_
  rintro w st' ⟨intact, grown, echoes⟩
  -- The copy was made after the template, so it lies above it.
  have above := echoes.later passed.inside ((after.trans passed.grown).trans grown) (.refl _)
  exact passed.put after intact grown above new

/-- Storing copies of values under distinct keys. -/
theorem ensures_storeAll_passed
    (copies : ∀ e ∈ entries, EchoesAs interp copyTemplate base e.2 ∧ e.2 ≠ .undefined)
    (after : base.Extends start) (distinct : (entries.map Prod.fst).Nodup)
    (passed : Passed base start u [] st) :
    (storeAll interp copyTemplate start.next entries).Ensures False st fun _ st' =>
      Passed base start u entries st' := by
  refine ensures_storeAll_of_step (Passed base start u) (fun before e rest st' split passed' => ?_)
    passed
  rcases copies e (split ▸ List.mem_append_right _ List.mem_cons_self) with ⟨copies', present⟩
  exact ensures_storeOne_passed copies' present after passed'
    (key_not_mem_of_nodup (split ▸ distinct))

theorem templateRef?_of_within {depth : Nat} {r : Ref}
    (nested : NestedWithin base.Clones base.Known depth r) :
    base.templateRef? (.object r) = some r := by
  cases depth with
  | zero => exact absurd nested not_false
  | succ depth =>
      rcases nested with ⟨t, known, -⟩
      exact Store.templateRef?_of_inner? known.inner

/-- Copying a template whose defaults are durable gives an echo of it. -/
theorem ensures_copyWithin_durable (intact : base.Intact) {depth : Nat} {r : Ref}
    (nested : NestedWithin base.Clones base.Known depth r) (grown : base.Extends st) :
    (copyWithin interp depth r).Ensures False st fun w st' =>
      (st.Intact → st'.Intact) ∧ st.Extends st'
        ∧ base.Echoes st.objects.size st' (.object r) w := by
  induction depth generalizing r st with
  | zero => exact absurd nested not_false
  | succ depth ih =>
      rcases nested with ⟨t, known, defaults⟩
      have there := grown.template? known.template?
      refine Action.ensures_bind_asking ?_
      rw [there]
      rcases derive_ok st t t.parses with ⟨u, derived, gives, added⟩
      refine Action.ensures_bind_ok gives ?_
      rw [added]
      have copies : ∀ e ∈ t.defaults,
          EchoesAs interp (copyWithin interp depth) base e.2 ∧ e.2 ≠ .undefined := by
        intro e he
        refine ⟨?_, known.orderly.given e he⟩
        rcases defaults e he with clones | ⟨q, same, inner⟩
        · exact echoesAs_graph intact clones
        · -- What is stored is still known as a template where the copies are made.
          have held := intact.closed.default known.template? he
          rw [same] at held ⊢
          intro st' grown'
          refine Action.ensures_bind_asking ?_
          rw [grown'.templateRef?_eq intact.closed held, templateRef?_of_within inner]
          exact ih inner grown'
      have fresh := Store.passed_push base there derived
      refine Action.ensures_bind (ensures_storeAll_passed copies grown known.orderly.distinct fresh)
        fun _ st' passed => ?_
      rcases passed.held with ⟨ds, made, echoes⟩
      refine ⟨passed.intact, passed.grown, ?_⟩
      refine .template ⟨known, made, Nat.le_refl _, derived.variant, derived.settings,
        derived.source_eq⟩ (Store.keys_eq_of_echoes echoes) fun e d mem => ?_
      have each := (List.forall₂_iff_zip.mp echoes).2 mem
      exact each.value.later (Nat.le_succ _) (grown.trans passed.grown) (.refl _)

/-- Copies of what is durable are echoes. -/
theorem echoesAs_copy (intact : base.Intact) (durable : base.Durable v) :
    EchoesAs interp (copy interp) base v := by
  rcases durable.within with clones | ⟨q, depth, rfl, inner⟩
  · exact echoesAs_graph intact clones
  · intro st grown
    refine Action.ensures_bind_asking ?_
    rw [grown.templateRef?_eq intact.closed durable.holds, templateRef?_of_within inner]
    refine Action.ensures_bind_asking ?_
    -- The allowance comes from the store of today, which is greater.
    refine ensures_copyWithin_durable intact (nestedWithin_bound inner fun q t known => ?_) grown
    exact Nat.lt_succ_of_lt (Nat.lt_of_lt_of_le (Store.index_lt_of_template? known.template?)
      grown.size_le)

end Template

end Stencil
