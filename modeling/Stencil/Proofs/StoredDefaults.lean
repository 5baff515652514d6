import Stencil.Proofs.Mirrors
import Stencil.Proofs.Substitution

/-!
# Storing Templates Among Defaults

Copying what is stored as a default succeeds, also where templates are stored in
templates.

Every copy of a template is made in the same way: a template is derived, and one
default after the other is stored in it. `Store.Given` says how far that has
come. A copy of a template among these defaults is made while the outer one
still waits, so `Given` speaks of one store, the one in which the outer template
was derived, and everything that is added later lies above it.

A substituted template is given defaults in two turns: first those of the old
template, as by any copy, and then those of inserted templates, where a key that
is there already is passed over.

## Main definitions

* `Store.Given`: A derived template with some of its defaults.

## Theorems

* `Store.Given.put`: Setting a new default.
* `Template.ensures_storeOne_stored`, `Template.ensures_storeAll_stored`: Storing
  defaults.
* `Template.ensures_copyWithin_stored`: Copying a template.
* `Template.ensures_carryFrom`: Passing on defaults of an inserted template.
-/

namespace Stencil

namespace Store

/-- A template that was derived in one store has, in a later one, mirrors of some
    entries of a first one as its defaults. -/
structure Given (base start : Store) (u : Template) (entries : List (String × Value))
    (st : Store) : Prop where
  intact : st.Intact
  grown : start.Extends st
  inside : start.objects.size < st.objects.size
  held : ∃ defaults, st.get start.next = .ofBody (.template { u with defaults := defaults })
    ∧ List.Forall₂ (base.MirrorsEntry (start.objects.size + 1) st) entries defaults

variable {base start st st' : Store} {t u : Template} {entries : List (String × Value)}
  {key : String} {v w : Value}

/-- A template that was derived is given nothing yet. -/
theorem given_push (base : Store) (intact : start.Intact)
    (held : ∀ q ∈ (Body.template u).refs, q.index < start.objects.size) (none : u.defaults = []) :
    Given base start u [] (start.push (.ofBody (.template u))) where
  intact := intact.push held
  grown := extends_push _ _
  inside := index_next_lt start _
  held := by
    refine ⟨[], ?_, .nil⟩
    rw [get_push_next, ← none]

/-- What a template was given does not get lost as the store grows. -/
theorem Given.extends (given : Given base start u entries st) (intact : st'.Intact)
    (h : st.Extends st') : Given base start u entries st' where
  intact := intact
  grown := given.grown.trans h
  inside := Nat.lt_of_lt_of_le given.inside h.size_le
  held := by
    rcases given.held with ⟨defaults, there, mirrors⟩
    refine ⟨defaults, (h.get_eq _ given.inside).trans there, mirrors.imp fun e d first => ?_⟩
    exact ⟨first.key, first.value.extends (Nat.le_refl _) h⟩

/-- A template is given what is stored under a new key. -/
theorem Given.put (given : Given base start u entries st)
    (mirrors : base.Mirrors (start.objects.size + 1) st v w) (held : st.Holds w)
    (new : key ∉ entries.map Prod.fst) :
    Given base start u (entries ++ [(key, v)]) (st.putDefault start.next key w) := by
  rcases given.held with ⟨defaults, there, before⟩
  have template := template?_of_get there
  have changed : st.ExtendsBut start.next (st.putDefault start.next key w) :=
    extendsBut_putDefault template
  have keeps : ∀ {x y : Value}, base.Mirrors (start.objects.size + 1) st x y →
      base.Mirrors (start.objects.size + 1) (st.putDefault start.next key w) x y :=
    fun mirrors => mirrors.extendsBut (Nat.lt_succ_self _) template changed
  refine ⟨given.intact.putDefault template held, ?_, ?_, defaults ++ [(key, w)], ?_, ?_⟩
  · exact changed.after given.grown (Nat.le_refl _)
  · exact Nat.lt_of_lt_of_le given.inside changed.size_le
  · rw [get_putDefault_self template, there,
      setDefaultValue_new (keys_eq_of_mirrors before ▸ new)]
    rfl
  · refine List.rel_append (before.imp fun e d first => ?_) (.cons ⟨rfl, keeps mirrors⟩ .nil)
    exact ⟨first.key, keeps first.value⟩

/-- Whether there is a default for a key already. -/
theorem Given.hasDefault_eq (given : Given base start u entries st) (key : String) :
    st.hasDefault start.next key = (entries.map Prod.fst).contains key := by
  rcases given.held with ⟨defaults, there, mirrors⟩
  rw [hasDefault, template?_of_get there]
  change (defaults.lookup key).isSome = _
  rw [keys_eq_of_mirrors mirrors]
  by_cases mem : key ∈ defaults.map Prod.fst
  · have some : (defaults.lookup key).isSome = true := by
      rw [Option.isSome_iff_ne_none]
      exact fun none => lookup_eq_none_iff_keys.mp none mem
    rw [some, List.contains_iff_mem.mpr mem]
  · rw [lookup_eq_none_iff_keys.mpr mem, Option.isSome_none, List.contains_eq_mem,
      decide_eq_false mem]

end Store

namespace Template

open Store (Given)

variable {interp : Interpretation} {base start st : Store} {t u : Template}
  {copyTemplate : Ref → Action Value} {entries done : List (String × Value)} {key : String}
  {v : Value}

/-- Copies of a value are mirrors of it, in whatever store they are made. -/
def CopiesAs (interp : Interpretation) (copyTemplate : Ref → Action Value) (base : Store)
    (v : Value) : Prop :=
  ∀ ⦃st : Store⦄, st.Intact → base.Extends st →
    (copied interp copyTemplate v).Ensures False st fun w st' =>
      st'.Intact ∧ st.Extends st' ∧ base.Mirrors st.objects.size st' v w ∧ st'.Holds w

/-- Copies of data are mirrors. -/
theorem copiesAs_data (data : base.IsData v) : CopiesAs interp copyTemplate base v := by
  intro st intact grown
  have here : base.Alike v st v := data.alike_of_extends grown
  refine Action.ensures_mono (ensures_copied_data intact (data.of_alike here)) ?_
  rintro w st' ⟨intact', grown', copy⟩
  have alike := here.trans copy
  exact ⟨intact', grown', .data data alike, (data.of_alike alike).holds⟩

/-- Storing the copy of a value under a new key. -/
theorem ensures_storeOne_stored (copies : CopiesAs interp copyTemplate base v)
    (present : v ≠ .undefined) (after : base.Extends start)
    (given : Given base start u done st) (new : key ∉ done.map Prod.fst) :
    (storeOne interp copyTemplate start.next key v).Ensures False st fun _ st' =>
      Given base start u (done ++ [(key, v)]) st' := by
  rcases given.held with ⟨defaults, there, -⟩
  have isSealed := Store.isSealed_of_template? (Store.template?_of_get there)
  refine ensures_storeOne isSealed (fun absent => absurd absent present) fun _ => ?_
  refine Action.ensures_mono (copies given.intact (after.trans given.grown)) ?_
  rintro w st' ⟨intact, grown, mirrors, held⟩
  -- The copy was made after the template, so it lies above it.
  exact (given.extends intact grown).put (mirrors.extends given.inside (.refl _)) held new

/-- Storing copies of values under distinct keys. -/
theorem ensures_storeAll_stored
    (copies : ∀ e ∈ entries, CopiesAs interp copyTemplate base e.2 ∧ e.2 ≠ .undefined)
    (after : base.Extends start) (distinct : (entries.map Prod.fst).Nodup)
    (given : Given base start u [] st) :
    (storeAll interp copyTemplate start.next entries).Ensures False st fun _ st' =>
      Given base start u entries st' := by
  refine ensures_storeAll_of_step (Given base start u) (fun before e rest st' split given' => ?_)
    given
  rcases copies e (split ▸ List.mem_append_right _ List.mem_cons_self) with ⟨copies', present⟩
  exact ensures_storeOne_stored copies' present after given'
    (key_not_mem_of_nodup (split ▸ distinct))

/-- What a derived template refers to was there before. -/
theorem inside_of_derived {r : Ref} {source : String} (intact : st.Intact)
    (held : st.template? r = some t) (derived : u.IsDerived t source) :
    ∀ q ∈ (Body.template u).refs, q.index < st.objects.size := by
  have here := Store.index_lt_of_template? held
  have serializer : u.serializer = t.serializer ∨ u.serializer = none := by
    have passed : u.serializer = t.derivedSettings.serializer :=
      congrArg Settings.serializer derived.settings
    rw [passed, derivedSettings]
    split
    · exact .inr rfl
    · exact .inl rfl
    · exact .inl rfl
  intro q hq
  rcases List.mem_append.mp hq with mem | rest
  · refine intact.closed.body here ?_
    rw [Store.body_of_template? held]
    rcases serializer with same | none
    · exact List.mem_append_left _ (same ▸ mem)
    · rw [none] at mem
      cases mem
  · rw [derived.defaults, derived.root] at rest
    rcases List.mem_singleton.mp rest with rfl
    exact Nat.lt_of_le_of_lt (Nat.zero_le _) here

/-- Copying a stored template gives a mirror of it. -/
theorem ensures_copyWithin_stored (intact : base.Intact) {depth : Nat} {r : Ref}
    (stored : base.StoredWithin depth r) (intact' : st.Intact) (grown : base.Extends st) :
    (copyWithin interp depth r).Ensures False st fun w st' =>
      st'.Intact ∧ st.Extends st' ∧ base.Mirrors st.objects.size st' (.object r) w
        ∧ st'.Holds w := by
  induction depth generalizing r st with
  | zero => exact absurd stored not_false
  | succ depth ih =>
      rcases stored with ⟨t, stands, defaults⟩
      have there := grown.template? stands.held
      refine Action.ensures_bind_asking ?_
      rw [there]
      rcases derive_ok st t t.parses with ⟨u, derived, gives, added⟩
      have settings : u.settings = t.settings := by
        rw [derived.settings, derivedSettings, stands.variant]
      refine Action.ensures_bind_ok gives ?_
      rw [added]
      have copies : ∀ e ∈ t.defaults,
          CopiesAs interp (copyWithin interp depth) base e.2 ∧ e.2 ≠ .undefined := by
        intro e he
        rcases defaults e he with ⟨data, present⟩ | ⟨q, same, inner⟩
        · exact ⟨copiesAs_data data, present⟩
        · -- What is stored is still known as a template where the copies are made.
          rw [same]
          refine ⟨fun st' intact' grown' => ?_, nofun⟩
          refine Action.ensures_bind_asking ?_
          rw [grown'.templateRef?_eq intact.closed (same ▸ intact.closed.default stands.held he),
            inner.known]
          exact ih inner intact' grown'
      -- The new template has no defaults yet, and every one that is stored mirrors the one
      -- in its place.
      have fresh := Store.given_push base intact' (inside_of_derived intact' there derived)
        derived.defaults
      refine Action.ensures_bind (ensures_storeAll_stored copies grown stands.distinct fresh)
        fun _ st' given => ?_
      rcases given.held with ⟨ds, made, mirrors⟩
      refine ⟨given.intact, given.grown, ?_, ?_⟩
      · refine .template stands made given.inside (Nat.le_refl _) ?_ settings derived.source_eq
          (Store.keys_eq_of_mirrors mirrors) fun e d mem => ?_
        · change u.variant = .prompt
          rw [derived.variant, derivedVariant, stands.variant]
        · have each := (List.forall₂_iff_zip.mp mirrors).2 mem
          exact each.value.extends (Nat.le_succ _) (.refl _)
      · intro q hq
        rw [List.mem_singleton.mp hq]
        exact given.inside

/-- Copies of what is stored are mirrors. -/
theorem copiesAs_stored (intact : base.Intact) (stored : base.Stored v) :
    CopiesAs interp (copy interp) base v := by
  rcases stored.within with ⟨data, -⟩ | ⟨q, depth, rfl, inner⟩
  · exact copiesAs_data data
  · intro st intact' grown
    refine Action.ensures_bind_asking ?_
    rw [grown.templateRef?_eq intact.closed stored.holds, inner.known]
    refine Action.ensures_bind_asking ?_
    -- The allowance comes from the store of today, which is greater.
    have enough : base.StoredWithin (st.objects.size + 1) q :=
      Store.storedWithin_size inner (Nat.le_succ_of_le grown.size_le)
    exact ensures_copyWithin_stored intact enough intact' grown

/-- The defaults of a template, as they are passed on. -/
theorem defaultsOf_eq (interp : Interpretation) {r : Ref} (held : st.template? r = some t) :
    (defaultsOf interp r).resultAt st = .ok (t.defaults.map fun e => (Value.text e.1, e.2))
      ∧ (defaultsOf interp r).storeAfter st = st := by
  constructor
  · rw [defaultsOf, Action.resultAt_bind_asking, held]
    rfl
  · rw [defaultsOf, Action.storeAfter_bind_asking, held]
    rfl

/-- Passing on the defaults of an inserted template stores those under names that
    the new template has, if it has no default for them yet. -/
theorem ensures_carryFrom (interp : Interpretation) (placeholders : List String)
    (intact : base.Intact) (stored : ∀ e ∈ entries, base.Stored e.2) (after : base.Extends start)
    (distinct : (entries.map Prod.fst).Nodup) (given : Given base start u done st) :
    (carryFrom interp placeholders start.next
        (entries.map fun e => (Value.text e.1, e.2))).Ensures False st fun _ st' =>
      Given base start u
        (done ++ entries.filter fun e =>
          placeholders.contains e.1 && !(done.map Prod.fst).contains e.1)
        st' := by
  induction entries generalizing done st with
  | nil =>
      rw [List.filter_nil, List.append_nil]
      exact given
  | cons e entries ih =>
      rcases e with ⟨key, v⟩
      have more : ∀ d ∈ entries, base.Stored d.2 := fun d hd => stored d (List.mem_cons_of_mem _ hd)
      rw [List.map_cons, List.nodup_cons] at distinct
      refine Action.ensures_bind_asking ?_
      rw [given.hasDefault_eq, List.filter_cons]
      by_cases pass : (placeholders.contains key && !(done.map Prod.fst).contains key) = true
      · rw [if_pos pass, if_pos pass]
        have new : key ∉ done.map Prod.fst := by
          rw [Bool.and_eq_true, Bool.not_eq_true'] at pass
          exact fun mem => Bool.false_ne_true (pass.2.symm.trans (List.contains_iff_mem.mpr mem))
        have first := stored _ List.mem_cons_self
        refine Action.ensures_bind (ensures_storeOne_stored (copiesAs_stored intact first)
          first.given after given new) ?_
        intro _ st' given'
        -- The key of the first entry is not that of another one.
        have rest : (entries.filter fun e => placeholders.contains e.1
              && !((done ++ [(key, v)]).map Prod.fst).contains e.1)
            = entries.filter fun e => placeholders.contains e.1
              && !(done.map Prod.fst).contains e.1 := by
          refine List.filter_congr fun d hd => ?_
          have apart : d.1 ≠ key := by
            intro same
            have mem : d.1 ∈ entries.map Prod.fst := List.mem_map_of_mem hd
            exact distinct.1 (same ▸ mem)
          simp only [List.map_append, List.map_cons, List.map_nil, List.contains_eq_mem,
            List.mem_append, List.mem_singleton, apart, or_false]
        have next := ih more distinct.2 given'
        rw [rest, List.append_assoc, List.singleton_append] at next
        exact next
      · rw [if_neg pass, if_neg pass]
        exact ih more distinct.2 given

end Template

end Stencil
