import Stencil.Proofs.GivenDefaults
import Stencil.Proofs.SubstituteOutcome

/-!
# Carried Defaults

Which defaults a template has that came of substituting, and where they are from.

The new template is given defaults in two loops with different guards. The first
one goes through the defaults of the old template and leaves out all keys that were
supplied. The second one goes through those of all inserted templates and leaves
out what is there already, be it from the first loop or from a template that came
earlier. Under one key all of this comes down to a choice, `carriedDefault?`, and
each step of a loop changes the choice under its own key only. So the invariant of
both loops speaks about lookups, and not about lists: the order in which defaults
are stored does not matter, nor does a key that occurs in several templates.

What is found under a key is a copy, made at some moment in the course of the two
loops. `IsCopy` says no more than that about it, because copying a value can come to
anything, depending on the value. The condition on the stores at these moments is a
parameter: that the first store is still there in any case, and more where more is
known of the values.

## Main definitions

* `Template.Orderly`: A template whose defaults are a map.
* `Store.inner?`: The template that a value is.
* `Template.innerDefault?`, `Template.carriedDefault?`: The default that goes on
  under a key.
* `Template.IsCopy`: A value that was made as a copy.
* `Template.CopiesWell`: Copying a value keeps a condition.
* `Template.Receives`: A template that is being given copies of defaults.

## Theorems

* `Template.Receives.storeAll`, `Template.Receives.carryFrom`,
  `Template.Receives.carryFromAll`: The loops.
* `Template.receives_rebuilt`: What the new template is given.
* `Template.substitute_defaults`: The defaults of the new template.
-/

namespace Stencil

namespace Action

variable {α : Type} {x : Action α} {st : Store} {mayRaise : Prop} {post : α → Store → Prop}

/-- What an action ensures, with what it gives and leaves. -/
theorem ensures_known (h : x.Ensures mayRaise st post) :
    x.Ensures mayRaise st fun a st' =>
      post a st' ∧ x.resultAt st = .ok a ∧ st' = x.storeAfter st := by
  rw [Ensures] at h ⊢
  cases gives : x.resultAt st with
  | error e =>
      rw [gives] at h
      exact h
  | ok a =>
      rw [gives] at h
      exact ⟨h, rfl, rfl⟩

end Action

theorem rel_mono {α β : Type} {R S : α → β → Prop} {x : Option α} {y : Option β}
    (imp : ∀ a b, R a b → S a b) (related : Option.Rel R x y) : Option.Rel S x y := by
  cases related with
  | some h => exact .some (imp _ _ h)
  | none => exact .none

theorem isSome_eq_of_rel {α β : Type} {R : α → β → Prop} {x : Option α} {y : Option β}
    (related : Option.Rel R x y) : x.isSome = y.isSome := by
  cases related with
  | some _ => rfl
  | none => rfl

/-- The template that a value is, if it is one. -/
def Store.inner? (st : Store) (v : Value) : Option Template :=
  (st.templateRef? v).bind st.template?

namespace Store

variable {st st' : Store} {r : Ref} {v : Value} {t : Template}

theorem inner?_extends (closed : st.Closed) (h : st.Extends st') (held : st.Holds v)
    (isInner : st.inner? v = some t) : st'.inner? v = some t := by
  rcases Option.bind_eq_some_iff.mp isInner with ⟨q, known, there⟩
  rw [inner?, h.templateRef?_eq closed held, known, Option.bind_some, h.template? there]

/-- What is a template is an object, and the template is there. -/
theorem object_of_inner? (isInner : st.inner? v = some t) :
    ∃ r, v = .object r ∧ st.template? r = some t := by
  rcases Option.bind_eq_some_iff.mp isInner with ⟨q, known, there⟩
  cases v with
  | object p =>
      rw [templateRef?] at known
      split at known
      · rw [Option.some.inj known]
        exact ⟨q, rfl, there⟩
      · cases known
  | _ => cases known

theorem templateRef?_of_inner? (isInner : st.inner? (.object r) = some t) :
    st.templateRef? (.object r) = some r := by
  rcases Option.bind_eq_some_iff.mp isInner with ⟨q, known, -⟩
  rw [templateRef?] at known ⊢
  split at known
  · next template => exact if_pos template
  · cases known

theorem inner?_of_get (there : st.get r = .ofBody (.template t)) :
    st.inner? (.object r) = some t := by
  rw [inner?, templateRef?_of_get there, Option.bind_some, template?_of_get there]

theorem holds_of_inner? (isInner : st.inner? v = some t) : st.Holds v := by
  rcases object_of_inner? isInner with ⟨r, rfl, there⟩
  intro q hq
  rw [List.mem_singleton.mp hq]
  exact index_lt_of_template? there

end Store

namespace Template

/-- There is one default under a key, and what is undefined counts as none. -/
structure Orderly (t : Template) : Prop where
  distinct : (t.defaults.map Prod.fst).Nodup
  given : ∀ e ∈ t.defaults, e.2 ≠ .undefined

instance (t : Template) : Decidable t.Orderly :=
  decidable_of_iff ((t.defaults.map Prod.fst).Nodup ∧ ∀ e ∈ t.defaults, e.2 ≠ .undefined)
    ⟨fun h => ⟨h.1, h.2⟩, fun h => ⟨h.distinct, h.given⟩⟩

end Template

/-- At an address there is a template, and its defaults are a map. -/
structure Store.Known (st : Store) (r : Ref) (t : Template) : Prop where
  inner : st.inner? (.object r) = some t
  orderly : t.Orderly

theorem Store.Known.template? {st : Store} {r : Ref} {t : Template} (known : st.Known r t) :
    st.template? r = some t := by
  rcases Store.object_of_inner? known.inner with ⟨q, same, there⟩
  cases same
  exact there

theorem Store.Known.later {st st' : Store} {r : Ref} {t : Template} (known : st.Known r t)
    (closed : st.Closed) (h : st.Extends st') : st'.Known r t :=
  ⟨Store.inner?_extends closed h (Store.holds_of_inner? known.inner) known.inner, known.orderly⟩

namespace Template

/-- The default under a key in the first template among supplied entries that has
    one. -/
def innerDefault? (st : Store) (supplied : List (String × Value)) (key : String) : Option Value :=
  supplied.findSome? fun e => (st.inner? e.2).bind fun u => u.defaults.lookup key

/-- The default that goes on under a key: an own one, unless something is supplied
    under the key, and otherwise that of the first inserted template that has one. -/
def carriedDefault? (st : Store) (t : Template) (supplied : List (String × Value))
    (key : String) : Option Value :=
  (if key ∈ supplied.map Prod.fst then none else t.defaults.lookup key).or
    (innerDefault? st supplied key)

/-- A value was made as the copy of another one, in a store that meets a condition.
    Since then objects were added, and nothing else has changed than one address. -/
def IsCopy (interp : Interpretation) (good : Store → Prop) (next : Ref) (st : Store)
    (v w : Value) : Prop :=
  ∃ mid, good mid ∧ (copied interp (copy interp) v).resultAt mid = .ok w
    ∧ ((copied interp (copy interp) v).storeAfter mid).ExtendsBut next st

/-- Copying a value for a template adds objects, and a condition on stores still holds
    when the template has the copy as a default. -/
def CopiesWell (interp : Interpretation) (mayRaise : Prop) (good : Store → Prop) (next : Ref)
    (v : Value) : Prop :=
  ∀ ⦃st : Store⦄ ⦃u : Template⦄, good st → st.template? next = some u →
    (copied interp (copy interp) v).Ensures mayRaise st fun w st' =>
      st.Extends st' ∧ ∀ key, good (st'.putDefault next key w)

/-- A template has been given copies of defaults, where there is one under a key. -/
structure Receives (interp : Interpretation) (good : Store → Prop) (next : Ref) (u : Template)
    (default? : String → Option Value) (st : Store) : Prop where
  kept : good st
  held : ∃ defaults, st.template? next = some { u with defaults := defaults }
    ∧ (defaults.map Prod.fst).Nodup
    ∧ ∀ key, Option.Rel (IsCopy interp good next st) (default? key) (defaults.lookup key)

variable {interp : Interpretation} {mayRaise : Prop} {good : Store → Prop} {next r : Ref}
  {base st st' : Store} {t u : Template} {default? : String → Option Value} {key : String}
  {v w values : Value} {supplied : List (String × Value)} {texts : List (String × String)}

theorem IsCopy.extendsBut (copy : IsCopy interp good next st v w) (h : st.ExtendsBut next st') :
    IsCopy interp good next st' v w := by
  rcases copy with ⟨mid, holds, gives, since⟩
  exact ⟨mid, holds, gives, since.trans h⟩

theorem IsCopy.mono {weaker : Store → Prop} (copy : IsCopy interp good next st v w)
    (imp : ∀ st, good st → weaker st) : IsCopy interp weaker next st v w := by
  rcases copy with ⟨mid, holds, gives, since⟩
  exact ⟨mid, imp mid holds, gives, since⟩

theorem nodup_setDefaultValue (key : String) (v : Value) {defaults : List (String × Value)}
    (distinct : (defaults.map Prod.fst).Nodup) :
    ((setDefaultValue key v defaults).map Prod.fst).Nodup := by
  by_cases known : key ∈ defaults.map Prod.fst
  · rw [Store.keys_setDefaultValue_known known]
    exact distinct
  · rw [Store.setDefaultValue_new known, List.map_append]
    refine List.nodup_append.mpr ⟨distinct, List.nodup_singleton key, fun k hk l hl same => ?_⟩
    rw [same, List.mem_singleton.mp hl] at hk
    exact known hk

/-! ### Giving defaults -/

namespace Receives

/-- Whether there is a default under a key already. -/
theorem hasDefault_eq (receives : Receives interp good next u default? st) (key : String) :
    st.hasDefault next key = (default? key).isSome := by
  rcases receives.held with ⟨defaults, there, -, copies⟩
  rw [Store.hasDefault, there]
  exact (isSome_eq_of_rel (copies key)).symm

theorem congr (receives : Receives interp good next u default? st)
    {same? : String → Option Value} (same : ∀ key, default? key = same? key) :
    Receives interp good next u same? st :=
  funext same ▸ receives

/-- Storing the copy of a value under a key. -/
theorem storeOne (receives : Receives interp good next u default? st)
    (copies : CopiesWell interp mayRaise good next v) (given : v ≠ .undefined) (key : String) :
    (storeOne interp (copy interp) next key v).Ensures mayRaise st fun _ st' =>
      Receives interp good next u (fun k => if k = key then some v else default? k) st' := by
  rcases receives.held with ⟨defaults, there, distinct, before⟩
  refine ensures_storeOne (Store.isSealed_of_template? there) (fun absent => absurd absent given)
    fun _ => ?_
  refine Action.ensures_mono (Action.ensures_known (copies receives.kept there)) ?_
  rintro w st' ⟨⟨grown, keeps⟩, gives, left⟩
  -- Copying only added objects, so the template is the one that was given defaults so far.
  have still := grown.template? there
  have changed : st'.ExtendsBut next (st'.putDefault next key w) :=
    Store.extendsBut_putDefault still
  refine ⟨keeps key, setDefaultValue key w defaults, Store.template?_putDefault still,
    nodup_setDefaultValue key w distinct, fun k => ?_⟩
  rw [lookup_setDefaultValue]
  by_cases here : k = key
  · rw [if_pos here, if_pos here]
    exact .some ⟨st, receives.kept, gives, left ▸ changed⟩
  · rw [if_neg here, if_neg here]
    exact rel_mono (fun _ _ copy => copy.extendsBut ((grown.but next).trans changed)) (before k)

/-- Storing copies of values under distinct keys. -/
theorem storeAll {entries : List (String × Value)}
    (receives : Receives interp good next u default? st)
    (copies : ∀ e ∈ entries, CopiesWell interp mayRaise good next e.2 ∧ e.2 ≠ .undefined)
    (distinct : (entries.map Prod.fst).Nodup) :
    (storeAll interp (copy interp) next entries).Ensures mayRaise st fun _ st' =>
      Receives interp good next u (fun k => (entries.lookup k).or (default? k)) st' := by
  refine ensures_storeAll_of_step (fun before st' =>
    Receives interp good next u (fun k => (before.lookup k).or (default? k)) st')
    (fun before e after st' split receives' => ?_) receives
  rcases e with ⟨key, v⟩
  rcases copies _ (split ▸ List.mem_append_right _ List.mem_cons_self) with ⟨copies', given⟩
  have new := lookup_eq_none_iff_keys.mpr (key_not_mem_of_nodup (split ▸ distinct))
  refine Action.ensures_mono (receives'.storeOne copies' given key) fun _ _ h => h.congr fun k => ?_
  rw [List.lookup_append, List.lookup_cons]
  by_cases here : k = key
  · subst here
    rw [if_pos rfl, new, beq_self_eq_true]
    rfl
  · rw [if_neg here, beq_eq_false_iff_ne.mpr here, List.lookup_nil, Option.or_none]

/-- Passing on the defaults of an inserted template. Where there is a default already
    it stays. -/
theorem carryFrom (placeholders : List String) {entries : List (String × Value)}
    (receives : Receives interp good next u default? st)
    (copies : ∀ e ∈ entries, CopiesWell interp mayRaise good next e.2 ∧ e.2 ≠ .undefined) :
    (carryFrom interp placeholders next (entries.map fun e => (Value.text e.1, e.2))).Ensures
      mayRaise st fun _ st' => Receives interp good next u
        (fun k => (default? k).or (if k ∈ placeholders then entries.lookup k else none)) st' := by
  -- By induction on the entries, for all that is there already, as each entry may add to it.
  induction entries generalizing st default? with
  | nil =>
      refine Receives.congr receives fun k => ?_
      rw [List.lookup_nil, ite_self, Option.or_none]
  | cons e entries ih =>
      rcases e with ⟨key, v⟩
      rcases copies _ List.mem_cons_self with ⟨copies', given⟩
      have more : ∀ d ∈ entries, CopiesWell interp mayRaise good next d.2 ∧ d.2 ≠ .undefined :=
        fun d hd => copies d (List.mem_cons_of_mem _ hd)
      refine Action.ensures_bind_asking ?_
      rw [receives.hasDefault_eq]
      by_cases pass : (placeholders.contains key && !(default? key).isSome) = true
      · rw [if_pos pass]
        rw [Bool.and_eq_true, List.contains_iff_mem, Bool.not_eq_true', Option.isSome_eq_false_iff,
          Option.isNone_iff_eq_none] at pass
        refine Action.ensures_bind (receives.storeOne copies' given key) fun _ st' receives' => ?_
        refine Action.ensures_mono (ih receives' more) fun _ _ h => h.congr fun k => ?_
        rw [List.lookup_cons]
        by_cases here : k = key
        · subst here
          rw [if_pos rfl, Option.some_or, beq_self_eq_true, pass.2, if_pos pass.1, Option.none_or]
        · rw [if_neg here, beq_eq_false_iff_ne.mpr here]
      · rw [if_neg pass]
        refine Action.ensures_mono (ih receives more) fun _ _ h => h.congr fun k => ?_
        rw [List.lookup_cons]
        by_cases here : k = key
        · -- The key names no placeholder, or there is a default already.
          subst here
          rw [beq_self_eq_true]
          cases found : default? k with
          | some w => rw [Option.some_or, Option.some_or]
          | none =>
              have unnamed : k ∉ placeholders := by
                intro named
                refine pass ?_
                rw [List.contains_iff_mem.mpr named, found]
                rfl
              rw [if_neg unnamed, if_neg unnamed]
        · rw [beq_eq_false_iff_ne.mpr here]

/-- Passing on the defaults of all inserted templates: those of the first one that has
    one under a key come first. -/
theorem carryFromAll (placeholders : List String) (intact : base.Intact)
    (grows : ∀ st, good st → base.Extends st)
    (receives : Receives interp good next u default? st) (inside : ∀ e ∈ supplied, base.Holds e.2)
    (copies : ∀ e ∈ supplied, ∀ x, base.inner? e.2 = some x → ∀ d ∈ x.defaults,
      CopiesWell interp mayRaise good next d.2 ∧ d.2 ≠ .undefined) :
    (carryFromAll interp (Template.carryFrom interp placeholders next) supplied).Ensures mayRaise st
      fun _ st' => Receives interp good next u (fun k => (default? k).or
        (if k ∈ placeholders then innerDefault? base supplied k else none)) st' := by
  induction supplied generalizing st default? with
  | nil =>
      refine Receives.congr receives fun k => ?_
      rw [innerDefault?, List.findSome?_nil, ite_self, Option.or_none]
  | cons e supplied ih =>
      rcases e with ⟨key, v⟩
      have grown := grows st receives.kept
      have more : ∀ e ∈ supplied, base.Holds e.2 := fun e he => inside e (List.mem_cons_of_mem _ he)
      have copies' : ∀ e ∈ supplied, ∀ x, base.inner? e.2 = some x → ∀ d ∈ x.defaults,
          CopiesWell interp mayRaise good next d.2 ∧ d.2 ≠ .undefined :=
        fun e he => copies e (List.mem_cons_of_mem _ he)
      refine Action.ensures_bind_asking ?_
      -- What is a template now was one when it was supplied.
      rw [grown.templateRef?_eq intact.closed (inside (key, v) List.mem_cons_self)]
      cases found : base.templateRef? v with
      | none =>
          have none_ : base.inner? v = none := by rw [Store.inner?, found, Option.bind_none]
          refine Action.ensures_mono (ih receives more copies') fun _ _ h => h.congr fun k => ?_
          simp only [innerDefault?, List.findSome?_cons, none_, Option.bind_none]
      | some q =>
          rcases intact.untouched.template found with ⟨x, there⟩
          have inner : base.inner? v = some x := by
            rw [Store.inner?, found, Option.bind_some, there]
          rcases defaultsOf_eq interp (grown.template? there) with ⟨read, kept⟩
          refine Action.ensures_bind_ok read ?_
          rw [kept]
          refine Action.ensures_bind (receives.carryFrom placeholders
            (copies (key, v) List.mem_cons_self x inner)) fun _ st' receives' => ?_
          refine Action.ensures_mono (ih receives' more copies') fun _ _ h => h.congr fun k => ?_
          simp only [innerDefault?, List.findSome?_cons, inner, Option.bind_some]
          by_cases named : k ∈ placeholders
          · simp only [if_pos named, Option.or_assoc]
            cases x.defaults.lookup k with
            | none => rw [Option.none_or]
            | some w => rw [Option.some_or]
          · simp only [if_neg named, Option.or_none]

end Receives

/-! ### The new template -/

theorem receives_push (u : Template) (kept : good (st.push (Object.ofBody (.template u))))
    (none_ : u.defaults = []) :
    Receives interp good st.next u (fun _ => none) (st.push (Object.ofBody (.template u))) where
  kept := kept
  held := by
    refine ⟨[], ?_, List.nodup_nil, fun _ => .none⟩
    rw [← none_]
    exact Store.template?_push_next st u

/-- The new template is given a copy of the default that goes on under each of its
    names. -/
theorem receives_rebuilt (intact : st.Intact) (supplies : st.Supplies values supplied)
    (orderly : t.Orderly) (inner : ∀ e ∈ supplied, ∀ x, st.inner? e.2 = some x → x.Orderly)
    {outline : Outline} (parses : Outline.ofSource? (t.splice texts) = .ok outline)
    (grows : ∀ st', good st' → st.Extends st')
    (start : ∀ u : Template, u.IsDerived t (t.splice texts) →
      good (st.push (Object.ofBody (.template u))))
    (own : ∀ e ∈ t.defaults, CopiesWell interp mayRaise good st.next e.2)
    (others : ∀ e ∈ supplied, ∀ x, st.inner? e.2 = some x → ∀ d ∈ x.defaults,
      CopiesWell interp mayRaise good st.next d.2) :
    (t.rebuilt interp supplied texts).Ensures mayRaise st fun q st' => q = st.next
      ∧ ∃ u : Template, u.IsDerived t (t.splice texts) ∧ u.outline = outline
        ∧ Receives interp good st.next u
          (fun k => if k ∈ outline.placeholders then carriedDefault? st t supplied k else none)
          st' := by
  rcases derive_ok st t parses with ⟨u, derived, given, added⟩
  have outline_eq : u.outline = outline := derived.outline_eq parses
  have placeholders : u.placeholders = outline.placeholders := by
    rw [Template.placeholders, outline_eq]
  refine Action.ensures_bind_ok given ?_
  rw [added]
  have mine : ∀ e ∈ t.carriedOwn u.placeholders (supplied.map Prod.fst),
      CopiesWell interp mayRaise good st.next e.2 ∧ e.2 ≠ .undefined := by
    intro e he
    have default := (mem_carriedOwn.mp he).1
    exact ⟨own e default, orderly.given e default⟩
  have distinct : ((t.carriedOwn u.placeholders (supplied.map Prod.fst)).map Prod.fst).Nodup :=
    orderly.distinct.sublist (List.filter_sublist.map Prod.fst)
  have fresh : Receives interp good st.next u (fun _ => none)
      (st.push (Object.ofBody (.template u))) := receives_push u (start u derived) derived.defaults
  -- The own defaults that are left come first, and those of inserted templates stay behind
  -- them.
  refine Action.ensures_bind (fresh.storeAll mine distinct) fun _ st₁ receives₁ => ?_
  refine Action.ensures_bind (receives₁.carryFromAll u.placeholders intact grows
    (intact.closed.supplied supplies) fun e he x isInner d hd =>
      ⟨others e he x isInner d hd, (inner e he x isInner).given d hd⟩) fun _ st₂ receives₂ => ?_
  refine ⟨rfl, u, derived, outline_eq, receives₂.congr fun k => ?_⟩
  rw [lookup_carriedOwn, Option.or_none, placeholders, carriedDefault?]
  by_cases named : k ∈ outline.placeholders
  · rw [if_pos named, if_pos named, if_pos named]
  · rw [if_neg named, if_neg named, if_neg named, Option.or_none]

/-- Copying any value adds objects. -/
theorem copiesWell_of_holds (interp : Interpretation) (intact : base.Intact) (held : base.Holds v)
    (fresh : base.objects.size ≤ next.index) :
    CopiesWell interp True base.Extends next v := by
  intro st u grown there
  refine Action.ensures_mono (ensures_copied intact (ensures_copy intact) held grown)
    fun w st' copied => ⟨copied, fun key => ?_⟩
  exact (Store.extendsBut_putDefault (copied.template? there)).after (grown.trans copied) fresh

/-! ### Copies of something -/

theorem given_of_copyingValue {bound : Nat} {state state' : Copying}
    (h : Copying.value interp bound state v = .ok (state', w)) (given : v ≠ .undefined) :
    w ≠ .undefined := by
  cases bound with
  | zero => cases h
  | succ bound =>
      cases v with
      | object r =>
          cases Store.copyOf_value h <;> exact nofun
      | _ =>
          cases h
          exact given

/-- A copy of something is something. -/
theorem IsCopy.given (copy : IsCopy interp base.Extends next st v w) (intact : base.Intact)
    (held : base.Holds v) (given : v ≠ .undefined) : w ≠ .undefined := by
  rcases copy with ⟨mid, grown, gives, -⟩
  rw [copied, Action.resultAt_bind_asking, grown.templateRef?_eq intact.closed held] at gives
  cases found : base.templateRef? v with
  | none =>
      rw [found] at gives
      cases read : mid.copy interp v with
      | error raised =>
          rw [Action.resultAt_reading_error read] at gives
          cases gives
      | ok result =>
          rw [Action.resultAt_reading_ok read, Except.ok.injEq] at gives
          rcases ok_of_bind read with ⟨⟨state, copy⟩, copied, same⟩
          cases same
          exact gives ▸ given_of_copyingValue copied given
  | some q =>
      -- The copy of a template is an object, however its defaults are copied.
      rcases intact.untouched.template found with ⟨t, there⟩
      have made : (Template.copy interp q).Ensures True mid fun w _ => w ≠ .undefined := by
        refine Action.ensures_bind_asking (Action.ensures_bind_asking ?_)
        rw [grown.template? there]
        rcases derive_ok mid t t.parses with ⟨u, -, derived, added⟩
        refine Action.ensures_bind_ok derived ?_
        rw [added]
        have pushed := Store.extends_push mid (Object.ofBody (.template u))
        exact Action.ensures_bind (ensures_storeAll intact (ensures_copyWithin intact _)
          (fun e he => intact.closed.default there he) (grown.trans pushed) grown.size_le
          (Store.template?_push_next mid u)) fun _ _ _ => nofun
      rw [found] at gives
      rw [Action.Ensures, gives] at made
      exact made

/-- A template that was given copies of something has a map of defaults. -/
theorem Receives.orderly (receives : Receives interp good next u default? st)
    (intact : base.Intact) (grows : ∀ st, good st → base.Extends st)
    (something : ∀ k v, default? k = some v → base.Holds v ∧ v ≠ .undefined) :
    ∃ x, st.template? next = some x ∧ x = { u with defaults := x.defaults } ∧ x.Orderly
      ∧ ∀ k, Option.Rel (IsCopy interp good next st) (default? k) (x.defaults.lookup k) := by
  rcases receives.held with ⟨defaults, there, distinct, copies⟩
  refine ⟨_, there, rfl, ⟨distinct, ?_⟩, copies⟩
  rintro ⟨k, w⟩ mem
  have related := copies k
  rw [lookup_of_mem distinct mem] at related
  cases found : default? k with
  | none =>
      rw [found] at related
      cases related
  | some v =>
      rw [found] at related
      cases related with
      | some copy =>
          rcases something k v found with ⟨held, given⟩
          exact (copy.mono grows).given intact held given

/-! ### Substituting -/

theorem inner?_eq_some {x : Template} (isInner : st.inner? v = some x) :
    ∃ q, st.templateRef? v = some q ∧ st.template? q = some x :=
  Option.bind_eq_some_iff.mp isInner

/-- A template is inserted as its source. -/
theorem inserts_inner {u : Template} (interp : Interpretation) (t : Template) (a : String)
    (isInner : st.inner? v = some u) :
    List.Forall₂ (t.Inserts interp st) [(a, v)] [(a, u.source)] := by
  rcases inner?_eq_some isInner with ⟨q, known, there⟩
  refine .cons ⟨rfl, ?_⟩ .nil
  simp only [known]
  exact ⟨u, there, rfl⟩

theorem isSome_innerDefault? {k : String} :
    (innerDefault? st supplied k).isSome = true
      ↔ ∃ e ∈ supplied, ∃ u, st.inner? e.2 = some u ∧ k ∈ u.defaults.map Prod.fst := by
  rw [innerDefault?, List.findSome?_isSome_iff]
  refine exists_congr fun e => and_congr_right fun _ => ?_
  cases found : st.inner? e.2 with
  | none => simp
  | some u => simp [Option.isSome_iff_ne_none]

/-- Where substituting gives something, all keys are known, all values have texts and
    the new source parses, and what it gives is the new template. -/
theorem rebuilt_of_substitute (what : String) (intact : st.Intact)
    (held : st.template? r = some t) (supplies : st.Supplies values supplied)
    (gives : (substitute interp what r values).resultAt st = .ok v) :
    ∃ texts outline q, List.Forall₂ (t.Inserts interp st) supplied texts
      ∧ Outline.ofSource? (t.splice texts) = .ok outline ∧ v = .object q
      ∧ (t.rebuilt interp supplied texts).resultAt st = .ok q
      ∧ (substitute interp what r values).storeAfter st
        = (t.rebuilt interp supplied texts).storeAfter st := by
  have outcome := outcome_of_substitute interp what intact held supplies
  rcases outcome.complete with unknown | ⟨n, w, first⟩ | ⟨known, texts, c, inserts, cut⟩
  · cases gives.symm.trans (outcome.unknown unknown).1
  · rcases outcome.refused n w first with ⟨f, fails, -⟩
    cases gives.symm.trans fails
  · rcases substitute_eq what held supplies known inserts with ⟨result, leaves⟩
    cases parses : Outline.ofSource? (t.splice texts) with
    | error m =>
        rw [splice_eq_fill_cut cut] at parses
        cases gives.symm.trans (outcome.malformed texts c m known inserts cut parses)
    | ok outline =>
        cases built : (t.rebuilt interp supplied texts).resultAt st with
        | error f =>
            rw [built] at result
            cases gives.symm.trans result
        | ok q =>
            rw [built] at result
            cases gives.symm.trans result
            exact ⟨texts, outline, q, inserts, parses, rfl, built, leaves⟩

/-- A default that goes on is an own one or that of an inserted template. -/
theorem mem_of_carriedDefault? {k : String} (carried : carriedDefault? st t supplied k = some v) :
    (k, v) ∈ t.defaults
      ∨ ∃ e ∈ supplied, ∃ x, st.inner? e.2 = some x ∧ (k, v) ∈ x.defaults := by
  rw [carriedDefault?, Option.or_eq_some_iff] at carried
  rcases carried with own | ⟨-, inner⟩
  · split_ifs at own
    exact .inl (mem_of_lookup own)
  · rcases List.exists_of_findSome?_eq_some inner with ⟨e, he, found⟩
    rcases Option.bind_eq_some_iff.mp found with ⟨x, isInner, default⟩
    exact .inr ⟨e, he, x, isInner, mem_of_lookup default⟩

theorem isSome_carriedDefault? {k : String} :
    (carriedDefault? st t supplied k).isSome = true
      ↔ k ∉ supplied.map Prod.fst ∧ k ∈ t.defaults.map Prod.fst
        ∨ ∃ e ∈ supplied, ∃ u, st.inner? e.2 = some u ∧ k ∈ u.defaults.map Prod.fst := by
  rw [carriedDefault?, Option.isSome_or, Bool.or_eq_true, isSome_innerDefault?]
  refine or_congr_left ?_
  by_cases given : k ∈ supplied.map Prod.fst
  · simp [given]
  · rw [if_neg given, Option.isSome_iff_ne_none, Ne, lookup_eq_none_iff_keys, Classical.not_not]
    exact (and_iff_right given).symm

/-- The defaults of a template that came of substituting: under each of its names the
    copy of the own default, unless something was supplied under the name, and
    otherwise of the default of the first inserted template that has one. -/
theorem substitute_defaults (interp : Interpretation) (what : String) (intact : st.Intact)
    (held : st.template? r = some t) (supplies : st.Supplies values supplied)
    (orderly : t.Orderly) (inner : ∀ e ∈ supplied, ∀ x, st.inner? e.2 = some x → x.Orderly)
    (gives : (substitute interp what r values).resultAt st = .ok v) :
    let keys := supplied.map Prod.fst
    let after := (substitute interp what r values).storeAfter st
    st.Extends after
      ∧ ∃ n x, v = .object n ∧ st.objects.size ≤ n.index ∧ after.template? n = some x ∧ x.Orderly
        ∧ (∀ k, k ∈ x.defaults.map Prod.fst ↔ k ∈ x.placeholders
          ∧ (k ∉ keys ∧ k ∈ t.defaults.map Prod.fst
            ∨ ∃ e ∈ supplied, ∃ u, st.inner? e.2 = some u ∧ k ∈ u.defaults.map Prod.fst))
        ∧ ∀ k w, x.defaults.lookup k = some w →
          ∃ v, carriedDefault? st t supplied k = some v ∧ IsCopy interp st.Extends n after v w := by
  intro keys after
  rcases rebuilt_of_substitute what intact held supplies gives with
    ⟨texts, outline, q, -, parses, rfl, built, leaves⟩
  have inside : ∀ e ∈ t.defaults, st.Holds e.2 := fun e he => intact.closed.default held he
  have insideInner : ∀ e ∈ supplied, ∀ x, st.inner? e.2 = some x → ∀ d ∈ x.defaults,
      st.Holds d.2 := by
    intro e _ x isInner d hd
    rcases inner?_eq_some isInner with ⟨p, -, there⟩
    exact intact.closed.default there hd
  -- Each default is copied into a store that has grown meanwhile, so it is asked to copy
  -- well in every store that extends this one.
  have receives : (t.rebuilt interp supplied texts).Ensures True st _ := receives_rebuilt
    intact supplies orderly inner parses (fun st' (grown : st.Extends st') => grown)
    (fun u _ => Store.extends_push st _)
    (fun e he => copiesWell_of_holds interp intact (inside e he) (Nat.le_refl _))
    (fun e he x isInner d hd =>
      copiesWell_of_holds interp intact (insideInner e he x isInner d hd) (Nat.le_refl _))
  rw [Action.Ensures, built] at receives
  rcases receives with ⟨rfl, u, derived, outline_eq, receives⟩
  rw [← leaves] at receives
  -- What is carried was a default before, of the template itself or of an inserted one.
  have something : ∀ k v, (if k ∈ outline.placeholders then carriedDefault? st t supplied k
      else none) = some v → st.Holds v ∧ v ≠ .undefined := by
    intro k v found
    rw [ite_eq_iff] at found
    rcases found with ⟨-, carried⟩ | ⟨-, none_⟩
    · rcases mem_of_carriedDefault? carried with own | ⟨e, he, x, isInner, default⟩
      · exact ⟨inside _ own, orderly.given _ own⟩
      · exact ⟨insideInner e he x isInner _ default, (inner e he x isInner).given _ default⟩
    · cases none_
  rcases receives.orderly intact (fun _ grown => grown) something with
    ⟨x, there, same, orderly', copies⟩
  have placeholders : x.placeholders = outline.placeholders := by
    rw [same, ← outline_eq]
    rfl
  refine ⟨receives.kept, st.next, x, rfl, Nat.le_refl _, there, orderly', fun k => ?_,
    fun k w found => ?_⟩
  · have mem_iff : k ∈ x.defaults.map Prod.fst ↔ (x.defaults.lookup k).isSome = true := by
      rw [Option.isSome_iff_ne_none, Ne, lookup_eq_none_iff_keys, Classical.not_not]
    rw [mem_iff, ← isSome_eq_of_rel (copies k), placeholders, ← isSome_carriedDefault?]
    by_cases named : k ∈ outline.placeholders
    · rw [if_pos named]
      exact (and_iff_right named).symm
    · rw [if_neg named]
      exact iff_of_false Bool.false_ne_true fun h => named h.1
  · have related := copies k
    rw [found] at related
    by_cases named : k ∈ outline.placeholders
    · rw [if_pos named] at related
      cases carried : carriedDefault? st t supplied k with
      | none =>
          rw [carried] at related
          cases related
      | some v =>
          rw [carried] at related
          cases related with
          | some copy => exact ⟨v, rfl, copy⟩
    · rw [if_neg named] at related
      cases related

section

/-- A template with defaults for two of its names. One of them is filled by a template
    that brings it back, the other one is a name of both templates that are inserted. -/
private def outerPart : Template :=
  ofCut "" (.placed [] "a" (.placed [] "b" (.placed [] "c" (.last [])))) (by decide)
    [("a", .text "old"), ("b", .text "own")]

private def firstPart : Template :=
  ofCut "" (.placed [] "a" (.placed [] "k" (.last []))) (by decide)
    [("a", .text "new"), ("k", .text "first")]

private def secondPart : Template :=
  ofCut "" (.placed [] "b" (.placed [] "k" (.last []))) (by decide)
    [("k", .text "second"), ("b", .text "other")]

private def parts : Store :=
  ⟨Store.initial.objects ++ #[Object.ofBody (.template outerPart),
    Object.ofBody (.template firstPart), Object.ofBody (.template secondPart),
    Object.plain [("a", .object ⟨3⟩), ("c", .object ⟨4⟩)]]⟩

/-- Each of the three templates passes on one default. -/
theorem substitute_defaults_of_parts :
    let interp := Interpretation.standard
    let supplied := [("a", .object ⟨3⟩), ("c", .object ⟨4⟩)]
    let after := (substitute interp "this" ⟨2⟩ (.object ⟨5⟩)).storeAfter parts
    parts.Intact ∧ parts.template? ⟨2⟩ = some outerPart ∧ parts.Supplies (.object ⟨5⟩) supplied
      ∧ outerPart.Orderly ∧ (∀ e ∈ supplied, ∀ x, parts.inner? e.2 = some x → x.Orderly)
      ∧ (substitute interp "this" ⟨2⟩ (.object ⟨5⟩)).resultAt parts = .ok (.object ⟨6⟩)
      ∧ ∃ x, after.template? ⟨6⟩ = some x
        ∧ ∀ e ∈ [("a", .text "new"), ("b", .text "own"), ("k", .text "first")],
          ∃ w, x.defaults.lookup e.1 = some w
            ∧ IsCopy interp parts.Extends ⟨6⟩ after e.2 w := by
  intro interp supplied after
  have intact : parts.Intact := by decide
  have held : parts.template? ⟨2⟩ = some outerPart := rfl
  have supplies : parts.Supplies (.object ⟨5⟩) supplied := by decide
  have orderly : outerPart.Orderly := by decide
  have inner : ∀ e ∈ supplied, ∀ x, parts.inner? e.2 = some x → x.Orderly := by
    have first : parts.inner? (.object ⟨3⟩) = some firstPart := by decide
    have second : parts.inner? (.object ⟨4⟩) = some secondPart := by decide
    intro e he x isInner
    rcases List.mem_cons.mp he with rfl | he
    · cases first.symm.trans isInner
      decide
    · cases List.mem_singleton.mp he
      cases second.symm.trans isInner
      decide
  have gives : (substitute interp "this" ⟨2⟩ (.object ⟨5⟩)).resultAt parts
      = .ok (.object ⟨6⟩) := by decide +kernel
  have named : (after.template? ⟨6⟩).map placeholders = some ["a", "k", "b"] := by decide +kernel
  refine ⟨intact, held, supplies, orderly, inner, gives, ?_⟩
  rcases substitute_defaults interp "this" intact held supplies orderly inner gives with
    ⟨-, n, x, same, -, there, -, keys, copies⟩
  cases same
  refine ⟨x, there, fun e mem => ?_⟩
  have placeholders : x.placeholders = ["a", "k", "b"] := by
    have := (congrArg (Option.map placeholders) there).symm.trans named
    exact Option.some.inj this
  have carried : e.1 ∈ x.placeholders
      ∧ carriedDefault? parts outerPart supplied e.1 = some e.2 := by
    rw [placeholders]
    revert e
    decide
  -- What goes on under a key is known, so there is a default, and it is a copy of that.
  have known : e.1 ∈ x.defaults.map Prod.fst :=
    (keys e.1).mpr ⟨carried.1, isSome_carriedDefault?.mp (by rw [carried.2]; rfl)⟩
  cases found : x.defaults.lookup e.1 with
  | none => exact absurd known (lookup_eq_none_iff_keys.mp found)
  | some w =>
      rcases copies e.1 w found with ⟨v', carried', copy⟩
      cases carried.2.symm.trans carried'
      exact ⟨w, rfl, copy⟩

end

end Template

end Stencil
