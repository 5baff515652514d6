import Stencil.Proofs.Inert
import Stencil.Proofs.Isolation

/-!
# Templates Form Forests

How templates are stored in one another.

A template that is stored as a default is stored as a copy, and nothing else
holds that copy. So templates form a forest: each is stored under one key of one
template at most, and none contains itself. It makes no difference who holds
them. A template may be given itself as a default, or one that was read out of
the defaults of another one, or of its own.

That there is no cycle follows from an order. Copying a template first makes the
copy, without any defaults, and then copies the defaults into it, so what is
stored in a template was made after it. This is also so where a template that
there was is given a default. Among the defaults there are values besides, and
these must not be templates in disguise, so all of them are inert.

The copy that is about to be stored must not be stored already. It is new, and
what is stored in the meantime is newer still. So it is enough to know, of all
that is stored by an operation, that it came after some point in time, and
`Store.Evolves` says so. For the defaults of a copy, this point is when the copy
was made.

## Main definitions

* `Store.Stores`: A template that is stored under a key of another one.
* `Store.Forest`: Templates that form a forest.
* `Store.Evolves`: What an operation does to a forest.

## Theorems

* `Store.Forest.stores`: What is stored came later.
* `Store.Forest.after`: A forest remains one where its templates stay.
* `Store.Forest.put`: A template is given a default.
* `Template.keepsForest_storeAll`, `Template.givesLoose_copyWithin`: Storing
  defaults.
* `Template.keepsForest_setDefault`, `Template.keepsForest_substitute`,
  `Template.extends_render`, `Exposed.keepsForest_create`: The operations.
-/

namespace Stencil

namespace Store

/-- A template is stored as a default of another one under a key. -/
def Stores (st : Store) (r : Ref) (key : String) (x : Ref) : Prop :=
  ∃ t, st.template? r = some t ∧ (key, .object x) ∈ t.defaults
    ∧ st.templateRef? (.object x) = some x

instance (st : Store) (r : Ref) (key : String) (x : Ref) : Decidable (st.Stores r key x) :=
  inferInstanceAs (Decidable (∃ t ∈ st.template? r,
    (key, .object x) ∈ t.defaults ∧ st.templateRef? (.object x) = some x))

/-- Templates that form a forest: what is stored in one of them is either inert or a
    later one, and no two places store the same. -/
structure Forest (interp : Interpretation) (st : Store) (W : Set Ref) : Prop where
  template : ∀ r ∈ W, ∃ t, st.get r = .ofBody (.template t) ∧ ∀ e ∈ t.defaults,
    st.Inert interp e.2 ∨ ∃ x ∈ W, e.2 = .object x ∧ r.index < x.index
  unique : ∀ r ∈ W, ∀ r' ∈ W, ∀ {key key' : String} {x : Ref},
    st.Stores r key x → st.Stores r' key' x → r = r' ∧ key = key'

/-- Values that can be stored: inert ones, and templates of the forest. -/
def Accepts (interp : Interpretation) (st : Store) (W : Set Ref) (v : Value) : Prop :=
  st.Inert interp v ∨ ∃ x ∈ W, v = .object x

/-- A value that can be put into a template as it is: an inert one, or a template
    that came after some point in time and is not stored anywhere. -/
def IsLoose (interp : Interpretation) (since : Nat) (st : Store) (W : Set Ref) (v : Value) :
    Prop :=
  st.Inert interp v ∨ ∃ x ∈ W, v = .object x ∧ since ≤ x.index
    ∧ ∀ r ∈ W, ∀ key, ¬ st.Stores r key x

/-- A forest grows: there are later objects, and of those before only some templates
    have changed. What is stored now was stored before, or came after some point in
    time. -/
structure Evolves (since : Nat) (off : Set Ref) (st : Store) (W : Set Ref) (st' : Store)
    (W' : Set Ref) : Prop where
  later : st.Later st'
  get_eq : ∀ r, r.index < st.objects.size → r ∉ off → st'.get r = st.get r
  le : W ⊆ W'
  added : ∀ r ∈ W', r ∈ W ∨ st.objects.size ≤ r.index
  stored : ∀ r ∈ W', ∀ {key : String} {x : Ref}, st'.Stores r key x →
    r ∈ W ∧ st.Stores r key x ∨ since ≤ x.index

variable {interp : Interpretation} {st st' st'' : Store} {W W' W'' off off' : Set Ref}
  {since since' : Nat} {r x : Ref} {key : String} {v : Value} {t : Template}

/-! ### Forests -/

namespace Forest

theorem template? (forest : st.Forest interp W) (hr : r ∈ W) : ∃ t, st.template? r = some t := by
  rcases forest.template r hr with ⟨t, there, -⟩
  exact ⟨t, template?_of_get there⟩

theorem index_lt (forest : st.Forest interp W) (hr : r ∈ W) : r.index < st.objects.size := by
  rcases forest.template? hr with ⟨t, held⟩
  exact index_lt_of_template? held

theorem templateRef? (forest : st.Forest interp W) (hr : r ∈ W) :
    st.templateRef? (.object r) = some r := by
  rcases forest.template r hr with ⟨t, there, -⟩
  exact templateRef?_of_get there

/-- The defaults of a template of the forest can be stored. -/
theorem accepts (forest : st.Forest interp W) (hr : r ∈ W) (held : st.template? r = some t)
    {e : String × Value} (he : e ∈ t.defaults) : st.Accepts interp W e.2 := by
  rcases forest.template r hr with ⟨u, there, defaults⟩
  rw [template?_of_get there, Option.some.injEq] at held
  rcases defaults e (held ▸ he) with inert | ⟨x, hx, same, -⟩
  · exact .inl inert
  · exact .inr ⟨x, hx, same⟩

/-- What is stored in a template of the forest is another one, and came later. -/
theorem stores (forest : st.Forest interp W) (hr : r ∈ W) (h : st.Stores r key x) :
    x ∈ W ∧ r.index < x.index := by
  rcases h with ⟨t, held, mem, isTemplate⟩
  rcases forest.template r hr with ⟨u, there, defaults⟩
  rw [template?_of_get there, Option.some.injEq] at held
  rcases defaults _ (held ▸ mem) with inert | ⟨y, hy, same, above⟩
  · rw [inert.templateRef?_eq_none] at isTemplate
    cases isTemplate
  · cases same
    exact ⟨hy, above⟩

end Forest

theorem Accepts.leadsTo (forest : st.Forest interp W) (accepts : st.Accepts interp W v) :
    Template.LeadsTo st W v := by
  intro inner found
  rcases accepts with inert | ⟨x, hx, rfl⟩
  · rw [inert.templateRef?_eq_none] at found
    cases found
  · rw [forest.templateRef? hx, Option.some.injEq] at found
    exact found ▸ hx

theorem Forest.sealedOn (forest : st.Forest interp W) : Template.SealedOn st W := by
  intro r hr
  rcases forest.template? hr with ⟨t, held⟩
  exact ⟨t, held, fun e he => (forest.accepts hr held he).leadsTo forest⟩

/-- What can be stored can be stored later on. -/
theorem Accepts.later (accepts : st.Accepts interp W v) (h : st.Later st') (le : W ⊆ W') :
    st'.Accepts interp W' v := by
  rcases accepts with inert | ⟨x, hx, same⟩
  · exact .inl (inert.later h)
  · exact .inr ⟨x, le hx, same⟩

/-- What can be stored can still be stored when there is one more object, be it in
    the forest or not. -/
theorem Accepts.push (accepts : st.Accepts interp W v) (o : Object) :
    (st.push o).Accepts interp (insert st.next W) v :=
  accepts.later (.of_extends (extends_push st o)) (Set.subset_insert _ _)

/-- Nobody has reached into the templates of a forest. -/
theorem Accepts.leadsTo_template (forest : st.Forest interp W) (accepts : st.Accepts interp W v) :
    Template.LeadsTo st {q | ∃ u, st.template? q = some u} v :=
  fun inner found => forest.template? (accepts.leadsTo forest inner found)

/-! ### Growing -/

namespace Evolves

theorem trans (first : Evolves since off st W st' W') (second : Evolves since off st' W' st'' W'') :
    Evolves since off st W st'' W'' where
  later := first.later.trans second.later
  get_eq r inside other := by
    rw [second.get_eq r (Nat.lt_of_lt_of_le inside first.later.size_le) other,
      first.get_eq r inside other]
  le := first.le.trans second.le
  added r hr := by
    rcases second.added r hr with known | new
    · exact first.added r known
    · exact .inr (Nat.le_trans first.later.size_le new)
  stored r hr _ _ h := by
    rcases second.stored r hr h with ⟨known, before⟩ | new
    · exact first.stored r known before
    · exact .inr new

theorem mono (evolves : Evolves since off st W st' W') (before : since' ≤ since)
    (le : off ⊆ off') : Evolves since' off' st W st' W' where
  later := evolves.later
  get_eq r inside other := evolves.get_eq r inside fun mem => other (le mem)
  le := evolves.le
  added := evolves.added
  stored r hr _ _ h := (evolves.stored r hr h).imp id (Nat.le_trans before)

theorem accepts (evolves : Evolves since off st W st' W') (accepts : st.Accepts interp W v) :
    st'.Accepts interp W' v :=
  accepts.later evolves.later evolves.le

end Evolves

/-- A forest whose templates are the same remains one, and stores the same. -/
theorem Forest.after (forest : st.Forest interp W) (h : st.Later st')
    (same : ∀ r ∈ W, st'.get r = st.get r) :
    st'.Forest interp W ∧ ∀ r ∈ W, ∀ {key : String} {x : Ref}, st'.Stores r key x →
      st.Stores r key x := by
  -- What is stored now is a default that was there, and it was a template already: what
  -- is inert does not become one.
  have stored : ∀ r ∈ W, ∀ {key : String} {x : Ref}, st'.Stores r key x →
      st.Stores r key x := by
    rintro r hr key x ⟨t, held, mem, isTemplate⟩
    rcases forest.template r hr with ⟨u, there, -⟩
    have still := template?_of_get ((same r hr).trans there)
    rw [still, Option.some.injEq] at held
    have held' : st.template? r = some t := held ▸ template?_of_get there
    rcases forest.accepts hr held' mem with inert | ⟨y, hy, same⟩
    · rw [(inert.later h).templateRef?_eq_none] at isTemplate
      cases isTemplate
    · cases same
      exact ⟨t, held', mem, forest.templateRef? hy⟩
  refine ⟨⟨fun r hr => ?_, fun r hr r' hr' key key' x first second => ?_⟩, stored⟩
  · rcases forest.template r hr with ⟨t, there, defaults⟩
    refine ⟨t, (same r hr).trans there, fun e he => ?_⟩
    exact (defaults e he).imp (fun inert => inert.later h) id
  · exact forest.unique r hr r' hr' (stored r hr first) (stored r' hr' second)

/-- Adding objects changes nothing about a forest. -/
theorem Forest.extends (forest : st.Forest interp W) (h : st.Extends st') :
    Evolves since off st W st' W ∧ st'.Forest interp W := by
  have later := Later.of_extends h
  rcases forest.after later fun r hr => h.get_eq r (forest.index_lt hr) with ⟨forest', stored⟩
  refine ⟨⟨later, fun r inside _ => h.get_eq r inside, le_refl W, fun r hr => .inl hr, ?_⟩, forest'⟩
  exact fun r hr key x h => .inl ⟨hr, stored r hr h⟩

theorem Forest.of_extends (forest : st.Forest interp W) (h : st.Extends st') :
    st'.Forest interp W :=
  (forest.after (.of_extends h) fun r hr => h.get_eq r (forest.index_lt hr)).1

/-- A new template without defaults joins a forest. -/
theorem Forest.push {u : Template} (forest : st.Forest interp W) (none : u.defaults = []) :
    Evolves since off st W (st.push (.ofBody (.template u))) (insert st.next W)
      ∧ (st.push (.ofBody (.template u))).Forest interp (insert st.next W) := by
  have grown : Evolves since off st W (st.push (.ofBody (.template u))) W ∧ _ :=
    forest.extends (extends_push st _)
  rcases grown with ⟨evolves, forest'⟩
  have there : (st.push (.ofBody (.template u))).get st.next = .ofBody (.template u) :=
    get_push_next
  have empty : ∀ {key : String} {x : Ref},
      ¬ (st.push (.ofBody (.template u))).Stores st.next key x := by
    rintro key x ⟨t, held, mem, -⟩
    rw [template?_of_get there, Option.some.injEq] at held
    rw [← held, none] at mem
    cases mem
  -- The new template stores nothing, so all that is stored was stored before.
  refine ⟨⟨evolves.later, evolves.get_eq, Set.subset_insert _ _, fun r hr => ?_, ?_⟩, ?_, ?_⟩
  · rcases hr with rfl | hr
    · exact .inr (Nat.le_refl _)
    · exact .inl hr
  · rintro r (rfl | hr) key x h
    · exact absurd h empty
    · exact evolves.stored r hr h
  · rintro r (rfl | hr)
    · refine ⟨u, there, fun e he => ?_⟩
      rw [none] at he
      cases he
    · rcases forest'.template r hr with ⟨t, there, defaults⟩
      refine ⟨t, there, fun e he => (defaults e he).imp id ?_⟩
      rintro ⟨x, hx, same, above⟩
      exact ⟨x, .inr hx, same, above⟩
  · rintro r (rfl | hr) r' (rfl | hr') key key' x first second
    · exact absurd first empty
    · exact absurd first empty
    · exact absurd second empty
    · exact forest'.unique r hr r' hr' first second

/-- What is stored after a loose value was put into a template was stored before, or it
    is that value. -/
theorem Forest.stores_put (forest : st.Forest interp W) (held : st.template? r = some t)
    (later : st.Later (st.putDefault r key v)) (loose : st.IsLoose interp since W v)
    {q : Ref} (hq : q ∈ W) {k : String} (h : (st.putDefault r key v).Stores q k x) :
    st.Stores q k x ∨ q = r ∧ k = key ∧ v = .object x ∧ x ∈ W ∧ since ≤ x.index
      ∧ ∀ p ∈ W, ∀ k', ¬ st.Stores p k' x := by
  rcases h with ⟨u, held', mem, isTemplate⟩
  have old : ∀ {w : Template}, st.template? q = some w → (k, .object x) ∈ w.defaults →
      st.Stores q k x := by
    intro w held'' mem'
    rcases forest.accepts hq held'' mem' with inert | ⟨y, hy, same⟩
    · rw [(inert.later later).templateRef?_eq_none] at isTemplate
      cases isTemplate
    · cases same
      exact ⟨w, held'', mem', forest.templateRef? hy⟩
  by_cases same : q = r
  · subst same
    rw [template?_putDefault held, Option.some.injEq] at held'
    rw [← held'] at mem
    rcases eq_or_mem_of_mem_setDefaultValue mem with new | known
    · cases new
      rcases loose with inert | ⟨y, hy, same, above, free⟩
      · rw [(inert.later later).templateRef?_eq_none] at isTemplate
        cases isTemplate
      · cases same
        exact .inr ⟨rfl, rfl, rfl, hy, above, free⟩
    · exact .inl (old held known)
  · refine .inl (old (w := u) ?_ mem)
    rw [Store.template?, ← get_putDefault_ne held same]
    exact held'

/-- Putting a loose value into a template of a forest. -/
theorem Forest.put (forest : st.Forest interp W) (hr : r ∈ W) (before : r.index < since)
    (loose : st.IsLoose interp since W v) (key : String) :
    Evolves since {r} st W (st.putDefault r key v) W
      ∧ (st.putDefault r key v).Forest interp W := by
  rcases forest.template r hr with ⟨t, there, defaults⟩
  have held := template?_of_get there
  have later := Later.putDefault there key v
  have others : ∀ q, q ≠ r → (st.putDefault r key v).get q = st.get q :=
    fun q apart => get_putDefault_ne held apart
  have self : (st.putDefault r key v).get r
      = .ofBody (.template { t with defaults := setDefaultValue key v t.defaults }) := by
    rw [get_putDefault_self held, there]
    rfl
  refine ⟨⟨later, fun q _ apart => others q apart, le_refl W, fun q hq => .inl hq, ?_⟩, ?_, ?_⟩
  · intro q hq k x h
    rcases forest.stores_put held later loose hq h with known | ⟨-, -, -, -, above, -⟩
    · exact .inl ⟨hq, known⟩
    · exact .inr above
  · intro q hq
    by_cases same : q = r
    · subst same
      refine ⟨_, self, fun e he => ?_⟩
      rcases eq_or_mem_of_mem_setDefaultValue he with rfl | known
      · rcases loose with inert | ⟨x, hx, same, above, -⟩
        · exact .inl (inert.later later)
        · exact .inr ⟨x, hx, same, Nat.lt_of_lt_of_le before above⟩
      · exact (defaults e known).imp (fun inert => inert.later later) id
    · rcases forest.template q hq with ⟨u, there', defaults'⟩
      refine ⟨u, (others q same).trans there', fun e he => ?_⟩
      exact (defaults' e he).imp (fun inert => inert.later later) id
  · -- The new default was not stored anywhere, so it is only stored where it was put.
    intro q hq q' hq' k k' x first second
    rcases forest.stores_put held later loose hq first with known | ⟨rfl, rfl, -, -, -, free⟩
    · rcases forest.stores_put held later loose hq' second with known' | ⟨-, -, -, -, -, free⟩
      · exact forest.unique q hq q' hq' known known'
      · exact absurd known (free q hq k)
    · rcases forest.stores_put held later loose hq' second with known' | ⟨rfl, rfl, -⟩
      · exact absurd known' (free q' hq' k')
      · exact ⟨rfl, rfl⟩

end Store

/-! ### Actions -/

namespace Action

open Store (Evolves)

variable {α β : Type} {x : Action α} {f : α → Action β} {interp : Interpretation} {since : Nat}
  {off W : Set Ref} {st : Store} {post : α → Store → Set Ref → Prop}
  {last : β → Store → Set Ref → Prop}

/-- Whatever comes of it, a forest has grown at most. If the action succeeds, then a
    condition holds. -/
abbrev KeepsForest (x : Action α) (interp : Interpretation) (since : Nat) (off : Set Ref)
    (st : Store) (W : Set Ref) (post : α → Store → Set Ref → Prop) : Prop :=
  x.Maintains (Evolves since off) (fun st W => st.Forest interp W) st W post

/-- An action that only adds objects. -/
theorem keepsForest_of_extends (forest : st.Forest interp W)
    (h : st.Extends (x.storeAfter st))
    (holds : ∀ a, x.resultAt st = .ok a → post a (x.storeAfter st) W) :
    x.KeepsForest interp since off st W post := by
  rcases forest.extends h with ⟨evolves, forest'⟩
  exact ⟨W, evolves, forest', holds⟩

theorem keepsForest_pure {a : α} (forest : st.Forest interp W) (holds : post a st W) :
    (pure a : Action α).KeepsForest interp since off st W post :=
  keepsForest_of_extends forest (.refl st) fun _ given => Except.ok.inj given ▸ holds

theorem keepsForest_bind_looks (forest : st.Forest interp W) (looks : x.Looks st)
    (second : ∀ a, x.resultAt st = .ok a → (f a).KeepsForest interp since off st W last) :
    (x >>= f).KeepsForest interp since off st W last :=
  maintains_bind_looks (fun _ h => forest.extends h) looks second

theorem keepsForest_weaken {since' : Nat} {off' : Set Ref}
    (h : x.KeepsForest interp since off st W post) (before : since' ≤ since) (le : off ⊆ off') :
    x.KeepsForest interp since' off' st W post := by
  rcases h with ⟨W', evolves, forest, holds⟩
  exact ⟨W', evolves.mono before le, forest, holds⟩

end Action

/-! ### Storing defaults -/

namespace Template

open Store (Evolves Forest)

variable {interp : Interpretation} {copyTemplate : Ref → Action Value} {st : Store}
  {W : Set Ref} {since : Nat} {r : Ref} {v : Value}

/-- Copying a template of a forest gives something that is not stored yet. -/
def GivesLoose (interp : Interpretation) (copyTemplate : Ref → Action Value) (since : Nat) :
    Prop :=
  ∀ ⦃st : Store⦄ ⦃W : Set Ref⦄ ⦃r : Ref⦄, since ≤ st.objects.size → st.Forest interp W → r ∈ W →
    (copyTemplate r).KeepsForest interp since ∅ st W fun w st' W' =>
      st'.IsLoose interp since W' w

/-- Copying a value gives something that is not stored yet. -/
theorem keepsForest_copied (copies : GivesLoose interp copyTemplate since)
    (new : since ≤ st.objects.size) (forest : st.Forest interp W)
    (accepts : st.Accepts interp W v) :
    (copied interp copyTemplate v).KeepsForest interp since ∅ st W fun w st' W' =>
      st'.IsLoose interp since W' w := by
  refine Action.maintains_bind_asking ?_
  rcases accepts with inert | ⟨x, hx, rfl⟩
  · rw [inert.templateRef?_eq_none]
    change (Action.reading fun st => st.copy interp v).KeepsForest interp since ∅ st W _
    cases copied : st.copy interp v with
    | error e =>
        refine Action.keepsForest_of_extends forest ?_ fun w given => ?_
        · rw [Action.storeAfter_reading_error copied]
          exact .refl st
        · rw [Action.resultAt_reading_error copied] at given
          cases given
    | ok result =>
        refine Action.keepsForest_of_extends forest ?_ fun w given => ?_
        · rw [Action.storeAfter_reading_ok copied]
          exact Store.extends_copy copied
        · rw [Action.resultAt_reading_ok copied, Except.ok.injEq] at given
          rw [Action.storeAfter_reading_ok copied, ← given]
          exact .inl (Store.inert_copy inert copied)
  · rw [forest.templateRef? hx]
    exact copies new forest hx

/-- Storing a default changes the template that it is stored in. -/
theorem keepsForest_storeOne (copies : GivesLoose interp copyTemplate since)
    (new : since ≤ st.objects.size) (forest : st.Forest interp W) (hr : r ∈ W)
    (before : r.index < since) (key : String) (accepts : st.Accepts interp W v) :
    (storeOne interp copyTemplate r key v).KeepsForest interp since {r} st W
      fun _ _ _ => True := by
  rw [storeOne]
  by_cases undefined : v = .undefined
  · rw [if_pos undefined]
    exact Action.keepsForest_pure forest trivial
  · rw [if_neg undefined]
    rcases forest.template? hr with ⟨t, held⟩
    refine Action.maintains_bind_asking ?_
    rw [Store.isSealed_of_template? held, if_pos rfl]
    have copy := keepsForest_copied copies new forest accepts
    refine Action.maintains_bind Evolves.trans
      (Action.keepsForest_weaken copy (Nat.le_refl since) (Set.empty_subset {r})) ?_
    intro w st' W' evolves forest' loose
    rcases forest'.put (evolves.le hr) before loose key with ⟨put, forest''⟩
    exact ⟨W', put, forest'', fun _ _ => trivial⟩

/-- Storing defaults changes the template that they are stored in. -/
theorem keepsForest_storeAll (copies : GivesLoose interp copyTemplate since)
    {entries : List (String × Value)} (new : since ≤ st.objects.size)
    (forest : st.Forest interp W) (hr : r ∈ W) (before : r.index < since)
    (accepts : ∀ e ∈ entries, st.Accepts interp W e.2) :
    (storeAll interp copyTemplate r entries).KeepsForest interp since {r} st W
      fun _ _ _ => True := by
  -- By induction on the entries: the forest grows with each of them, and what is to be
  -- stored can still be stored.
  induction entries generalizing st W with
  | nil => exact Action.keepsForest_pure forest trivial
  | cons e entries ih =>
      rcases e with ⟨key, v⟩
      have first := keepsForest_storeOne copies new forest hr before key
        (accepts _ List.mem_cons_self)
      refine Action.maintains_bind Evolves.trans first fun _ st' W' evolves forest' _ => ?_
      exact ih (Nat.le_trans new evolves.later.size_le) forest' (evolves.le hr)
        fun d hd => evolves.accepts (accepts d (List.mem_cons_of_mem _ hd))

/-- A template is derived and something is done with it, so that nothing but the
    template and what is new changes. It is not stored anywhere in the meantime, if
    only what came after it is. -/
theorem keepsForest_derive {β : Type} (t : Template) (source : String)
    {f : Template × Ref → Action β} (post : β → Store → Set Ref → Prop)
    (new : since ≤ st.objects.size) (forest : st.Forest interp W)
    (rest : ∀ u, (st.push (.ofBody (.template u))).Forest interp (Insert.insert st.next W) →
      (f (u, st.next)).KeepsForest interp (st.objects.size + 1) {st.next}
        (st.push (.ofBody (.template u))) (Insert.insert st.next W) post) :
    (t.derive source >>= f).KeepsForest interp since ∅ st W fun b st' W' =>
      post b st' W' ∧ st.next ∈ W' ∧ st'.IsLoose interp since W' (.object st.next) := by
  cases parsed : Outline.ofSource? source with
  | error m =>
      rcases derive_malformed st t parsed with ⟨fails, leaves⟩
      refine Action.keepsForest_of_extends forest ?_ fun b given => ?_
      · rw [Action.storeAfter_bind_error fails, leaves]
        exact .refl st
      · rw [Action.resultAt_bind_error fails] at given
        cases given
  | ok outline =>
      rcases derive_ok st t parsed with ⟨u, derived, gives, added⟩
      have pushed : Evolves (st.objects.size + 1) {st.next} st W
          (st.push (.ofBody (.template u))) (Insert.insert st.next W) ∧ _ :=
        forest.push derived.defaults
      rcases pushed with ⟨grown, forest'⟩
      rcases rest u forest' with ⟨W', evolves, forest'', holds⟩
      rw [Action.KeepsForest, Action.Maintains, Action.storeAfter_bind_ok gives,
        Action.resultAt_bind_ok gives, added]
      have mem : st.next ∈ W' := evolves.le (Set.mem_insert _ _)
      have inside : st.next.index < st.objects.size + 1 := Nat.lt_succ_self _
      refine ⟨W', ?_, forest'', fun b given => ⟨holds b given, mem, ?_⟩⟩
      · -- The template is new, so from before nothing has changed.
        have whole := (grown.trans evolves).mono (Nat.le_succ_of_le new) (le_refl _)
        refine ⟨whole.later, fun q old _ => whole.get_eq q old fun same => ?_, whole.le,
          whole.added, whole.stored⟩
        rw [Set.mem_singleton_iff.mp same] at old
        exact Nat.lt_irrefl _ old
      · refine .inr ⟨st.next, mem, rfl, new, fun q hq key stored => ?_⟩
        rcases (grown.trans evolves).stored q hq stored with ⟨known, before⟩ | after
        · exact Nat.lt_irrefl _ (forest.index_lt (forest.stores known before).1)
        · exact Nat.lt_irrefl _ (Nat.lt_of_lt_of_le inside after)

/-- Copying a template of a forest adds objects, and the copy is not stored yet. -/
theorem givesLoose_copyWithin (interp : Interpretation) (allowance since : Nat) :
    GivesLoose interp (copyWithin interp allowance) since := by
  induction allowance generalizing since with
  | zero =>
      intro st W r new forest hr
      exact Action.keepsForest_of_extends forest (.refl st) fun _ given => nomatch given
  | succ allowance ih =>
      intro st W r new forest hr
      rcases forest.template? hr with ⟨t, held⟩
      refine Action.maintains_bind_asking ?_
      rw [held]
      refine Action.maintains_mono (keepsForest_derive t t.source
        (fun w _ _ => w = .object st.next) new forest fun u forest' => ?_) ?_
      · -- What is copied into the copy comes after it.
        have size : (st.push (.ofBody (.template u))).objects.size = st.objects.size + 1 :=
          Store.size_push
        have storing := keepsForest_storeAll (ih (st.objects.size + 1)) (Nat.le_of_eq size.symm)
          forest' (Set.mem_insert st.next W) (Nat.lt_succ_self _)
          fun e he => (forest.accepts hr held he).push _
        refine Action.maintains_bind Evolves.trans storing fun _ st' W' _ forest'' _ => ?_
        exact Action.keepsForest_pure forest'' rfl
      · rintro _ st' W' ⟨rfl, -, loose⟩
        exact loose

theorem givesLoose_copy (interp : Interpretation) (since : Nat) :
    GivesLoose interp (copy interp) since := by
  intro st W r new forest hr
  exact Action.maintains_bind_asking (givesLoose_copyWithin interp _ since new forest hr)

/-! ### Passing on defaults -/

/-- Passing on the defaults of a template changes the one that is given them. -/
theorem keepsForest_carryFrom (interp : Interpretation) (placeholders : List String)
    {entries : List (Value × Value)} (new : since ≤ st.objects.size)
    (forest : st.Forest interp W) (hr : r ∈ W) (before : r.index < since)
    (accepts : ∀ e ∈ entries, st.Accepts interp W e.2) :
    (carryFrom interp placeholders r entries).KeepsForest interp since {r} st W
      fun _ _ _ => True := by
  induction entries generalizing st W with
  | nil => exact Action.keepsForest_pure forest trivial
  | cons e entries ih =>
      rcases e with ⟨key, v⟩
      have rest := fun d hd => accepts d (List.mem_cons_of_mem _ hd)
      cases key with
      | text key =>
          refine Action.maintains_bind_asking ?_
          split
          · have one := keepsForest_storeOne (givesLoose_copy interp since) new forest hr before key
              (accepts _ List.mem_cons_self)
            refine Action.maintains_bind Evolves.trans one fun _ st' W' evolves forest' _ => ?_
            exact ih (Nat.le_trans new evolves.later.size_le) forest' (evolves.le hr)
              fun d hd => evolves.accepts (rest d hd)
          · exact ih new forest hr rest
      | _ => exact ih new forest hr rest

/-- The defaults of all inserted templates are passed on. -/
theorem keepsForest_carryFromAll (interp : Interpretation) (placeholders : List String)
    {supplied : List (String × Value)} (new : since ≤ st.objects.size)
    (forest : st.Forest interp W) (hr : r ∈ W) (before : r.index < since)
    (accepts : ∀ e ∈ supplied, st.Accepts interp W e.2) :
    (carryFromAll interp (carryFrom interp placeholders r) supplied).KeepsForest interp since {r}
      st W fun _ _ _ => True := by
  induction supplied generalizing st W with
  | nil => exact Action.keepsForest_pure forest trivial
  | cons e supplied ih =>
      rcases e with ⟨key, v⟩
      have rest := fun d hd => accepts d (List.mem_cons_of_mem _ hd)
      refine Action.maintains_bind_asking ?_
      cases found : st.templateRef? v with
      | none => exact ih new forest hr rest
      | some inner =>
          have mem := (accepts _ List.mem_cons_self).leadsTo forest inner found
          rcases forest.template? mem with ⟨t, held⟩
          rcases defaultsOf_eq interp held with ⟨gives, leaves⟩
          refine Action.keepsForest_bind_looks forest (Action.looks_of_storeAfter leaves)
            fun entries h => ?_
          rw [gives, Except.ok.injEq] at h
          have stored : ∀ d ∈ entries, st.Accepts interp W d.2 := by
            intro d hd
            rw [← h] at hd
            rcases List.mem_map.mp hd with ⟨e, he, rfl⟩
            exact forest.accepts mem held he
          refine Action.maintains_bind Evolves.trans
            (keepsForest_carryFrom interp placeholders new forest hr before stored) ?_
          intro _ st' W' evolves forest' _
          exact ih (Nat.le_trans new evolves.later.size_le) forest' (evolves.le hr)
            fun d hd => evolves.accepts (rest d hd)

/-! ### Operations -/

section

variable {t : Template} {values : Value} {supplied : List (String × Value)}

/-- Setting defaults changes the template that they are set in. -/
theorem keepsForest_setDefault (interp : Interpretation) (what : String)
    (forest : st.Forest interp W) (hr : r ∈ W) (supplies : st.Supplies values supplied)
    (accepts : ∀ e ∈ supplied, st.Accepts interp W e.2) :
    (askSetDefault interp what r values).KeepsForest interp st.objects.size {r} st W
      fun _ _ _ => True := by
  rcases forest.template? hr with ⟨t, held⟩
  have given := Store.supplied_eq interp supplies
  have reads : (Action.reading fun st => st.supplied interp values).Looks st :=
    Action.looks_of_storeAfter (Action.storeAfter_reading_ok given)
  refine Action.maintains_bind_asking ?_
  rw [held]
  have stored : (setDefault interp r values).KeepsForest interp st.objects.size {r} st W
      fun _ _ _ => True := by
    refine Action.keepsForest_bind_looks forest reads fun entries h => ?_
    rw [Action.resultAt_reading_ok given, Except.ok.injEq] at h
    rw [← h]
    exact keepsForest_storeAll (givesLoose_copy interp _) (Nat.le_refl _) forest hr
      (forest.index_lt hr) accepts
  refine Action.maintains_bind Evolves.trans stored fun _ st' W' _ forest' _ => ?_
  exact Action.keepsForest_pure forest' trivial

/-- Building the template that comes of substituting gives one of the forest. -/
theorem keepsForest_rebuilt (interp : Interpretation) (forest : st.Forest interp W)
    (defaults : ∀ e ∈ t.defaults, st.Accepts interp W e.2)
    (accepts : ∀ e ∈ supplied, st.Accepts interp W e.2) (texts : List (String × String)) :
    (t.rebuilt interp supplied texts).KeepsForest interp st.objects.size ∅ st W
      fun q _ W' => q ∈ W' := by
  rw [rebuilt]
  refine Action.maintains_mono (keepsForest_derive t (t.splice texts)
    (fun q _ _ => q = st.next) (Nat.le_refl _) forest fun u forest' => ?_) ?_
  · have size : (st.push (.ofBody (.template u))).objects.size = st.objects.size + 1 :=
      Store.size_push
    -- First come its own defaults that are left, then those of what was inserted.
    have own : ∀ e ∈ t.carriedOwn u.placeholders (supplied.map Prod.fst),
        (st.push (.ofBody (.template u))).Accepts interp (Insert.insert st.next W) e.2 :=
      fun e he => (defaults e (mem_carriedOwn.mp he).1).push _
    refine Action.maintains_bind Evolves.trans (keepsForest_storeAll (givesLoose_copy interp _)
      (Nat.le_of_eq size.symm) forest' (Set.mem_insert st.next W) (Nat.lt_succ_self _) own) ?_
    intro _ st₁ W₁ evolves₁ forest₁ _
    have theirs := keepsForest_carryFromAll interp u.placeholders
      (Nat.le_trans (Nat.le_of_eq size.symm) evolves₁.later.size_le) forest₁
      (evolves₁.le (Set.mem_insert st.next W)) (Nat.lt_succ_self _)
      fun e he => evolves₁.accepts ((accepts e he).push _)
    refine Action.maintains_bind Evolves.trans theirs fun _ st₂ W₂ _ forest₂ _ => ?_
    refine Action.keepsForest_bind_looks forest₂ (Action.looks_of_storeAfter rfl) fun _ _ => ?_
    exact Action.keepsForest_pure forest₂ rfl
  · rintro _ st' W' ⟨rfl, mem, -⟩
    exact mem

/-- Substituting gives a template of the forest. -/
theorem keepsForest_substitute (interp : Interpretation) (what : String)
    (forest : st.Forest interp W) (hr : r ∈ W) (supplies : st.Supplies values supplied)
    (accepts : ∀ e ∈ supplied, st.Accepts interp W e.2) :
    (substitute interp what r values).KeepsForest interp st.objects.size ∅ st W
      fun v _ W' => ∃ q ∈ W', v = .object q := by
  rcases forest.template? hr with ⟨t, held⟩
  rcases substitute_native interp what held supplies with ⟨result, store⟩
  have built : (t.substituteSupplied interp supplied).KeepsForest interp st.objects.size ∅ st W
      fun q _ W' => q ∈ W' := by
    refine Action.keepsForest_bind_looks forest
      (Action.looks_of_storeAfter Action.storeAfter_checked) fun _ _ => ?_
    refine Action.keepsForest_bind_looks forest
      (looks_inserted t fun e he => (accepts e he).leadsTo_template forest) fun pieces _ => ?_
    refine Action.keepsForest_bind_looks forest (looks_texts interp pieces) fun texts _ => ?_
    exact keepsForest_rebuilt interp forest (fun e he => forest.accepts hr held he) accepts texts
  rcases built with ⟨W', evolves, forest', holds⟩
  rw [Action.KeepsForest, Action.Maintains, store, result]
  refine ⟨W', evolves, forest', fun v given => ?_⟩
  cases gives : (t.substituteSupplied interp supplied).resultAt st with
  | error e =>
      rw [gives] at given
      cases given
  | ok q =>
      rw [gives] at given
      cases given
      exact ⟨q, holds q gives, rfl⟩

/-- Rendering adds objects at most. -/
theorem extends_render (interp : Interpretation) (what : String) (forest : st.Forest interp W)
    (hr : r ∈ W) (offered : Offers st values supplied)
    (accepts : ∀ e ∈ supplied, st.Accepts interp W e.2) :
    st.Extends ((render interp what r values).storeAfter st) :=
  (render_sealed interp forest.sealedOn what hr offered fun e he =>
    (accepts e he).leadsTo forest).1.adds

/-- Rendering safely adds objects at most. -/
theorem extends_safeRender (interp : Interpretation) (what : String)
    (forest : st.Forest interp W) (hr : r ∈ W) (offered : Offers st values supplied)
    (accepts : ∀ e ∈ supplied, st.Accepts interp W e.2) :
    st.Extends ((askSafeRender interp what r values).storeAfter st) := by
  rcases forest.template r hr with ⟨t, there, -⟩
  rw [storeAfter_askSafeRender what there]
  exact extends_render interp "this" forest hr offered accepts

end

end Template

namespace Exposed

variable {st : Store} {W : Set Ref}

/-- Making a template gives one of the forest. -/
theorem keepsForest_create (interp : Interpretation) (variant : Variant) (source : String)
    (options : Value) (forest : st.Forest interp W)
    (inside : Store.globalLogger.index < st.objects.size)
    (orderly : st.isOrderly Store.globalLogger = true) :
    (create interp variant (.text source) options).KeepsForest interp st.objects.size ∅ st W
      fun v _ W' => ∃ q ∈ W', v = .object q := by
  rcases create_cases interp variant source options inside orderly with
    ⟨st', u, grown, none, -, gives, leaves⟩ | ⟨e, fails, grown⟩
  · rcases forest.extends grown with ⟨first, forest'⟩
    rcases forest'.push none with ⟨second, forest''⟩
    rw [Action.KeepsForest, Action.Maintains, gives, leaves]
    refine ⟨insert st'.next W, first.trans second, forest'', fun v given => ?_⟩
    exact ⟨st'.next, Set.mem_insert _ _, (Except.ok.inj given).symm⟩
  · refine Action.keepsForest_of_extends forest grown fun v given => ?_
    rw [fails] at given
    cases given

end Exposed

end Stencil
