import Stencil.Proofs.DeepCopies
import Stencil.Proofs.Isolation

/-!
# Rendering Where Little Has Changed

What a template renders as is the same wherever what it leads to is.

Between two times a store can change a lot: there are new objects, templates
were given defaults, and callers wrote to what is theirs. A template renders as
before if it is itself the same, and so is everything that is kept. What is
supplied need not be at the same address. It is enough that it has the same
content each time, provided that serializers look at nothing else.

Whether rendering succeeds or not makes no difference here. A template that is
refused is refused for the same reason, so the outcomes are compared as a whole.

## Main definitions

* `Template.WritesContent`: Writing a value is up to its content.

## Theorems

* `Store.IsInput.of_alike`: What has the same content as plain data is plain data.
* `Template.rendered_unchanged`, `Template.render_unchanged`: Rendering gives the
  same wherever the templates that are reached are the same.
-/

namespace Stencil

namespace Object

/-- Plain data under other addresses is plain data. -/
theorem IsInput.rename {f : Ref → Ref} {o : Object} (input : o.IsInput) : (o.rename f).IsInput := by
  cases input with
  | record _ body plain data =>
      refine .record _ ?_ (isPlain_rename.trans plain) (data_rename data)
      rw [Object.rename, body]
      rfl
  | array elements integrity =>
      rw [rename_bare rfl]
      exact .array _ integrity
  | map entries integrity =>
      rw [rename_bare rfl]
      exact .map _ integrity
  | set elements integrity =>
      rw [rename_bare rfl]
      exact .set _ integrity
  | date instant integrity =>
      rw [rename_bare rfl]
      exact .date instant integrity

end Object

namespace Store

variable {st st' : Store} {v v' : Value} {S held kept : Set Ref} {r q : Ref}

/-- What has the same content as plain data is plain data. -/
theorem IsInput.of_alike (input : st.IsInput v) (alike : Alike st v st' v') : st'.IsInput v' := by
  rcases input with ⟨S, on, reached⟩
  rcases alike.image on.closed reached with ⟨S', reached', closed, inside, objects⟩
  refine ⟨S', ⟨fun r hr => ?_, closed, inside⟩, reached'⟩
  rcases objects r hr with ⟨f, p, hp, -, there⟩
  exact there ▸ (on.input p hp).rename

/-- A template leads to what is kept, and to the global logger. -/
theorem Guarded.reaches (guarded : st.Guarded held kept) (keeps : st.Keeps kept r)
    (logger : (st.get globalLogger).held = []) (reached : st.Reaches (.object r) q) :
    q = r ∨ q = globalLogger ∨ q ∈ kept := by
  have template : ∀ {p : Ref}, st.Keeps kept p → ∀ q ∈ (st.get p).held,
      q = globalLogger ∨ q ∈ kept := by
    rintro p ⟨t, there, root, defaults⟩ q hq
    rw [there] at hq
    rcases Object.mem_held.mp hq with _ | ⟨_, mem⟩
    · exact .inl root
    · rcases List.mem_map.mp mem with ⟨e, he, same⟩
      exact .inr (defaults e he q (same ▸ List.mem_cons_self))
  have start : ∀ q ∈ (Value.object r).refs, (st.get q).isFunction = false →
      q ∈ {q | q = r ∨ q = globalLogger ∨ q ∈ kept} :=
    fun q hq _ => .inl (List.mem_singleton.mp hq)
  -- A set that is closed under what objects hold contains all that is reached: the
  -- template, the logger that it reports to, and what is kept.
  refine reaches_of_closed start (fun p hp q hq _ => ?_) reached
  rcases hp with rfl | rfl | mem
  · exact .inr (template keeps q hq)
  · rw [logger] at hq
    cases hq
  · rcases guarded.kept p mem with nested | ⟨S, within, on, mem'⟩
    · exact .inr (template nested q hq)
    · exact .inr (.inr (within (on.closed p mem' q (Object.mem_refs_of_mem_held hq))))

/-- Plain data keeps its content where its objects stay. -/
theorem InputOn.alike (on : st.InputOn S) (reached : ∀ q ∈ v.refs, q ∈ S)
    (size_le : st.objects.size ≤ st'.objects.size) (same : ∀ r ∈ S, st'.get r = st.get r) :
    Alike st v st' v :=
  ⟨id, S, matches_id on.closed on.inside size_le same, reached, v.rename_id.symm⟩

end Store

namespace Template

open Store (Guarded Keeps SameEntry)

variable {interp : Interpretation} {st st' : Store} {held held' kept kept' free : Set Ref}
  {r q : Ref} {t : Template} {supplied supplied' : List (String × Value)}

/-- The text that is written for plain data, or the error, is up to the content
    alone, wherever nothing but some objects has changed. -/
def WritesContent (interp : Interpretation) (st : Store) (free : Set Ref) (t : Template) : Prop :=
  ∀ ⦃st' : Store⦄ ⦃key : String⦄ ⦃v v' : Value⦄, st.objects.size ≤ st'.objects.size →
    (∀ r, r.index < st.objects.size → r ∉ free → st'.get r = st.get r) →
    st.IsInput v → st.Alike v st' v' →
    (t.write interp key v').resultAt st' = (t.write interp key v).resultAt st

/-! ### One template -/

/-- What is there under a name, if the same is supplied: the same default, or
    values that were supplied under the name. -/
theorem valueFor?_same (same : List.Forall₂ (SameEntry st st') supplied supplied')
    (name : String) :
    t.valueFor? supplied name = none ∧ t.valueFor? supplied' name = none
      ∨ (∃ v, t.valueFor? supplied name = some v ∧ t.valueFor? supplied' name = some v
          ∧ (name, v) ∈ t.defaults)
      ∨ ∃ v v', t.valueFor? supplied name = some v ∧ t.valueFor? supplied' name = some v'
          ∧ (name, v) ∈ supplied ∧ st.Alike v st' v' := by
  rcases lookup_forall₂ (fun _ _ entry => entry.key) same name with
    ⟨absent, absent'⟩ | ⟨v, v', given, given', entry⟩
  · rw [valueFor?, valueFor?, absent, absent', Option.none_or]
    cases stored : t.defaults.lookup name with
    | none => exact .inl ⟨rfl, rfl⟩
    | some v => exact .inr (.inl ⟨v, rfl, rfl, mem_of_lookup stored⟩)
  · refine .inr (.inr ⟨v, v', ?_, ?_, mem_of_lookup given, entry.content⟩)
    · rw [valueFor?, given, Option.some_or]
    · rw [valueFor?, given', Option.some_or]

/-! ### Templates in templates -/

/-- Rendering gives the same, with any allowance, where the templates that are
    reached and what is kept are the same. -/
theorem rendered_unchanged (guarded : st.Guarded held kept)
    (size_le : st.objects.size ≤ st'.objects.size)
    (others : ∀ q, q.index < st.objects.size → q ∉ free → st'.get q = st.get q)
    (same : ∀ q ∈ kept, st'.get q = st.get q)
    (writes : ∀ q u, st.Reaches (.object r) q → st.template? q = some u →
      u.WritesContent interp st free) (n : Nat)
    (reached : st.Reaches (.object r) q) (keeps : st.Keeps kept q) (here : st'.get q = st.get q)
    (input : ∀ e ∈ supplied, st.IsInput e.2)
    (supplies : List.Forall₂ (SameEntry st st') supplied supplied') :
    rendered interp st' n q supplied' = rendered interp st n q supplied := by
  -- By induction on the allowance. Inside, nothing is supplied, so only the defaults
  -- matter there.
  induction n generalizing q supplied supplied' with
  | zero => rfl
  | succ n ih =>
      rcases keeps with ⟨t, there, -, defaults⟩
      have template := Store.template?_of_get there
      have template' : st'.template? q = some t := Store.template?_of_get (here.trans there)
      have content : ∀ {name : String} {v v' : Value}, st.IsInput v → st.Alike v st' v' →
          t.converted interp st' (fun inner => rendered interp st' n inner []) name v'
            = t.converted interp st (fun inner => rendered interp st n inner []) name v := by
        intro name v v' data alike
        rw [converted, converted, data.templateRef?_eq_none,
          (data.of_alike alike).templateRef?_eq_none]
        exact writes q t reached template size_le others data alike
      rw [rendered, rendered, template, template']
      refine filled_eq_of_same (by rw [Store.keys_eq_of_same supplies]) fun name _ => ?_
      rcases valueFor?_same (t := t) supplies name with
        absent | ⟨v, given, given', stored⟩ | ⟨v, v', given, given', mem, alike⟩
      · exact .inl absent
      · refine .inr ⟨v, v, given, given', ?_⟩
        -- Among the defaults there are templates and plain data, and all of it is kept.
        rcases guarded.stored (defaults _ stored) with
          ⟨S, within, on, reach⟩ | ⟨inner, mem, rfl, nested⟩
        · exact content ⟨S, on, reach⟩ (on.alike reach size_le fun p hp => same p (within hp))
        · have still : st'.Keeps kept inner := nested.of_same (same inner mem) (le_refl kept)
          have held : Value.object inner ∈ (st.get q).parts := by
            rw [there]
            exact List.mem_cons_of_mem _ (List.mem_map.mpr ⟨_, stored, rfl⟩)
          rw [converted, converted, nested.templateRef?, still.templateRef?]
          exact ih (.step reached held nested.isFunction) nested (same inner mem)
            (fun _ he => absurd he List.not_mem_nil) .nil
      · exact .inr ⟨v, v', given, given', content (input _ mem) alike⟩

/-- The outcome of rendering is the same where the templates that are reached and
    what is kept are the same, if the same is supplied. -/
theorem render_unchanged (guarded : st.Guarded held kept) (guarded' : st'.Guarded held' kept')
    (le : kept ⊆ kept') (size_le : st.objects.size ≤ st'.objects.size)
    (others : ∀ q, q.index < st.objects.size → q ∉ free → st'.get q = st.get q)
    (same : ∀ q ∈ kept, st'.get q = st.get q) (keeps : st.Keeps kept r)
    (here : st'.get r = st.get r)
    (writes : ∀ q u, st.Reaches (.object r) q → st.template? q = some u →
      u.WritesContent interp st free) (what : String) {values values' : Value}
    (offered : Offers st values supplied) (offered' : Offers st' values' supplied')
    (input : ∀ e ∈ supplied, st.IsInput e.2)
    (supplies : List.Forall₂ (SameEntry st st') supplied supplied') :
    (render interp what r values').resultAt st' = (render interp what r values).resultAt st := by
  have input' : ∀ e ∈ supplied', st'.IsInput e.2 := by
    intro e he
    rcases List.forall₂_iff_get.mp supplies with ⟨length, each⟩
    rcases List.mem_iff_getElem.mp he with ⟨i, inside, rfl⟩
    have entry := each i (length ▸ inside) inside
    exact (input _ (List.get_mem supplied ⟨i, length ▸ inside⟩)).of_alike entry.content
  have gives := (render_sealed interp (sealedOn_keeps guarded) what keeps offered
    fun e he => leadsTo_of_passes (.inl (input e he))).2
  have gives' := (render_sealed interp (sealedOn_keeps guarded') what
    (keeps.of_same here le) offered' fun e he => leadsTo_of_passes (.inl (input' e he))).2
  -- The later store may allow for more depth, which makes no difference.
  rw [gives, gives', rendered_unchanged guarded size_le others same writes _
    (.root rfl keeps.isFunction) keeps here input supplies,
    rendered_succ_of_size_le interp st size_le]

end Template

end Stencil
