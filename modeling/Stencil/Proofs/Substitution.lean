import Stencil.Proofs.Entries
import Stencil.Proofs.Rendering
import Stencil.Proofs.Storing
import Stencil.Routine
import Stencil.Template.Substitute

/-!
# Substitution

Which placeholders a template has after some of them were filled.

Substituting puts texts into the source and parses the result. Texts without a
`$` bring no placeholder along, and yet they can make one: the `$` that a
literal ends in may come to stand in front of a brace, which the text begins
with, or which follows where the text is empty. This is the only way in which
the placeholders of the new template can be others than those that were left.

## Main definitions

* `Template.Writes`: An entry is written as a text.
* `Template.Inserts`: An entry is inserted as a text, and a template as its source.

## Theorems

* `Store.Closed.supplied`: What a closed store supplies is in it.
* `Template.inserted_eq`, `Template.inserted_eq_error`: What supplied values are
  inserted as, and what inserting them fails with.
* `Template.substitute_eq`: Once all values have texts, what is left is building
  the new template.
* `Template.ensures_rebuilt`: What the new template comes to.
* `Template.occurrences_eq_iff_clear`: When the occurrences are those that were
  left.
* `Template.substitute_clear`: When the placeholders that are left are those of
  the new template.
-/

namespace Stencil

/-! ### What values refer to -/

namespace Object

theorem refs_of_mem_enumerable {o : Object} {e : String × Slot} (mem : e ∈ o.enumerable) {q : Ref}
    (hq : q ∈ e.2.refs) : q ∈ o.refs := by
  rcases List.mem_append.mp mem with element | field
  · rcases List.mem_filterMap.mp element with ⟨⟨slot, i⟩, there, same⟩
    rcases Option.bind_eq_some_iff.mp same with ⟨v, rfl, shown⟩
    rcases Option.ite_none_right_eq_some.mp shown with ⟨-, same⟩
    cases same
    exact List.mem_append_right _
      (refs_of_mem_indexed (List.fst_mem_of_mem_zipIdx there) hq)
  · rcases List.mem_filterMap.mp field with ⟨⟨name, property⟩, there, same⟩
    rcases List.mem_filterMap.mp there with ⟨⟨key, property'⟩, there, named⟩
    have slot : property'.slot = e.2 := by
      cases key with
      | symbol label => cases named
      | text k =>
          cases named
          have shown : (if property.enumerable = true then some (name, property.slot) else none)
              = some e := same
          rcases Option.ite_none_right_eq_some.mp shown with ⟨-, same⟩
          cases same
          rfl
    refine List.mem_append_left _ (List.mem_append_right _ ?_)
    exact List.mem_flatMap.mpr ⟨_, there, by rw [slot]; exact hq⟩

end Object

namespace Store

/-- What a closed store supplies is in it. -/
theorem Closed.supplied {st : Store} {values : Value} {supplied : List (String × Value)}
    (closed : st.Closed) (h : st.Supplies values supplied) : ∀ e ∈ supplied, st.Holds e.2 := by
  rcases h with ⟨r, rfl, holds, rfl⟩
  intro e mem q hq
  rcases List.mem_filterMap.mp (List.mem_filter.mp mem).1 with ⟨⟨name, slot⟩, there, same⟩
  rcases Option.map_eq_some_iff.mp same with ⟨v, value, rfl⟩
  have slotRefs : q ∈ slot.refs := by
    cases slot with
    | data w =>
        cases value
        exact hq
    | accessor getter setter => cases value
  have referred := Object.refs_of_mem_enumerable there slotRefs
  -- An address beyond the store refers to nothing.
  by_cases inside : r.index < st.objects.size
  · exact closed r inside q referred
  · rw [get_of_size_le (Nat.le_of_not_lt inside)] at referred
    cases referred

end Store

namespace Template

variable {interp : Interpretation} {st : Store}

/-! ### What is inserted -/

/-- The value of an entry is no template, and the serializer gives a text for it,
    which stands under the same key. -/
structure Writes (interp : Interpretation) (st : Store) (t : Template) (e : String × Value)
    (x : String × String) : Prop where
  key : e.1 = x.1
  simple : st.templateRef? e.2 = none
  text : t.serialize interp st e.2 = .ok (.existing (.text x.2))

/-- An entry is inserted as a text, which stands under the same key: a template as
    its source, and any other value as the text that the serializer gives. -/
structure Inserts (interp : Interpretation) (st : Store) (t : Template) (e : String × Value)
    (x : String × String) : Prop where
  key : e.1 = x.1
  text : match st.templateRef? e.2 with
    | some inner => ∃ u, st.template? inner = some u ∧ u.source = x.2
    | none => t.serialize interp st e.2 = .ok (.existing (.text x.2))

theorem Writes.inserts {t : Template} {e : String × Value} {x : String × String}
    (h : t.Writes interp st e x) : t.Inserts interp st e x := by
  refine ⟨h.key, ?_⟩
  rw [h.simple]
  exact h.text

section

variable {t : Template}

theorem inserts_of_writes {supplied : List (String × Value)} {texts : List (String × String)}
    (written : List.Forall₂ (t.Writes interp st) supplied texts) :
    List.Forall₂ (t.Inserts interp st) supplied texts :=
  written.imp fun _ _ h => h.inserts

/-- What a value is inserted as. Finding that out changes nothing. -/
theorem Inserts.piece_eq {e : String × Value} {x : String × String} (h : t.Inserts interp st e x) :
    (piece (sourceOf interp) (do return .text (← t.write interp e.1 e.2)) e.2).resultAt st
        = .ok (.text x.2)
      ∧ (piece (sourceOf interp) (do return .text (← t.write interp e.1 e.2)) e.2).storeAfter st
        = st := by
  have text := h.text
  rw [piece, Action.resultAt_bind_asking, Action.storeAfter_bind_asking]
  -- Both ways of inserting only look at the store.
  cases found : st.templateRef? e.2 with
  | some inner =>
      simp only [found] at text
      rcases text with ⟨u, held, same⟩
      rw [← same]
      constructor
      · simp only [sourceOf, Action.resultAt_bind_asking, held, Action.resultAt_pure]
      · simp only [sourceOf, Action.storeAfter_bind_asking, held, Action.storeAfter_pure]
  | none =>
      simp only [found] at text
      have write : (t.write interp e.1 e.2).resultAt st = .ok x.2 :=
        resultAt_write_eq_ok_iff.mpr text
      constructor
      · change (t.write interp e.1 e.2 >>= _).resultAt st = _
        rw [Action.resultAt_bind_ok write]
        rfl
      · change (t.write interp e.1 e.2 >>= _).storeAfter st = _
        rw [Action.storeAfter_bind_ok write, steady_write t e.1 e.2 _ write]
        rfl

/-- Supplied values are inserted as their texts, and nothing changes. -/
theorem inserted_eq {supplied : List (String × Value)} {texts : List (String × String)}
    (inserts : List.Forall₂ (t.Inserts interp st) supplied texts) :
    (inserted interp (fun key v => do return .text (← t.write interp key v)) supplied).resultAt st
        = .ok (texts.map fun x => (x.1, Value.text x.2))
      ∧ (inserted interp (fun key v => do return .text (← t.write interp key v))
        supplied).storeAfter st = st := by
  induction inserts with
  | nil => exact ⟨rfl, rfl⟩
  | @cons e x supplied texts first _ ih =>
      rcases e with ⟨key, v⟩
      rcases first.piece_eq with ⟨given, kept⟩
      rcases ih with ⟨rest, after⟩
      constructor
      · rw [inserted, Action.resultAt_bind_ok given, kept]
        rw [Action.resultAt_bind_ok rest, show key = x.1 from first.key]
        rfl
      · rw [inserted, Action.storeAfter_bind_ok given, kept]
        rw [Action.storeAfter_bind_ok rest, after]
        rfl

/-- The first value that cannot be written is what inserting fails with. -/
theorem inserted_eq_error {before after : List (String × Value)} {texts : List (String × String)}
    {key : String} {v : Value} {f : Failure}
    (inserts : List.Forall₂ (t.Inserts interp st) before texts)
    (simple : st.templateRef? v = none) (fails : (t.write interp key v).resultAt st = .error f) :
    (inserted interp (fun key v => do return .text (← t.write interp key v))
      (before ++ (key, v) :: after)).resultAt st = .error f := by
  induction inserts with
  | nil =>
      refine Action.resultAt_bind_error ?_
      rw [piece, Action.resultAt_bind_asking, simple]
      exact Action.resultAt_bind_error fails
  | @cons e x before texts first _ ih =>
      rcases e with ⟨name, w⟩
      rcases first.piece_eq with ⟨given, kept⟩
      rw [List.cons_append, inserted, Action.resultAt_bind_ok given, kept]
      exact Action.resultAt_bind_error ih

end

/-- Where no value is a template, no defaults are taken over from values. -/
theorem carryFromAll_eq {carry : List (Value × Value) → Action Unit}
    {supplied : List (String × Value)} (simple : ∀ e ∈ supplied, st.templateRef? e.2 = none) :
    (carryFromAll interp carry supplied).resultAt st = .ok ()
      ∧ (carryFromAll interp carry supplied).storeAfter st = st := by
  induction supplied with
  | nil => exact ⟨rfl, rfl⟩
  | cons e supplied ih =>
      rcases e with ⟨key, v⟩
      have first : st.templateRef? v = none := simple _ List.mem_cons_self
      rcases ih fun f hf => simple f (List.mem_cons_of_mem _ hf) with ⟨gives, keeps⟩
      constructor
      · rw [carryFromAll, Action.resultAt_bind_asking, first]
        exact gives
      · rw [carryFromAll, Action.storeAfter_bind_asking, first]
        exact keeps

/-! ### Substituting -/

section

variable {r : Ref} {t : Template} {values : Value} {supplied : List (String × Value)}
  {texts : List (String × String)}

theorem unknownKeys_eq_nil (known : ∀ e ∈ supplied, e.1 ∈ t.placeholders) :
    t.unknownKeys (supplied.map Prod.fst) = [] := by
  refine List.filter_eq_nil_iff.mpr fun key mem => ?_
  rcases List.mem_map.mp mem with ⟨e, there, rfl⟩
  simp only [List.contains_eq_mem, known e there, decide_true, Bool.not_true, Bool.false_eq_true,
    not_false_eq_true]

/-- The own defaults that are passed on are those that name a placeholder of the new
    template, and no key that is filled. -/
theorem mem_carriedOwn {t : Template} {placeholders keys : List String} {e : String × Value} :
    e ∈ t.carriedOwn placeholders keys
      ↔ e ∈ t.defaults ∧ e.1 ∈ placeholders ∧ e.1 ∉ keys := by
  rw [carriedOwn, List.mem_filter]
  simp only [List.contains_eq_mem, Bool.and_eq_true, decide_eq_true_eq, Bool.not_eq_true',
    decide_eq_false_iff_not]

theorem lookup_carriedOwn (t : Template) (placeholders keys : List String) (k : String) :
    (t.carriedOwn placeholders keys).lookup k
      = if k ∈ placeholders then (if k ∈ keys then none else t.defaults.lookup k) else none := by
  let passes : String → Bool := fun key => placeholders.contains key && !keys.contains key
  have passes_iff : passes k = true ↔ k ∈ placeholders ∧ k ∉ keys := by
    simp only [passes, List.contains_eq_mem, Bool.and_eq_true, decide_eq_true_eq,
      Bool.not_eq_true', decide_eq_false_iff_not]
  by_cases kept : passes k = true
  · rw [carriedOwn, lookup_filter_keys (p := passes) kept, if_pos (passes_iff.mp kept).1,
      if_neg (passes_iff.mp kept).2]
  · have absent : (t.carriedOwn placeholders keys).lookup k = none := by
      refine lookup_eq_none_iff_keys.mpr fun mem => ?_
      rcases List.mem_map.mp mem with ⟨e, he, rfl⟩
      exact kept (passes_iff.mpr (mem_carriedOwn.mp he).2)
    rw [absent]
    by_cases named : k ∈ placeholders
    · have filled := Classical.not_not.mp fun left => kept (passes_iff.mpr ⟨named, left⟩)
      rw [if_pos named, if_pos filled]
    · rw [if_neg named]

/-- The new template, given the texts that are put into the source. -/
def rebuilt (interp : Interpretation) (t : Template) (supplied : List (String × Value))
    (texts : List (String × String)) : Action Ref := do
  let keys := supplied.map Prod.fst
  let (made, next) ← t.derive (t.splice texts)
  storeAll interp (copy interp) next (t.carriedOwn made.placeholders keys)
  carryFromAll interp (carryFrom interp made.placeholders next) supplied
  t.report (substitutedNote keys) none
  return next

/-- Once all values have texts, what is left is building the new template. -/
theorem substituteSupplied_eq (known : ∀ e ∈ supplied, e.1 ∈ t.placeholders)
    (inserts : List.Forall₂ (t.Inserts interp st) supplied texts) :
    (t.substituteSupplied interp supplied).resultAt st
        = (t.rebuilt interp supplied texts).resultAt st
      ∧ (t.substituteSupplied interp supplied).storeAfter st
        = (t.rebuilt interp supplied texts).storeAfter st := by
  have known' := unknownKeys_eq_nil known
  rcases inserted_eq inserts with ⟨pieces, kept⟩
  rcases resultAt_texts interp st texts with ⟨texts', kept'⟩
  constructor
  · rw [substituteSupplied, resultAt_bind_checkKeys_known known', Action.resultAt_bind_ok pieces,
      kept, Action.resultAt_bind_ok texts', kept']
    rfl
  · rw [substituteSupplied, storeAfter_bind_checkKeys_known known',
      Action.storeAfter_bind_ok pieces, kept, Action.storeAfter_bind_ok texts', kept']
    rfl

/-- Substituting in a template that nobody has reached into. -/
theorem substitute_native (interp : Interpretation) (what : String) (held : st.template? r = some t)
    (supplies : st.Supplies values supplied) :
    (substitute interp what r values).resultAt st
        = ((t.substituteSupplied interp supplied).resultAt st).map Value.object
      ∧ (substitute interp what r values).storeAfter st
        = (t.substituteSupplied interp supplied).storeAfter st := by
  have given := Store.supplied_eq interp supplies
  constructor
  · rw [substitute, Action.resultAt_bind_asking, Store.isSealed_of_template? held, if_pos rfl,
      Action.resultAt_bind_ok (Action.resultAt_reading_ok given),
      Action.storeAfter_reading_ok given, Action.resultAt_bind_asking, held]
    change (t.substituteSupplied interp supplied >>= _).resultAt st = _
    cases h : (t.substituteSupplied interp supplied).resultAt st with
    | error e => rw [Action.resultAt_bind_error h]; rfl
    | ok next => rw [Action.resultAt_bind_ok h]; rfl
  · rw [substitute, Action.storeAfter_bind_asking, Store.isSealed_of_template? held, if_pos rfl,
      Action.storeAfter_bind_ok (Action.resultAt_reading_ok given),
      Action.storeAfter_reading_ok given, Action.storeAfter_bind_asking, held]
    change (t.substituteSupplied interp supplied >>= _).storeAfter st = _
    cases h : (t.substituteSupplied interp supplied).resultAt st with
    | error e => rw [Action.storeAfter_bind_error h]
    | ok next => rw [Action.storeAfter_bind_ok h]; rfl

/-- Substituting values that are all inserted as texts. -/
theorem substitute_eq (what : String) (held : st.template? r = some t)
    (supplies : st.Supplies values supplied) (known : ∀ e ∈ supplied, e.1 ∈ t.placeholders)
    (inserts : List.Forall₂ (t.Inserts interp st) supplied texts) :
    (substitute interp what r values).resultAt st
        = ((t.rebuilt interp supplied texts).resultAt st).map Value.object
      ∧ (substitute interp what r values).storeAfter st
        = (t.rebuilt interp supplied texts).storeAfter st := by
  rcases substituteSupplied_eq known inserts with ⟨gives, leaves⟩
  rw [← gives, ← leaves]
  exact substitute_native interp what held supplies

/-- A new source that does not parse is refused. -/
theorem resultAt_rebuilt_malformed {m : Malformed}
    (fails : Outline.ofSource? (t.splice texts) = .error m) :
    (t.rebuilt interp supplied texts).resultAt st
      = .error (.template (.malformed m t.derivedSettings.name)) :=
  Action.resultAt_bind_error (derive_malformed st t fails).1

/-- Where the new source parses, the new template is derived and given those
    defaults that are passed on. -/
theorem ensures_rebuilt {mayRaise : Prop} {mid : Store → Prop} (closed : st.Closed)
    (supplies : st.Supplies values supplied)
    (written : List.Forall₂ (t.Writes interp st) supplied texts) {outline : Outline}
    (parses : Outline.ofSource? (t.splice texts) = .ok outline)
    (storing : ∀ u : Template, u.IsDerived t (t.splice texts) →
      (storeAll interp (copy interp) st.next
        (t.carriedOwn u.placeholders (supplied.map Prod.fst))).Ensures mayRaise
        (st.push (Object.ofBody (.template u))) fun _ st' => st.Extends st' ∧ mid st') :
    (t.rebuilt interp supplied texts).Ensures mayRaise st fun next st' =>
      next = st.next ∧ st.Extends st' ∧ mid st' := by
  rcases derive_ok st t parses with ⟨u, derived, given, added⟩
  have simple : ∀ e ∈ supplied, st.templateRef? e.2 = none := by
    intro e mem
    rcases List.forall₂_iff_get.mp written with ⟨_, each⟩
    rcases List.getElem_of_mem mem with ⟨i, inside, rfl⟩
    exact (each i inside (by omega)).simple
  have held := closed.supplied supplies
  refine Action.ensures_bind_ok given ?_
  rw [added]
  refine Action.ensures_bind (storing u derived) fun _ st' stored => ?_
  rcases stored with ⟨grown, stored⟩
  -- Storing defaults has added objects, but none of them makes a value a template.
  have simple' : ∀ e ∈ supplied, st'.templateRef? e.2 = none := fun e mem => by
    rw [grown.templateRef?_eq closed (held e mem), simple e mem]
  rcases carryFromAll_eq simple' with ⟨gives, keeps⟩
  refine Action.ensures_bind_ok gives ?_
  rw [keeps]
  exact ⟨rfl, grown, stored⟩

theorem keys_eq (written : List.Forall₂ (t.Writes interp st) supplied texts) :
    texts.map Prod.fst = supplied.map Prod.fst :=
  (keys_forall₂ (fun _ _ first => first.key) written).symm

/-- The names that are left are those that are not among the keys. -/
theorem names_subst_lookup (c : Cut) (texts : List (String × String)) :
    (c.subst (texts.lookup ·)).names = c.names.filter fun n => n ∉ texts.map Prod.fst := by
  rw [Cut.names_subst]
  refine List.filter_congr fun n _ => ?_
  rw [Bool.eq_iff_iff, Option.isNone_iff_eq_none, lookup_eq_none_iff_keys, decide_eq_true_iff]

theorem mem_names_subst_lookup {c : Cut} {n : String} :
    n ∈ (c.subst (texts.lookup ·)).names ↔ n ∈ c.names ∧ n ∉ texts.map Prod.fst := by
  rw [names_subst_lookup, List.mem_filter, decide_eq_true_iff]

/-- Where the new source parses, substituting gives a template with that source.
    It fails only if some default is passed on. -/
theorem ensures_rebuilt_source (intact : st.Intact) (held : st.template? r = some t)
    (supplies : st.Supplies values supplied)
    (written : List.Forall₂ (t.Writes interp st) supplied texts) {outline : Outline}
    (parses : Outline.ofSource? (t.splice texts) = .ok outline) :
    (t.rebuilt interp supplied texts).Ensures
      (∃ e ∈ t.defaults, e.1 ∈ outline.placeholders ∧ e.1 ∉ supplied.map Prod.fst) st
      fun next st' => next = st.next ∧ st.Extends st'
        ∧ ∃ u, st'.template? st.next = some u ∧ u.source = t.splice texts := by
  refine ensures_rebuilt intact.closed supplies written parses fun u derived => ?_
  have pushed := Store.extends_push st (Object.ofBody (.template u))
  have placeholders : u.placeholders = outline.placeholders := by
    rw [Template.placeholders, derived.outline_eq parses]
  refine Action.ensures_restrict (Action.ensures_mono (ensures_storeAll intact (ensures_copy intact)
    ?_ pushed (Nat.le_refl _) (Store.template?_push_next st u)) fun _ st' stored => ?_) ?_
  · intro e mem
    exact intact.closed.default held (mem_carriedOwn.mp mem).1
  · rcases stored with ⟨changed, defaults, there⟩
    exact ⟨changed.after pushed (Nat.le_refl _), _, there, derived.source_eq⟩
  · intro e fails
    cases carried : t.carriedOwn u.placeholders (supplied.map Prod.fst) with
    | nil =>
        rw [carried] at fails
        cases fails
    | cons d more =>
        have mem : d ∈ t.carriedOwn u.placeholders (supplied.map Prod.fst) := by
          rw [carried]
          exact List.mem_cons_self
        rcases mem_carriedOwn.mp mem with ⟨default, named, left⟩
        exact ⟨d, default, placeholders ▸ named, left⟩

/-- Where the new source parses, substituting gives a template with that source,
    unless a default that is passed on cannot be copied. -/
theorem substitute_of_parses (what : String) (intact : st.Intact) (held : st.template? r = some t)
    (supplies : st.Supplies values supplied) (known : ∀ e ∈ supplied, e.1 ∈ t.placeholders)
    (written : List.Forall₂ (t.Writes interp st) supplied texts) {outline : Outline}
    (parses : Outline.ofSource? (t.splice texts) = .ok outline) :
    (∃ u, (substitute interp what r values).resultAt st = .ok (.object st.next)
        ∧ ((substitute interp what r values).storeAfter st).template? st.next = some u
        ∧ u.source = t.splice texts)
      ∨ (∃ e ∈ t.defaults, e.1 ∈ outline.placeholders ∧ e.1 ∉ supplied.map Prod.fst)
        ∧ ∃ raised, (substitute interp what r values).resultAt st = .error (.thrown raised) := by
  rcases substitute_eq what held supplies known (inserts_of_writes written) with ⟨gives, leaves⟩
  have ensured := ensures_rebuilt_source intact held supplies written parses
  rw [Action.Ensures] at ensured
  cases built : (t.rebuilt interp supplied texts).resultAt st with
  | error e =>
      rw [built] at ensured
      rcases ensured with ⟨passed, raised, rfl⟩
      refine .inr ⟨passed, raised, ?_⟩
      rw [gives, built]
      rfl
  | ok next =>
      rw [built] at ensured
      rcases ensured with ⟨rfl, -, u, there, same⟩
      refine .inl ⟨u, ?_, leaves ▸ there, same⟩
      rw [gives, built]
      rfl

/-- A new source that does not parse is refused, whatever the values are. -/
theorem substitute_of_malformed (what : String) (held : st.template? r = some t)
    (supplies : st.Supplies values supplied) (known : ∀ e ∈ supplied, e.1 ∈ t.placeholders)
    (written : List.Forall₂ (t.Writes interp st) supplied texts) {m : Malformed}
    (fails : Outline.ofSource? (t.splice texts) = .error m) :
    (substitute interp what r values).resultAt st
      = .error (.template (.malformed m t.derivedSettings.name)) := by
  rw [(substitute_eq what held supplies known (inserts_of_writes written)).1,
    resultAt_rebuilt_malformed fails]
  rfl

/-- The occurrences of the new template are those that were left if and only if
    no `$` comes to stand in front of a brace. -/
theorem occurrences_eq_iff_clear {c : Cut} (hc : c.Of t.source)
    (free : ∀ x ∈ texts, '$' ∉ x.2.toList) {u : Template} (same : u.source = t.splice texts) :
    u.outline.occurrences = (c.subst (texts.lookup ·)).occurrencesFrom 0
      ↔ c.Clear (texts.lookup ·) := by
  have bare_iff : (∀ l ∈ (c.subst (texts.lookup ·)).literals, Bare l) ↔ c.Clear (texts.lookup ·) :=
    Cut.bare_subst_iff hc.bare fun n _ s found => free (n, s) (mem_of_lookup found)
  rw [← bare_iff, ← parses_fill_iff hc, ← splice_eq_fill_cut hc, ← same, u.parses, Except.ok.injEq]
  -- An outline is determined by its occurrences.
  rcases u.exists_cut with ⟨d, -, outline_eq⟩
  rw [outline_eq]
  constructor
  · intro places
    exact congrArg Outline.ofOccurrences places
  · intro outlines
    exact congrArg Outline.occurrences outlines

/-- Substituting texts without a `$` leaves exactly the placeholders that were
    not filled, unless the `$` at the end of a literal comes to stand in front of
    a brace; then it never does. Where a default that is passed on cannot be
    copied, what that raises is raised, and no template error in any case. -/
theorem substitute_clear (what : String) (intact : st.Intact) (held : st.template? r = some t)
    (supplies : st.Supplies values supplied) (known : ∀ e ∈ supplied, e.1 ∈ t.placeholders)
    (written : List.Forall₂ (t.Writes interp st) supplied texts)
    (free : ∀ x ∈ texts, '$' ∉ x.2.toList) {c : Cut} (hc : c.Of t.source) :
    let keys := supplied.map Prod.fst
    let left := c.subst (texts.lookup ·)
    let result := (substitute interp what r values).resultAt st
    let after := (substitute interp what r values).storeAfter st
    (c.Clear (texts.lookup ·) →
        (∃ u, result = .ok (.object st.next) ∧ after.template? st.next = some u
          ∧ u.placeholders = t.placeholders.filter (· ∉ keys)
          ∧ u.outline.occurrences = left.occurrencesFrom 0
          ∧ left.names = c.names.filter (· ∉ keys))
        ∨ (∃ e ∈ t.defaults, e.1 ∈ t.placeholders ∧ e.1 ∉ keys)
          ∧ ∃ raised, result = .error (.thrown raised))
      ∧ (¬ c.Clear (texts.lookup ·) → ∀ v, result = .ok v →
          ∃ u, v = .object st.next ∧ after.template? st.next = some u
            ∧ u.outline.occurrences ≠ left.occurrencesFrom 0) := by
  intro keys left result after
  have names : left.names = c.names.filter (· ∉ keys) := by
    rw [names_subst_lookup, keys_eq written]
  -- A text without a `$` is bare, so only the seams between literals and texts matter.
  have bare_iff : (∀ l ∈ left.literals, Bare l) ↔ c.Clear (texts.lookup ·) :=
    Cut.bare_subst_iff hc.bare fun n _ s found => free (n, s) (mem_of_lookup found)
  constructor
  · intro clear
    have proper : left.Of (t.splice texts) :=
      splice_eq_fill_cut hc texts ▸ hc.subst (bare_iff.mpr clear)
    rcases substitute_of_parses what intact held supplies known written proper.ofSource?_eq with
      ⟨u, gives, there, same⟩ | ⟨⟨d, default, named, absent⟩, raised, fails⟩
    · refine .inl ⟨u, gives, there, ?_, (occurrences_eq_iff_clear hc free same).mpr clear, names⟩
      rw [placeholders_eq (same ▸ proper), names, eraseDups_filter, placeholders_eq hc]
    · refine .inr ⟨⟨d, default, ?_, absent⟩, raised, fails⟩
      rw [Outline.ofOccurrences, Cut.names_occurrencesFrom, List.mem_eraseDups, names] at named
      rw [placeholders_eq hc, List.mem_eraseDups]
      exact (List.mem_filter.mp named).1
  · intro clash v given
    -- What clashes can still parse, and then a placeholder has come about that was not left.
    cases parses : Outline.ofSource? (t.splice texts) with
    | error m =>
        have fails : result = _ := substitute_of_malformed what held supplies known written parses
        rw [given] at fails
        cases fails
    | ok outline =>
        rcases substitute_of_parses what intact held supplies known written parses with
          ⟨u, gives, there, same⟩ | ⟨-, raised, fails⟩
        · refine ⟨u, Except.ok.inj (given.symm.trans gives), there, fun occurrences => clash ?_⟩
          exact (occurrences_eq_iff_clear hc free same).mp occurrences
        · cases given.symm.trans fails

end

section

/-- A price and its repetition, with a default for one of the two names. -/
private def quoted : Template :=
  ofCut "" (.placed ['$'] "a" (.placed ['-'] "b" (.placed [] "a" (.last [])))) (by decide)
    [("a", .text "1")]

/-- A price alone. -/
private def priced : Template :=
  ofCut "" (.placed ['$'] "a" (.last [])) (by decide) []

/-- Both templates, and a value for each. -/
private def pricing : Store :=
  ⟨Store.initial.objects ++ #[Object.ofBody (.template quoted), Object.ofBody (.template priced),
    Object.plain [("a", .text "x\x7b")], Object.plain [("a", .text "\x7bb\x7d")]]⟩

/-- A `$` in front of a text that does not begin with a brace. -/
theorem substitute_clear_of_price :
    let interp := Interpretation.standard
    let st := pricing
    let result := (substitute interp "this" ⟨2⟩ (.object ⟨4⟩)).resultAt st
    let after := (substitute interp "this" ⟨2⟩ (.object ⟨4⟩)).storeAfter st
    st.Intact ∧ st.template? ⟨2⟩ = some quoted ∧ st.Supplies (.object ⟨4⟩) [("a", .text "x\x7b")]
      ∧ "a" ∈ quoted.placeholders
      ∧ List.Forall₂ (quoted.Writes interp st) [("a", .text "x\x7b")] [("a", "x\x7b")]
      ∧ '$' ∉ "x\x7b".toList
      ∧ ∃ u, result = .ok (.object ⟨6⟩) ∧ after.template? ⟨6⟩ = some u
        ∧ u.placeholders = ["b"] := by
  intro interp st result after
  have intact : st.Intact := by decide
  have supplies : st.Supplies (.object ⟨4⟩) [("a", .text "x\x7b")] := by decide
  have known : "a" ∈ quoted.placeholders := by decide
  have written : List.Forall₂ (quoted.Writes interp st) [("a", .text "x\x7b")] [("a", "x\x7b")] :=
    .cons ⟨rfl, rfl, rfl⟩ .nil
  have free : '$' ∉ "x\x7b".toList := by decide
  have held : st.template? ⟨2⟩ = some quoted := rfl
  refine ⟨intact, held, supplies, known, written, free, ?_⟩
  have cut : (Cut.placed ['$'] "a" (.placed ['-'] "b" (.placed [] "a" (.last [])))).Of
      quoted.source := ⟨by decide, by decide⟩
  rcases (substitute_clear "this" intact held supplies (List.forall_mem_singleton.mpr known) written
    (List.forall_mem_singleton.mpr free) cut).1 (by decide) with given | ⟨⟨e, mem, -, other⟩, -⟩
  · rcases given with ⟨u, gives, there, placeholders, -⟩
    exact ⟨u, gives, there, placeholders⟩
  · rcases List.mem_singleton.mp mem with rfl
    exact absurd List.mem_cons_self other

/-- A `$` in front of a text in braces becomes a placeholder that nobody left. -/
theorem substitute_brings_placeholder :
    let interp := Interpretation.standard
    let st := pricing
    let result := (substitute interp "this" ⟨3⟩ (.object ⟨5⟩)).resultAt st
    let after := (substitute interp "this" ⟨3⟩ (.object ⟨5⟩)).storeAfter st
    st.Intact ∧ st.template? ⟨3⟩ = some priced
      ∧ st.Supplies (.object ⟨5⟩) [("a", .text "\x7bb\x7d")] ∧ "a" ∈ priced.placeholders
      ∧ List.Forall₂ (priced.Writes interp st) [("a", .text "\x7bb\x7d")] [("a", "\x7bb\x7d")]
      ∧ '$' ∉ "\x7bb\x7d".toList
      ∧ result = .ok (.object ⟨6⟩) ∧ (after.template? ⟨6⟩).map placeholders = some ["b"]
      ∧ priced.placeholders.filter (· ∉ ["a"]) = [] := by
  refine ⟨by decide, rfl, by decide, by decide, .cons ⟨rfl, rfl, rfl⟩ .nil, by decide, ?_, ?_,
    by decide⟩
  · decide +kernel
  · decide +kernel

end

end Template

end Stencil
