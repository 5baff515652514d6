import Stencil.Proofs.Grafting
import Stencil.Proofs.StoredDefaults
import Stencil.Proofs.Stepwise

/-!
# Templates in Templates

Inserting a template for good, or only while rendering.

A template among the values of `render` is rendered by itself, with its own
defaults, and its text is put in. A template among the values of `substitute` is
put in as its source, so its placeholders become placeholders of the result, and
its defaults are copied for them. Then there is one list of defaults where there
were two, and one name can be found in the wrong one. `Nestable` asks that no
name is: whatever the inner template uses, apart from the name that it stands
for, the outer one does not use. That name is free again once the template is in
its place, so the inner template may use it.

The result has the cut of the outer source with the inner cut in it. What fills
it is the same, because under a name of either cut the result has a mirror of
the default that belongs there.

## Main definitions

* `Template.Ready`: A template that can be copied, with the cut of its source.
* `Template.nest`: A cut with another one in the place of a name.
* `Template.Nestable`: A template that can stand for a name in another one.
* `Template.passedOn`: The defaults that both templates pass on.
* `Template.IsNested`: What inserting a template leaves.

## Theorems

* `Template.fill_nest_iff`: Texts for the result are texts for both cuts.
* `Template.Nestable.lookup_outer`, `Template.Nestable.lookup_inner`: Which
  default belongs to a name.
* `Template.Nestable.ensures_substitute`: What inserting a template comes to.
* `Template.IsNested.render_iff`: Rendering what it leaves.
* `Template.insert_then_render`: All of this together.
-/

namespace Stencil

namespace Template

/-- A template that can be copied with all its defaults, and the cut of its
    source. -/
structure Ready (st : Store) (r : Ref) (t : Template) (c : Cut) : Prop where
  stands : st.Stands r t
  stored : ∀ e ∈ t.defaults, st.Stored e.2
  cut : c.Of t.source

/-- A cut with another one in the place of a name. -/
def nest (c : Cut) (a : String) (d : Cut) : Cut :=
  c.graft fun n => if n = a then some d else none

/-- A template that can stand for a name in another one: both write in the same
    way, depending on contents alone, the inner one keeps its margin, they share no
    name but the one that it stands for, and where it is put in, nothing but
    placeholders looks like one. -/
structure Nestable (interp : Interpretation) (st : Store) (r : Ref) (t : Template) (c : Cut)
    (a : String) (q : Ref) (u : Template) (d : Cut) : Prop where
  intact : st.Intact
  byContent : ∀ r t, st.template? r = some t → t.ByContent interp st
  outer : Ready st r t c
  inner : Ready st q u d
  declared : a ∈ t.placeholders
  serializer : u.serializer = t.serializer
  dedent : u.dedent = false
  apart : ∀ n, n ∈ u.placeholders ∨ n ∈ u.defaults.map Prod.fst → n ≠ a →
    n ∉ t.placeholders ∧ n ∉ t.defaults.map Prod.fst
  bare : ∀ l ∈ (nest c a d).literals, Bare l

variable {interp : Interpretation} {base st : Store} {r q : Ref} {t u w : Template} {c d : Cut}
  {a n : String}

theorem mem_names_nest (mem : a ∈ c.names) :
    n ∈ (nest c a d).names ↔ n ∈ c.names ∧ n ≠ a ∨ n ∈ d.names := by
  rw [nest, Cut.mem_names_graft]
  constructor
  · rintro (⟨outer, stays⟩ | ⟨m, outer, d', some, inner⟩)
    · exact .inl ⟨outer, fun same => by rw [if_pos same] at stays; cases stays⟩
    · by_cases same : m = a
      · rw [if_pos same, Option.some.injEq] at some
        exact .inr (some ▸ inner)
      · rw [if_neg same] at some
        cases some
  · rintro (⟨outer, other⟩ | inner)
    · exact .inl ⟨outer, if_neg other⟩
    · exact .inr ⟨a, mem, d, if_pos rfl, inner⟩

theorem fill_nest (texts : String → Option String) :
    (nest c a d).fill texts
      = c.fill fun n => if n = a then some (String.ofList (d.fill texts)) else texts n := by
  rw [nest, Cut.fill_graft]
  refine congrArg c.fill (funext fun n => ?_)
  by_cases same : n = a
  · rw [if_pos same, if_pos same, Option.map_some, Option.some_or]
  · rw [if_neg same, if_neg same, Option.map_none, Option.none_or]

/-- The source with a text in the place of a name has the text of a cut with the cut of
    that text there. -/
theorem splice_nest (cut : c.Of t.source) (d : Cut) :
    t.splice [(a, String.ofList d.text)] = String.ofList (nest c a d).text := by
  rw [splice_eq_fill_cut cut, nest, Cut.text_graft]
  refine congrArg (fun texts => String.ofList (c.fill texts)) (funext fun n => ?_)
  rw [List.lookup_cons, List.lookup_nil]
  by_cases here : n = a
  · rw [if_pos here, here, beq_self_eq_true, Option.map_some]
  · rw [if_neg here, beq_eq_false_iff_ne.mpr here, Option.map_none]

/-- The source with an inner source in the place of a name has the inner cut there, if
    the literals of the result are bare. -/
theorem cut_splice_nest (cut : c.Of t.source) (inner : d.Of u.source)
    (bare : ∀ l ∈ (nest c a d).literals, Bare l) : (nest c a d).Of (t.splice [(a, u.source)]) := by
  have proper : ∀ n d', (if n = a then some d else none) = some d' → d'.Proper := by
    intro n d' some
    by_cases same : n = a
    · rw [if_pos same, Option.some.injEq] at some
      exact some ▸ inner.toProper
    · rw [if_neg same] at some
      cases some
  -- Grafting gives the cut, and splicing gives its text.
  have grafted := cut.graft proper bare
  have source : String.ofList d.text = u.source := by
    rw [inner.text_eq, String.ofList_toList]
  rw [← source, splice_nest cut, nest, Cut.text_graft]
  exact grafted

/-- Texts for all names of the result are texts for all names of the outer cut,
    where the text of the inner cut comes from texts for its names. -/
theorem fill_nest_iff (inResult inOuter inInner : String → String → Prop) (mem : a ∈ c.names)
    (apart : ∀ n ∈ c.names, n ≠ a → n ∉ d.names)
    (outer : ∀ n ∈ c.names, n ≠ a → ∀ s, inResult n s ↔ inOuter n s)
    (inner : ∀ n ∈ d.names, ∀ s, inResult n s ↔ inInner n s)
    (self : ∀ s, inOuter a s ↔ ∃ text : String → String, (∀ n ∈ d.names, inInner n (text n))
      ∧ s = String.ofList (d.fill fun n => some (text n)))
    (finish : List Char → String) (s : String) :
    (∃ text : String → String, (∀ n ∈ (nest c a d).names, inResult n (text n))
        ∧ s = finish ((nest c a d).fill fun n => some (text n)))
      ↔ ∃ text : String → String, (∀ n ∈ c.names, inOuter n (text n))
        ∧ s = finish (c.fill fun n => some (text n)) := by
  simp only [mem_names_nest mem, fill_nest]
  constructor
  · rintro ⟨text, given, rfl⟩
    -- The name itself is filled with what the inner cut comes to.
    refine ⟨fun n => if n = a then String.ofList (d.fill fun n => some (text n)) else text n,
      fun n hn => ?_, ?_⟩
    · beta_reduce
      by_cases same : n = a
      · rw [if_pos same, same]
        exact (self _).mpr ⟨text, fun m hm => (inner m hm _).mp (given m (.inr hm)), rfl⟩
      · rw [if_neg same]
        exact (outer n hn same _).mp (given n (.inl ⟨hn, same⟩))
    · refine congrArg (fun texts => finish (c.fill texts)) (funext fun n => ?_)
      rw [apply_ite some]
  · rintro ⟨text, given, rfl⟩
    rcases (self _).mp (given a mem) with ⟨own, given', filled⟩
    -- A name of both cuts is the one that is filled, and there the inner text counts.
    refine ⟨fun n => if n ∈ d.names then own n else text n, fun n hn => ?_, ?_⟩
    · beta_reduce
      by_cases here : n ∈ d.names
      · rw [if_pos here]
        exact (inner n here _).mpr (given' n here)
      · rw [if_neg here]
        rcases hn with ⟨hn, other⟩ | hn
        · exact (outer n hn other _).mpr (given n hn)
        · exact absurd hn here
    · have same : (d.fill fun n => some (if n ∈ d.names then own n else text n))
          = d.fill fun n => some (own n) := by
        refine Cut.fill_congr fun n hn => ?_
        rw [if_pos hn]
      refine congrArg finish (Cut.fill_congr fun n hn => ?_)
      beta_reduce
      by_cases here : n = a
      · rw [if_pos here, here, filled, same]
      · rw [if_neg here, if_neg (apart n hn here)]

/-- The defaults that a template passes on to one with the given placeholders when
    another template is inserted in it, and those that the other one passes on. -/
def passedOn (t : Template) (a : String) (u : Template) (placeholders : List String) :
    List (String × Value) :=
  t.carriedOwn placeholders [a] ++ u.defaults.filter fun e => placeholders.contains e.1

/-- What inserting a template for a name leaves: a template in a later store that has
    the inner source in the outer one and mirrors of the defaults that both pass
    on. -/
structure IsNested (base : Store) (t : Template) (c : Cut) (a : String) (u : Template) (d : Cut)
    (st : Store) (x : Template) : Prop where
  intact : st.Intact
  grown : base.Extends st
  held : st.template? base.next = some x
  variant : x.variant = .prompt
  settings : x.settings = t.settings
  cut : (nest c a d).Of x.source
  mirrors : ∃ low, List.Forall₂ (base.MirrorsEntry low st) (t.passedOn a u x.placeholders)
    x.defaults

namespace Nestable

variable (nestable : Nestable interp base r t c a q u d)

include nestable

theorem mem_cut : a ∈ c.names := by
  have mem := nestable.declared
  rw [placeholders_eq nestable.outer.cut, List.mem_eraseDups] at mem
  exact mem

theorem outer_of_mem (mem : n ∈ c.names) : n ∈ t.placeholders := by
  rw [placeholders_eq nestable.outer.cut, List.mem_eraseDups]
  exact mem

theorem inner_of_mem (mem : n ∈ d.names) : n ∈ u.placeholders := by
  rw [placeholders_eq nestable.inner.cut, List.mem_eraseDups]
  exact mem

/-- The source with the inner source in it. -/
theorem cut_splice : (nest c a d).Of (t.splice [(a, u.source)]) :=
  cut_splice_nest nestable.outer.cut nestable.inner.cut nestable.bare

/-- Under a name of the outer template, its own default is passed on. -/
theorem lookup_outer {placeholders : List String} (mem : n ∈ t.placeholders) (other : n ≠ a)
    (kept : n ∈ placeholders) :
    (t.passedOn a u placeholders).lookup n = t.defaults.lookup n := by
  -- The own defaults come first, and the inner template has none under this name.
  have own : (t.carriedOwn placeholders [a]).lookup n = t.defaults.lookup n := by
    rw [lookup_carriedOwn, if_pos kept, if_neg fun filled => other (List.mem_singleton.mp filled)]
  have none : (u.defaults.filter fun e => placeholders.contains e.1).lookup n = none := by
    rw [lookup_eq_none_iff_keys]
    intro found
    have key : n ∈ u.defaults.map Prod.fst := (List.filter_sublist.map Prod.fst).subset found
    exact (nestable.apart n (.inr key) other).1 mem
  rw [passedOn, List.lookup_append, own, none, Option.or_none]

/-- Under a name of the inner template, the default of that one is passed on. -/
theorem lookup_inner {placeholders : List String} (mem : n ∈ u.placeholders)
    (kept : n ∈ placeholders) :
    (t.passedOn a u placeholders).lookup n = u.defaults.lookup n := by
  have none : (t.carriedOwn placeholders [a]).lookup n = none := by
    rw [lookup_carriedOwn, if_pos kept]
    by_cases same : n = a
    · -- The outer default for the name that was filled is dropped.
      rw [if_pos (List.mem_singleton.mpr same)]
    · rw [if_neg fun filled => same (List.mem_singleton.mp filled), lookup_eq_none_iff_keys]
      exact (nestable.apart n (.inl mem) same).2
  have inner : (u.defaults.filter fun e => placeholders.contains e.1).lookup n
      = u.defaults.lookup n := by
    refine lookup_filter_keys (p := fun key => placeholders.contains key) ?_
    exact List.contains_iff_mem.mpr kept
  rw [passedOn, List.lookup_append, none, Option.none_or, inner]

/-- The text of the inner template, in the outer one, is what its own defaults fill
    its cut with. -/
theorem converts_inner (s : String) :
    t.Converts interp base (.object q) s
      ↔ ∃ text : String → String,
        (∀ n ∈ d.names, ∃ v, u.valueFor? [] n = some v ∧ u.Converts interp base v (text n))
          ∧ s = String.ofList (d.fill fun n => some (text n)) := by
  have stands := nestable.inner.stands
  have finish : ∀ output, u.finish output = String.ofList output := by
    intro output
    rw [Template.finish, nestable.dedent]
    rfl
  have known : u.unknownKeys (([] : List (String × Value)).map Prod.fst) = [] := rfl
  rw [Converts, stands.known]
  simp only [render_eq_ok_iff "value" nestable.intact.untouched stands.held (.inr ⟨rfl, rfl⟩)
    nestable.inner.cut, finish, known, true_and]

/-- No default of the inner template is passed over in favour of an outer one. -/
theorem filter_inner (placeholders : List String) :
    (u.defaults.filter fun e => placeholders.contains e.1
        && !((t.carriedOwn placeholders [a]).map Prod.fst).contains e.1)
      = u.defaults.filter fun e => placeholders.contains e.1 := by
  refine List.filter_congr fun e he => ?_
  have absent : e.1 ∉ (t.carriedOwn placeholders [a]).map Prod.fst := by
    intro found
    rcases List.mem_map.mp found with ⟨f, hf, key⟩
    rcases mem_carriedOwn.mp hf with ⟨default, -, left⟩
    rw [key] at left
    have other : e.1 ≠ a := fun same => left (List.mem_singleton.mpr same)
    exact (nestable.apart e.1 (.inr (List.mem_map_of_mem he)) other).2
      (key ▸ List.mem_map_of_mem default)
  rw [List.contains_eq_mem _ (List.map _ _), decide_eq_false absent, Bool.not_false,
    Bool.and_true]

/-! ### Inserting -/

/-- The inner template passes its defaults on to a template that has those of the
    outer one. -/
theorem ensures_carryFromAll
    (given : base.Given base w (t.carriedOwn w.placeholders [a]) st) :
    (carryFromAll interp (carryFrom interp w.placeholders base.next)
        [(a, .object q)]).Ensures False st fun _ st' =>
      base.Given base w (t.passedOn a u w.placeholders) st' := by
  have stands := nestable.inner.stands
  have held : base.Holds (.object q) := by
    intro p hp
    rw [List.mem_singleton.mp hp]
    exact Store.index_lt_of_template? stands.held
  refine Action.ensures_bind_asking ?_
  rw [given.grown.templateRef?_eq nestable.intact.closed held, stands.known]
  rcases defaultsOf_eq interp (given.grown.template? stands.held) with ⟨read, kept⟩
  refine Action.ensures_bind_ok read ?_
  rw [kept]
  have carried := ensures_carryFrom interp w.placeholders nestable.intact nestable.inner.stored
    (.refl base) stands.distinct given
  rw [nestable.filter_inner] at carried
  exact Action.ensures_bind carried fun _ st' given => given

/-- With the inner source in the outer one, the new template has the defaults that
    both pass on. -/
theorem ensures_rebuilt :
    (t.rebuilt interp [(a, .object q)] [(a, u.source)]).Ensures False base fun next st' =>
      next = base.next ∧ ∃ w, w.IsDerived t (t.splice [(a, u.source)])
        ∧ base.Given base w (t.passedOn a u w.placeholders) st' := by
  have stands := nestable.outer.stands
  rcases derive_ok base t nestable.cut_splice.ofSource?_eq with ⟨w, derived, gives, added⟩
  -- The new template is derived from the outer one, and is given the defaults of both in
  -- turn.
  have fresh := Store.given_push base nestable.intact
    (inside_of_derived nestable.intact stands.held derived) derived.defaults
  have own : ∀ e ∈ t.carriedOwn w.placeholders [a],
      CopiesAs interp (copy interp) base e.2 ∧ e.2 ≠ .undefined := by
    intro e he
    have stored := nestable.outer.stored e (mem_carriedOwn.mp he).1
    exact ⟨copiesAs_stored nestable.intact stored, stored.given⟩
  have distinct : ((t.carriedOwn w.placeholders [a]).map Prod.fst).Nodup :=
    stands.distinct.sublist (List.filter_sublist.map Prod.fst)
  refine Action.ensures_bind_ok gives ?_
  rw [added]
  refine Action.ensures_bind (ensures_storeAll_stored own (.refl base) distinct fresh) ?_
  intro _ st' given
  refine Action.ensures_bind (nestable.ensures_carryFromAll given) ?_
  intro _ st'' given'
  exact ⟨rfl, w, derived, given'⟩

/-- Inserting a template gives one whose source is the outer one with the inner one
    in it, and whose defaults are those that both pass on. -/
theorem ensures_substitute (what : String) {values : Value}
    (supplies : base.Supplies values [(a, .object q)]) :
    (substitute interp what r values).Ensures False base fun v st' =>
      v = .object base.next ∧ ∃ x, IsNested base t c a u d st' x := by
  have stands := nestable.outer.stands
  have inserts : List.Forall₂ (t.Inserts interp base) [(a, .object q)] [(a, u.source)] := by
    refine .cons ⟨rfl, ?_⟩ .nil
    simp only [nestable.inner.stands.known]
    exact ⟨u, nestable.inner.stands.held, rfl⟩
  have known : ∀ e ∈ [(a, Value.object q)], e.1 ∈ t.placeholders :=
    List.forall_mem_singleton.mpr nestable.declared
  rcases Action.exists_of_ensures nestable.ensures_rebuilt with
    ⟨next, gives, rfl, w, derived, given⟩
  rcases substitute_eq what stands.held supplies known inserts with ⟨result, after⟩
  refine Action.ensures_of_ok (a := .object base.next) (by rw [result, gives]; rfl) ⟨rfl, ?_⟩
  rw [after]
  -- Defaults were stored in the meantime, but they are all that changed.
  rcases given.held with ⟨defaults, made, mirrors⟩
  have variant : w.variant = .prompt := by
    rw [derived.variant, derivedVariant, stands.variant]
  have settings : w.settings = t.settings := by
    rw [derived.settings, derivedSettings, stands.variant]
  have cut : (nest c a d).Of w.source := derived.source_eq ▸ nestable.cut_splice
  exact ⟨_, given.intact, given.grown, Store.template?_of_get made, variant, settings, cut, _,
    mirrors⟩

end Nestable

/-! ### Rendering -/

section

variable {rest all : List (String × Value)}

/-- Values for all names but the one that a template stands for, and the
    template. -/
structure Completes (a : String) (q : Ref) (rest all : List (String × Value)) : Prop where
  perm : all.Perm ((a, .object q) :: rest)
  distinct : (rest.map Prod.fst).Nodup
  other : a ∉ rest.map Prod.fst

theorem Completes.lookup_self (completes : Completes a q rest all) :
    all.lookup a = some (.object q) := by
  have distinct : (((a, Value.object q) :: rest).map Prod.fst).Nodup :=
    List.nodup_cons.mpr ⟨completes.other, completes.distinct⟩
  refine lookup_of_mem ((completes.perm.map Prod.fst).nodup_iff.mpr distinct) ?_
  exact completes.perm.mem_iff.mpr List.mem_cons_self

theorem Completes.lookup_other (completes : Completes a q rest all) (other : n ≠ a) :
    all.lookup n = rest.lookup n := by
  have distinct : (((a, Value.object q) :: rest).map Prod.fst).Nodup :=
    List.nodup_cons.mpr ⟨completes.other, completes.distinct⟩
  rw [lookup_eq_of_perm ((completes.perm.map Prod.fst).nodup_iff.mpr distinct) completes.perm,
    List.lookup_cons, beq_eq_false_iff_ne.mpr other]

namespace IsNested

variable {x : Template} (nested : IsNested base t c a u d st x)
  (nestable : Nestable interp base r t c a q u d)

include nested nestable

theorem serialize_eq (st : Store) (v : Value) :
    x.serialize interp st v = t.serialize interp st v :=
  serialize_congr (nested.variant.trans nestable.outer.stands.variant.symm)
    (congrArg Settings.serializer nested.settings) st v

theorem mem_placeholders :
    n ∈ x.placeholders ↔ n ∈ t.placeholders ∧ n ≠ a ∨ n ∈ u.placeholders := by
  rw [placeholders_eq nested.cut, placeholders_eq nestable.outer.cut,
    placeholders_eq nestable.inner.cut, List.mem_eraseDups, List.mem_eraseDups, List.mem_eraseDups,
    mem_names_nest nestable.mem_cut]

/-- Where the result has a default for a name, it has the texts of the one that was
    passed on. -/
theorem default_iff {entries : List (String × Value)}
    (same : (t.passedOn a u x.placeholders).lookup n = entries.lookup n) (s : String) :
    (∃ v, x.defaults.lookup n = some v ∧ x.Converts interp st v s)
      ↔ ∃ v, entries.lookup n = some v ∧ t.Converts interp base v s := by
  have byContent : t.ByContent interp base :=
    nestable.byContent r t nestable.outer.stands.held
  rcases nested.mirrors with ⟨low, mirrors⟩
  simp only [converts_congr (nested.serialize_eq nestable st), ← same]
  rcases lookup_forall₂ (fun _ _ first => first.key) mirrors n with
    ⟨none, none'⟩ | ⟨v, w, found, found', entry⟩
  · simp only [none, none', reduceCtorEq, false_and, exists_const]
  · simp only [found, found', Option.some.injEq, exists_eq_left']
    exact converts_mirrors nestable.intact nested.intact nested.grown nestable.byContent byContent
      entry.value s

/-- Under a name of the outer template, the values have the same texts. -/
theorem outer_iff (completes : Completes a q rest all) (inside : ∀ e ∈ rest, base.Holds e.2)
    (mem : n ∈ t.placeholders) (other : n ≠ a) (s : String) :
    (∃ v, x.valueFor? rest n = some v ∧ x.Converts interp st v s)
      ↔ ∃ v, t.valueFor? all n = some v ∧ t.Converts interp base v s := by
  have byContent : t.ByContent interp base :=
    nestable.byContent r t nestable.outer.stands.held
  have kept : n ∈ x.placeholders := (nested.mem_placeholders nestable).mpr (.inl ⟨mem, other⟩)
  simp only [valueFor?, completes.lookup_other other]
  -- What is supplied is the same value in both, while a default was copied.
  cases given : rest.lookup n with
  | some v =>
      have held := inside (n, v) (mem_of_lookup given)
      simp only [Option.some_or, Option.some.injEq, exists_eq_left',
        converts_congr (nested.serialize_eq nestable st)]
      exact converts_extends nestable.intact nested.intact nested.grown nestable.byContent
        byContent held s
  | none =>
      simp only [Option.none_or]
      exact nested.default_iff nestable (nestable.lookup_outer mem other kept) s

/-- Under a name of the inner template, the result has the texts that the inner
    template has by itself. -/
theorem inner_iff (absent : n ∉ rest.map Prod.fst) (mem : n ∈ u.placeholders) (s : String) :
    (∃ v, x.valueFor? rest n = some v ∧ x.Converts interp st v s)
      ↔ ∃ v, u.valueFor? [] n = some v ∧ u.Converts interp base v s := by
  have kept : n ∈ x.placeholders := (nested.mem_placeholders nestable).mpr (.inr mem)
  have serialize : ∀ v, u.serialize interp base v = t.serialize interp base v :=
    serialize_congr (nestable.inner.stands.variant.trans nestable.outer.stands.variant.symm)
      nestable.serializer base
  simp only [valueFor?, lookup_eq_none_iff_keys.mpr absent, List.lookup_nil, Option.none_or,
    converts_congr serialize]
  exact nested.default_iff nestable (nestable.lookup_inner mem kept) s

/-- Rendering the result gives a text if and only if the outer template gives it
    with the inner one in its place. -/
theorem render_iff (what what' : String) (completes : Completes a q rest all)
    (declared : ∀ e ∈ rest, e.1 ∈ t.placeholders) {remaining everything : Value}
    (offered : Offers base remaining rest) (held : base.Holds remaining)
    (offered' : Offers base everything all) (s : String) :
    (render interp what base.next remaining).resultAt st = .ok (.text s)
      ↔ (render interp what' r everything).resultAt base = .ok (.text s) := by
  have inside := offered.holds nestable.intact.closed
  have unknown : x.unknownKeys (rest.map Prod.fst) = [] := by
    refine unknownKeys_eq_nil fun e he => (nested.mem_placeholders nestable).mpr (.inl ?_)
    exact ⟨declared e he, fun same => completes.other (same ▸ List.mem_map_of_mem he)⟩
  have unknown' : t.unknownKeys (all.map Prod.fst) = [] := by
    refine unknownKeys_eq_nil fun e he => ?_
    rcases List.mem_cons.mp (completes.perm.mem_iff.mp he) with rfl | he
    · exact nestable.declared
    · exact declared e he
  -- Values are supplied for outer names only, and not for the one that is filled.
  have absent : ∀ n ∈ d.names, n ∉ rest.map Prod.fst := by
    intro n mem found
    rcases List.mem_map.mp found with ⟨e, he, rfl⟩
    have other : e.1 ≠ a := fun same => completes.other (same ▸ found)
    exact (nestable.apart e.1 (.inl (nestable.inner_of_mem mem)) other).1 (declared e he)
  have apart : ∀ n ∈ c.names, n ≠ a → n ∉ d.names := by
    intro n mem other inner
    exact (nestable.apart n (.inl (nestable.inner_of_mem inner)) other).1
      (nestable.outer_of_mem mem)
  rw [render_eq_ok_iff what nested.intact.untouched nested.held
      (offered.extends held nested.grown) nested.cut,
    render_eq_ok_iff what' nestable.intact.untouched nestable.outer.stands.held offered'
      nestable.outer.cut,
    finish_congr (congrArg Settings.dedent nested.settings)]
  refine and_congr (iff_of_true unknown unknown') (fill_nest_iff
    (fun n s => ∃ v, x.valueFor? rest n = some v ∧ x.Converts interp st v s)
    (fun n s => ∃ v, t.valueFor? all n = some v ∧ t.Converts interp base v s)
    (fun n s => ∃ v, u.valueFor? [] n = some v ∧ u.Converts interp base v s)
    nestable.mem_cut apart ?_ ?_ ?_ t.finish s)
  · intro n mem other
    exact nested.outer_iff nestable completes inside (nestable.outer_of_mem mem) other
  · intro n mem
    exact nested.inner_iff nestable (absent n mem) (nestable.inner_of_mem mem)
  · intro s
    simp only [valueFor?, completes.lookup_self, Option.some_or, Option.some.injEq,
      exists_eq_left', nestable.converts_inner]

end IsNested

end

section

private def frameCut : Cut :=
  .placed [] "a" (.placed ['-'] "b" (.last []))

private def inlayCut : Cut :=
  .placed ['<'] "a" (.placed ['|'] "c" (.last ['>']))

private def deepCut : Cut :=
  .placed [] "x" (.last ['!'])

private def frame : Template :=
  { ofCut "" frameCut (by decide) [("a", .text "dropped"), ("b", .text "B")] with
    serializer := some ⟨2⟩ }

private def inlay : Template :=
  { ofCut "" inlayCut (by decide) [("a", .text "own"), ("c", .object ⟨5⟩)] with
    serializer := some ⟨2⟩ }

private def deep : Template :=
  { ofCut "" deepCut (by decide) [("x", .text "deep")] with serializer := some ⟨2⟩ }

/-- A template, one that is to be put in it, and one that is a default of the
    latter. They write texts as they are. -/
private def frames : Store :=
  ⟨Store.initial.objects ++ #[Object.ofBody (.function (.routine .argument)),
    Object.ofBody (.template frame), Object.ofBody (.template inlay),
    Object.ofBody (.template deep), Object.plain [("a", .object ⟨4⟩)],
    Object.plain [("b", .text "y")], Object.plain [("b", .text "y"), ("a", .object ⟨4⟩)]]⟩

private theorem stored_text (s : String) : frames.Stored (.text s) :=
  .data (Store.isData_of_refs rfl) nofun

private theorem frame_nestable :
    Nestable .standard frames ⟨3⟩ frame frameCut "a" ⟨4⟩ inlay inlayCut where
  intact := by decide
  byContent := by
    intro r t held
    have inside := Store.index_lt_of_template? held
    have only : ∀ i < 9, ∀ t, frames.template? ⟨i⟩ = some t →
        t.variant = .prompt ∧ t.serializer = some ⟨2⟩ := by decide
    rcases only r.index inside t held with ⟨variant, serializer⟩
    exact byContent_of_argument variant serializer (by decide) rfl
  outer := by
    refine ⟨⟨by decide, rfl, rfl, by decide⟩, ?_, by decide, by decide⟩
    intro e he
    rcases List.mem_cons.mp he with rfl | he
    · exact stored_text _
    · rcases List.mem_singleton.mp he with rfl
      exact stored_text _
  inner := by
    refine ⟨⟨by decide, rfl, rfl, by decide⟩, ?_, by decide, by decide⟩
    intro e he
    rcases List.mem_cons.mp he with rfl | he
    · exact stored_text _
    · rcases List.mem_singleton.mp he with rfl
      refine .template (t := deep) ⟨by decide, rfl, rfl, by decide⟩ fun e he => ?_
      rcases List.mem_singleton.mp he with rfl
      exact stored_text _
  declared := by decide
  serializer := rfl
  dedent := rfl
  apart := by
    have names : ∀ n ∈ inlay.placeholders ++ inlay.defaults.map Prod.fst, n ≠ "a" →
        n ∉ frame.placeholders ∧ n ∉ frame.defaults.map Prod.fst := by decide
    exact fun n used => names n (List.mem_append.mpr used)
  bare := by decide

end

end Template

end Stencil
