import Stencil.Proofs.IntactCopies
import Stencil.Proofs.Nesting

/-!
# Groupings

Templates that are put together by inserting, however they are grouped.

An expression of insertions is a tree: at its leaves there are templates, and each
node inserts what comes of one branch in what comes of the other. Running it creates
a template at every node, and only the last of them is of interest. What that one is
can be told from the tree alone. Its source has a cut that is made of the cuts at the
leaves, and under each of its names the tree says which of the defaults at the leaves
goes on.

The default itself is not what the template has in the end. At each node it is
copied, so it has become a copy of a copy, as often as there are nodes above it, and
that is where groupings differ. What these copies have in common with the default at
the leaf depends on what it is. So the relation between the two is a parameter, and
`Tracks` says what it takes: that it outlasts the growth of the store, and that it
carries over to one more copy. Copying also has to leave a store in which the next
template can be inserted, and this condition on stores is a parameter as well.

## Main definitions

* `Template.insertAt`: Inserting something in a template.
* `Component`: A template at an address, with its cut.
* `Grouping`, `Grouping.build`: Expressions of insertions, and running them.
* `Grouping.cut`, `Grouping.default?`, `Grouping.Passes`: What comes of a grouping.
* `Store.Begun`: A store in which a template is being made.
* `Tracks`: A relation between defaults and what has become of them.
* `MadeAs`: A template that has come of a grouping.
* `Grouping.Runs`: What running a grouping comes to.

## Theorems

* `Cut.graft_graft`, `Template.nest_nest`: Grafting is associative.
* `Tracks.yields_substitute`: Inserting one template.
* `Tracks.runs_insert`, `Tracks.runs`: Running a grouping.
-/

namespace Stencil

/-! ### Cuts in cuts in cuts -/

namespace Cut

variable {cuts more : String → Option Cut}

theorem prepend_prepend (front back : List Char) (c : Cut) :
    (c.prepend back).prepend front = c.prepend (front ++ back) := by
  cases c with
  | last l => rw [prepend, prepend, prepend, List.append_assoc]
  | placed l n rest => rw [prepend, prepend, prepend, List.append_assoc]

theorem append_prepend (front : List Char) (c d : Cut) :
    (c.prepend front).append d = (c.append d).prepend front := by
  cases c with
  | last l => rw [prepend, append, append, prepend_prepend]
  | placed l n rest => rw [prepend, append, append, prepend]

theorem append_assoc (c d e : Cut) : (c.append d).append e = c.append (d.append e) := by
  induction c with
  | last l => rw [append, append, append_prepend]
  | placed l n rest ih => rw [append, append, append, ih]

theorem graft_prepend (front : List Char) (c : Cut) :
    (c.prepend front).graft cuts = (c.graft cuts).prepend front := by
  cases c with
  | last l => rfl
  | placed l n rest =>
      rw [prepend, graft, graft]
      cases cuts n with
      | none => rw [prepend]
      | some d => rw [prepend_prepend]

theorem graft_append (c d : Cut) :
    (c.append d).graft cuts = (c.graft cuts).append (d.graft cuts) := by
  induction c with
  | last l => rw [append, graft_prepend, graft, append]
  | placed l n rest ih =>
      rw [append, graft, graft, ih]
      cases cuts n with
      | none => rw [append]
      | some d => rw [append_prepend, append_assoc]

/-- Putting cuts in the place of names twice is putting in their place what the second
    time makes of the first cuts, and cuts in the place of the names that were left. -/
theorem graft_graft (c : Cut) :
    (c.graft cuts).graft more = c.graft fun n => ((cuts n).map (graft more)).or (more n) := by
  induction c with
  | last l => rfl
  | placed l n rest ih =>
      rw [graft, graft]
      cases cuts n with
      | none => rw [graft, ih, Option.map_none, Option.none_or]
      | some d => rw [graft_prepend, graft_append, ih, Option.map_some, Option.some_or]

/-- Only what is put in the place of its names matters. -/
theorem graft_congr {c : Cut} (same : ∀ n ∈ c.names, cuts n = more n) :
    c.graft cuts = c.graft more := by
  induction c with
  | last l => rfl
  | placed l n rest ih =>
      have here := same n List.mem_cons_self
      rw [graft, graft, here, ih fun m hm => same m (List.mem_cons_of_mem n hm)]

end Cut

namespace Template

/-- A name of an inner cut that the outer one does not have can be filled before or
    after the inner cut is put in its place. -/
theorem nest_nest {c d e : Cut} {a b : String} (apart : b ∉ c.names) :
    nest (nest c a d) b e = nest c a (nest d b e) := by
  rw [nest, nest, nest, nest, Cut.graft_graft]
  refine Cut.graft_congr fun n hn => ?_
  have other : n ≠ b := fun same => apart (same ▸ hn)
  by_cases same : n = a
  · rw [if_pos same, if_pos same, Option.map_some, Option.some_or]
  · rw [if_neg same, if_neg same, if_neg other, Option.map_none, Option.none_or]

/-- Insert something in a template, as it is written by who holds both: an object that
    has it as its only entry is made and passed. -/
def insertAt (interp : Interpretation) (what : String) (r : Ref) (key : String) (v : Value) :
    Action Value := do
  let values ← Action.settling (.fresh (Object.plain [(key, v)]))
  substitute interp what r values

end Template

/-! ### Groupings -/

/-- A template at an address, with the cut of its source. -/
structure Component where
  ref : Ref
  template : Template
  cut : Cut
  cut_of : cut.Of template.source

theorem Component.source_eq (c : Component) : c.template.source = String.ofList c.cut.text := by
  rw [c.cut_of.text_eq, String.ofList_toList]

theorem Component.mem_placeholders_iff (c : Component) {n : String} :
    n ∈ c.template.placeholders ↔ n ∈ c.cut.names := by
  rw [Template.placeholders_eq c.cut_of, List.mem_eraseDups]

/-- Templates that are put together by inserting. -/
inductive Grouping where
  | single (c : Component)
  | insert (outer : Grouping) (key : String) (inner : Grouping)

namespace Grouping

section

variable (interp : Interpretation) (what : String)

/-- Put the templates together. First comes what is inserted into, then what is
    inserted. -/
def build : Grouping → Action Value
  | single c => pure (.object c.ref)
  | insert outer key inner => do
    let x ← outer.build
    let y ← inner.build
    match x with
    | .object r => Template.insertAt interp what r key y
    | _ => return x

end

/-- The cut of the source that is put together. -/
def cut : Grouping → Cut
  | single c => c.cut
  | insert outer key inner => Template.nest outer.cut key inner.cut

/-- The name of the template into which all others are inserted. -/
def name : Grouping → String
  | single c => c.template.name
  | insert outer _ _ => outer.name

/-- All defaults that there are. -/
def defaults : Grouping → List (String × Value)
  | single c => c.template.defaults
  | insert outer _ inner => outer.defaults ++ inner.defaults

/-- The default that goes on under a name: one of the outer template, unless the name
    is filled, and otherwise one of the inner template. -/
def default? : Grouping → String → Option Value
  | single c, name => c.template.defaults.lookup name
  | insert outer key inner, name =>
    if name ∈ (insert outer key inner).cut.names then
      (if name = key then none else outer.default? name).or (inner.default? name)
    else none

/-- A default is passed on somewhere: one of the outer template whose name is not filled,
    or one of the inner template, if the result has the name. -/
def Passes : Grouping → String → Value → Prop
  | single _, _, _ => False
  | insert outer key inner, name, v => outer.Passes name v ∨ inner.Passes name v
    ∨ name ∈ (insert outer key inner).cut.names
      ∧ (name ≠ key ∧ outer.default? name = some v ∨ inner.default? name = some v)

/-- All templates are there, each name that is filled is one, and nothing in the
    sources that are put together looks like a placeholder but those that it has. -/
def Sound (st : Store) : Grouping → Prop
  | single c => st.Known c.ref c.template
  | insert outer key inner => outer.Sound st ∧ inner.Sound st ∧ key ∈ outer.cut.names
    ∧ ∀ l ∈ (Template.nest outer.cut key inner.cut).literals, Bare l

variable {st st' : Store} {g : Grouping}

theorem Sound.extends (sound : g.Sound st) (intact : st.Intact) (h : st.Extends st') :
    g.Sound st' := by
  induction g with
  | single c =>
      exact sound.later intact.closed h
  | insert outer key inner ih ih' =>
      rcases sound with ⟨first, second, clean⟩
      exact ⟨ih first, ih' second, clean⟩

end Grouping

namespace Store

variable {st st' : Store} {r : Ref} {v : Value} {t : Template}

/-- A store stays intact if an object with one entry is added. -/
theorem Intact.push_entry (intact : st.Intact) (held : st.Holds v) (key : String) :
    (st.push (Object.plain [(key, v)])).Intact := by
  refine intact.push_family (fun q hq => ?_) rfl rfl
  have only : (Object.plain [(key, v)]).refs = (v.refs ++ []) ++ [] := rfl
  rw [only, List.append_nil, List.append_nil] at hq
  exact held q hq

/-- A store in which the next template is being made. -/
structure Begun (st mid : Store) : Prop where
  grown : st.Extends mid
  made : ∃ t, mid.get st.next = .ofBody (.template t)

theorem begun_push (st : Store) (t : Template) : st.Begun (st.push (.ofBody (.template t))) :=
  ⟨extends_push st _, t, get_push_next⟩

/-- It is given a default. -/
theorem Begun.put {mid : Store} (begun : st.Begun mid) (h : mid.Extends st') (key : String)
    (v : Value) : st.Begun (st'.putDefault st.next key v) := by
  rcases begun.made with ⟨t, made⟩
  have inside := index_lt_of_template? (template?_of_get made)
  have still := (h.get_eq _ inside).trans made
  refine ⟨(extendsBut_putDefault (template?_of_get still)).after (begun.grown.trans h)
    (Nat.le_refl _), { t with defaults := setDefaultValue key v t.defaults }, ?_⟩
  rw [get_putDefault_self (template?_of_get still), still]
  rfl

/-- The store stays intact if what it is given is there. -/
theorem Begun.put_grows {base mid : Store} {u : Template} {key : String} (begun : st.Begun mid)
    (grows : base.GrowsTo st) (copied : mid.GrowsTo st') (there : mid.template? st.next = some u)
    (held : st'.Holds v) : st.Begun (st'.putDefault st.next key v)
      ∧ base.GrowsTo (st'.putDefault st.next key v) := by
  have put := begun.put copied.grown key v
  exact ⟨put, grows.grown.trans put.grown,
    copied.intact.putDefault (copied.grown.template? there) held⟩

namespace GrowsTo

variable {base : Store} {key : String}

theorem push_entry (grows : base.GrowsTo st) (held : st.Holds v) :
    base.GrowsTo (st.push (Object.plain [(key, v)])) :=
  ⟨grows.grown.trans (extends_push _ _), grows.intact.push_entry held key⟩

theorem push_derived {u : Template} {source : String} (grows : base.GrowsTo st)
    (held : st.template? r = some t) (derived : u.IsDerived t source) :
    base.GrowsTo (st.push (Object.ofBody (.template u))) :=
  ⟨grows.grown.trans (extends_push _ _),
    grows.intact.push (Template.inside_of_derived grows.intact held derived)⟩

end GrowsTo

end Store

/-! ### Inserting one template -/

theorem rel_or {α β : Type} {R : α → β → Prop} {x x' : Option α} {y y' : Option β}
    (first : Option.Rel R x y) (second : Option.Rel R x' y') :
    Option.Rel R (x.or x') (y.or y') := by
  cases first with
  | some h => exact .some h
  | none => exact second

theorem rel_trans {α β γ : Type} {R : α → β → Prop} {S : β → γ → Prop} {T : α → γ → Prop}
    {x : Option α} {y : Option β} {z : Option γ}
    (imp : ∀ a b c, y = some b → R a b → S b c → T a c) (first : Option.Rel R x y)
    (second : Option.Rel S y z) : Option.Rel T x z := by
  cases first with
  | none =>
      cases second with
      | none => exact .none
  | some h =>
      cases second with
      | some h' => exact .some (imp _ _ _ rfl h h')

/-- What holds of defaults and of what has become of them goes on to hold while
    templates are inserted, and so does a condition on stores, in which templates are
    intact. Of what was copied at least once, more may hold. -/
structure Tracks (interp : Interpretation) (mayRaise : Prop) (good : Store → Prop)
    (rel made : Store → Value → Value → Prop) : Prop where
  intact : ∀ {st : Store}, good st → st.Intact
  entry : ∀ {st : Store} {key : String} {v : Value}, good st → st.Holds v →
    good (st.push (Object.plain [(key, v)]))
  derived : ∀ {st : Store} {r : Ref} {t u : Template} {source : String}, good st →
    st.template? r = some t → u.IsDerived t source →
    good (st.push (Object.ofBody (.template u)))
  later : ∀ {st st' : Store} {v w : Value}, rel st v w → st.Extends st' → rel st' v w
  copies : ∀ {st : Store} {v w : Value}, good st → st.Holds w → rel st v w →
    Template.CopiesWell interp mayRaise (fun mid => st.Begun mid ∧ good mid) st.next w
  copy : ∀ {st st' : Store} {v w x : Value}, good st → rel st v w →
    Template.IsCopy interp (fun mid => st.Begun mid ∧ good mid) st.next st' w x → made st' v x
  known : ∀ {st : Store} {v w : Value}, made st v w → rel st v w

/-- A value is a template for good, with a name and the cut of its source, and under each
    key it has what some default has become, if the key has one. -/
structure MadeAs (rel : Store → Value → Value → Prop) (name : String) (c : Cut)
    (default? : String → Option Value) (st : Store) (y : Value) (x : Template) : Prop where
  isInner : ∀ {st' : Store}, st.Extends st' → st'.inner? y = some x
  name : x.name = name
  cut : c.Of x.source
  orderly : x.Orderly
  defaults : ∀ k, Option.Rel (rel st) (default? k) (x.defaults.lookup k)

namespace Template

variable {st : Store} {t u : Template} {a k : String} {v : Value}

/-- The default that goes on when one template is inserted. -/
theorem carriedDefault?_single (isInner : st.inner? v = some u) :
    carriedDefault? st t [(a, v)] k
      = (if k = a then none else t.defaults.lookup k).or (u.defaults.lookup k) := by
  simp only [carriedDefault?, innerDefault?, List.map_cons, List.map_nil, List.mem_singleton,
    List.findSome?_cons, List.findSome?_nil, isInner, Option.bind_some]
  cases u.defaults.lookup k <;> rfl

theorem mem_placeholders_ofOccurrences (c : Cut) :
    k ∈ (Outline.ofOccurrences (c.occurrencesFrom 0)).placeholders ↔ k ∈ c.names := by
  rw [Outline.ofOccurrences, List.mem_eraseDups, Cut.names_occurrencesFrom]

end Template

namespace Action

variable {α : Type} {x : Action α} {st : Store} {post : α → Store → Prop} {raises : Thrown → Prop}

theorem exists_of_yields (h : x.Yields st post raises) (never : ∀ raised, ¬ raises raised) :
    ∃ a, x.resultAt st = .ok a ∧ post a (x.storeAfter st) := by
  unfold Yields at h
  cases gives : x.resultAt st with
  | error f =>
      rw [gives] at h
      rcases h with ⟨raised, -, raises⟩
      exact absurd raises (never raised)
  | ok a =>
      rw [gives] at h
      exact ⟨a, rfl, h⟩

/-- An object is made before the rest. -/
theorem yields_bind_settling {β : Type} {o : Object} {f : Value → Action β}
    {last : β → Store → Prop} (rest : (f (.object st.next)).Yields (st.push o) last raises) :
    (settling (.fresh o) >>= f).Yields st last raises :=
  rest

end Action

/-- Each default of a template that has come of a grouping was one of the grouping. -/
theorem MadeAs.origin {rel : Store → Value → Value → Prop} {name : String} {c : Cut}
    {default? : String → Option Value} {st : Store} {y : Value} {x : Template}
    (made : MadeAs rel name c default? st y x) {e : String × Value} (mem : e ∈ x.defaults) :
    ∃ v, default? e.1 = some v ∧ rel st v e.2 := by
  have related := made.defaults e.1
  rw [lookup_of_mem made.orderly.distinct mem] at related
  cases found : default? e.1 with
  | none =>
      rw [found] at related
      cases related
  | some v =>
      rw [found] at related
      cases related with
      | some h => exact ⟨v, rfl, h⟩

namespace Tracks

open Template

variable {interp : Interpretation} {mayRaise : Prop} {good : Store → Prop}
  {rel made : Store → Value → Value → Prop} {st : Store} {r : Ref} {t u : Template} {c d : Cut}
  {a : String} {v values : Value} {default? default'? : String → Option Value}

/-- What has become of some default is copied well. -/
theorem copiesWell (tracks : Tracks interp mayRaise good rel made) (fine : good st)
    (held : st.template? r = some t) (orderly : t.Orderly)
    (related : ∀ k, Option.Rel (rel st) (default? k) (t.defaults.lookup k)) :
    ∀ e ∈ t.defaults,
      CopiesWell interp mayRaise (fun mid => st.Begun mid ∧ good mid) st.next e.2 := by
  rintro ⟨k, w⟩ mem
  have here := related k
  rw [lookup_of_mem orderly.distinct mem] at here
  cases found : default? k with
  | none =>
      rw [found] at here
      cases here
  | some v =>
      rw [found] at here
      cases here with
      | some h => exact tracks.copies fine ((tracks.intact fine).closed.default held mem) h

section

variable (tracks : Tracks interp mayRaise good rel made) (fine : good st)
  (held : st.template? r = some t) (isInner : st.inner? v = some u)
  (supplies : st.Supplies values [(a, v)]) (orderly : t.Orderly) (orderly' : u.Orderly)
  (cut : c.Of t.source) (cut' : d.Of u.source) (bare : ∀ l ∈ (nest c a d).literals, Bare l)
  (outer : ∀ k, Option.Rel (rel st) (default? k) (t.defaults.lookup k))
  (inner : ∀ k, Option.Rel (rel st) (default'? k) (u.defaults.lookup k))

include tracks fine held isInner supplies orderly orderly' cut cut' bare outer inner

/-- Building the new template makes it of the two. -/
theorem ensures_rebuilt :
    (t.rebuilt interp [(a, v)] [(a, u.source)]).Ensures mayRaise st fun n st' =>
      st.Extends st' ∧ good st' ∧ ∃ x, MadeAs made t.name (nest c a d)
        (fun k => if k ∈ (nest c a d).names then
          (if k = a then none else default? k).or (default'? k) else none) st' (.object n) x := by
  have intact := tracks.intact fine
  have spliced := cut_splice_nest cut cut' bare
  rcases Store.object_of_inner? isInner with ⟨q, rfl, there⟩
  have theirs : ∀ e ∈ [(a, Value.object q)], ∀ x, st.inner? e.2 = some x → x = u := by
    intro e he x found
    rw [List.mem_singleton.mp he, isInner] at found
    exact (Option.some.inj found).symm
  have others := tracks.copiesWell fine there orderly' inner
  -- A good store stays good while the template is derived, and while it is given copies of
  -- what is tracked.
  refine Action.ensures_mono (receives_rebuilt intact supplies orderly
    (fun e he x found => theirs e he x found ▸ orderly') spliced.ofSource?_eq
    (fun mid (h : st.Begun mid ∧ good mid) => h.1.grown) (fun x derived => ⟨st.begun_push x,
      tracks.derived fine held derived⟩) (tracks.copiesWell fine held orderly outer)
    fun e he x found => theirs e he x found ▸ others) ?_
  rintro n st' ⟨rfl, x, derived, -, receives⟩
  have something : ∀ k w, carriedDefault? st t [(a, .object q)] k = some w →
      st.Holds w ∧ w ≠ .undefined := by
    intro k w found
    rcases mem_of_carriedDefault? found with own | ⟨e, he, x, isInner', default⟩
    · exact ⟨intact.closed.default held own, orderly.given _ own⟩
    · cases theirs e he x isInner'
      exact ⟨intact.closed.default there default, orderly'.given _ default⟩
  simp only [mem_placeholders_ofOccurrences] at receives
  rcases receives.orderly intact (fun _ h => h.1.grown) (fun k w found => by
    split at found
    · exact something k w found
    · cases found) with ⟨y, made, same, orderly'', copies⟩
  rcases receives.kept.1.made with ⟨y', made'⟩
  cases (Store.template?_of_get made').symm.trans made
  have inside := Store.index_lt_of_template? (Store.template?_of_get made')
  refine ⟨receives.kept.1.grown, receives.kept.2, y,
    fun h => Store.inner?_of_get ((h.get_eq _ inside).trans made'), ?_, ?_, orderly'', fun k => ?_⟩
  · rw [same]
    exact (congrArg Settings.name derived.settings).trans (derivedSettings_name t)
  · rw [same]
    exact derived.source_eq ▸ spliced
  · -- What is stored under a key is a copy of what is tracked under it.
    have here := copies k
    by_cases named : k ∈ (nest c a d).names
    · rw [if_pos named] at here ⊢
      have before : Option.Rel (rel st) ((if k = a then none else default? k).or (default'? k))
          (carriedDefault? st t [(a, .object q)] k) := by
        rw [carriedDefault?_single isInner]
        refine rel_or ?_ (inner k)
        by_cases filled : k = a
        · rw [if_pos filled, if_pos filled]
          exact .none
        · rw [if_neg filled, if_neg filled]
          exact outer k
      exact rel_trans (fun v w _ _ (h : rel st v w) copy => tracks.copy fine h copy) before here
    · rw [if_neg named] at here ⊢
      generalize y.defaults.lookup k = default at here
      cases here
      exact .none

/-- Inserting a template makes one of the two, or what copying a default raises is
    raised. -/
theorem yields_substitute (what : String) (mem : a ∈ c.names) :
    (substitute interp what r values).Yields st
      (fun y st' => st.Extends st' ∧ good st' ∧ ∃ x, MadeAs made t.name (nest c a d)
        (fun k => if k ∈ (nest c a d).names then
          (if k = a then none else default? k).or (default'? k) else none) st' y x)
      fun raised => mayRaise ∧ ∃ e, e.1 ∈ (nest c a d).names
        ∧ (e.1 ≠ a ∧ e ∈ t.defaults ∨ e ∈ u.defaults) ∧ CopyRaises interp st e.2 raised := by
  have declared : ∀ e ∈ [(a, v)], e.1 ∈ t.placeholders := by
    refine List.forall_mem_singleton.mpr ?_
    rw [placeholders_eq cut, List.mem_eraseDups]
    exact mem
  have ensures := tracks.ensures_rebuilt fine held isInner supplies orderly orderly' cut cut'
    bare outer inner
  have yields := yields_rebuilt interp (tracks.intact fine) held supplies
    (cut_splice_nest cut cut' bare).ofSource?_eq
  rcases substitute_eq what held supplies declared (inserts_inner interp t a isInner) with
    ⟨result, leaves⟩
  unfold Action.Yields at yields ⊢
  unfold Action.Ensures at ensures
  rw [result, leaves]
  -- What is made is told by the one fact, and what can be raised by the other.
  cases built : (t.rebuilt interp [(a, v)] [(a, u.source)]).resultAt st with
  | error f =>
      rw [built] at ensures yields
      rcases yields with ⟨raised, rfl, e, passes, raises⟩
      refine ⟨raised, rfl, ensures.1, e, ?_, ?_, raises⟩
      · cases passes with
        | own _ _ named => exact (mem_placeholders_ofOccurrences _).mp named
        | inner _ _ _ _ named => exact (mem_placeholders_ofOccurrences _).mp named
      · cases passes with
        | own default left => exact .inl ⟨fun same => left (List.mem_singleton.mpr same), default⟩
        | inner among isTemplate held' default =>
            rw [List.mem_singleton.mp among] at isTemplate
            rw [Store.inner?, isTemplate, Option.bind_some, held', Option.some.injEq] at isInner
            exact .inr (isInner ▸ default)
  | ok n =>
      rw [built] at ensures
      exact ensures

end

end Tracks

/-! ### Running a grouping -/

/-- A template that was made remains so while the store grows. -/
theorem MadeAs.later {rel : Store → Value → Value → Prop} {name : String} {c : Cut}
    {default? : String → Option Value} {st st' : Store} {y : Value} {x : Template}
    (made : MadeAs rel name c default? st y x) (h : st.Extends st')
    (later : ∀ v, ∀ e ∈ x.defaults, rel st v e.2 → rel st' v e.2) :
    MadeAs rel name c default? st' y x where
  isInner grown := made.isInner (h.trans grown)
  name := made.name
  cut := made.cut
  orderly := made.orderly
  defaults k := by
    refine rel_trans (S := Eq) (fun v w _ found related same => ?_) (made.defaults k) ?_
    · exact same ▸ later v _ (mem_of_lookup found) related
    · cases x.defaults.lookup k with
      | none => exact .none
      | some w => exact .some rfl

/-- What holds of copies can be told apart from what holds of all. -/
theorem MadeAs.mono {rel weaker : Store → Value → Value → Prop} {name : String} {c : Cut}
    {default? : String → Option Value} {st : Store} {y : Value} {x : Template}
    (made : MadeAs rel name c default? st y x) (imp : ∀ v w, rel st v w → weaker st v w) :
    MadeAs weaker name c default? st y x :=
  { made with defaults := fun k => rel_mono imp (made.defaults k) }

namespace Grouping

/-- What running a grouping comes to: a template as the grouping says, or something
    that was raised by copying what one of the defaults has become. -/
def Runs (interp : Interpretation) (what : String) (mayRaise : Prop) (good : Store → Prop)
    (rel made : Store → Value → Value → Prop) (st : Store) (g : Grouping) : Prop :=
  (g.build interp what).Yields st
    (fun y st' => st.Extends st' ∧ good st' ∧ ∃ x, MadeAs made g.name g.cut g.default? st' y x)
    fun raised => mayRaise ∧ ∃ name v, g.Passes name v ∧ ∃ st' w, rel st' v w
      ∧ Template.CopyRaises interp st' w raised

end Grouping

namespace Tracks

open Grouping Template

variable {interp : Interpretation} {mayRaise : Prop} {good : Store → Prop}
  {rel made : Store → Value → Value → Prop} {st : Store}

/-- Running two groupings and then inserting what comes of one in what comes of the
    other, so that all defaults are copies. -/
theorem runs_insert (tracks : Tracks interp mayRaise good rel made) (what : String)
    {outer inner : Grouping} {key : String}
    (first : ∀ {st : Store}, outer.Sound st → good st → (∀ e ∈ outer.defaults, rel st e.2 e.2) →
      outer.Runs interp what mayRaise good rel rel st)
    (second : ∀ {st : Store}, inner.Sound st → good st → (∀ e ∈ inner.defaults, rel st e.2 e.2) →
      inner.Runs interp what mayRaise good rel rel st)
    (sound : (insert outer key inner).Sound st) (fine : good st)
    (start : ∀ e ∈ (insert outer key inner).defaults, rel st e.2 e.2) :
    (insert outer key inner).Runs interp what mayRaise good rel made st := by
  rcases sound with ⟨sound, sound', mem, bare⟩
  have first := first sound fine fun e he => start e (List.mem_append_left _ he)
  refine Action.yields_bind (Action.yields_mono first (fun _ _ h => h) ?_) ?_
  · rintro raised ⟨may, name, v, passes, raises⟩
    exact ⟨may, name, v, .inl passes, raises⟩
  rintro x st₁ ⟨grown, fine₁, t, made⟩
  have second := second (sound'.extends (tracks.intact fine) grown) fine₁ fun e he =>
    tracks.later (start e (List.mem_append_right _ he)) grown
  refine Action.yields_bind (Action.yields_mono second (fun _ _ h => h) ?_) ?_
  · rintro raised ⟨may, name, v, passes, raises⟩
    exact ⟨may, name, v, .inr (.inl passes), raises⟩
  rintro y st₂ ⟨grown', fine₂, u, made'⟩
  -- The object that is passed is made before the template takes its turn.
  have isInner := made'.isInner (.refl st₂)
  have held := Store.holds_of_inner? isInner
  have pushed := Store.extends_push st₂ (Object.plain [(key, y)])
  have grown'' := grown'.trans pushed
  rcases Store.object_of_inner? (made.isInner (.refl _)) with ⟨r, rfl, there⟩
  rcases Store.object_of_inner? isInner with ⟨q, rfl, -⟩
  have outer' := made.later grown'' fun _ _ _ related => tracks.later related grown''
  have inner' := made'.later pushed fun _ _ _ related => tracks.later related pushed
  have passed : (st₂.push (Object.plain [(key, .object q)])).get st₂.next
      = Object.plain [(key, .object q)] := Store.get_push_next
  have supplies := Store.supplies_entry passed
  rw [if_neg nofun] at supplies
  have inserts := tracks.yields_substitute (tracks.entry fine₂ held) (grown''.template? there)
    (inner'.isInner (.refl _)) supplies outer'.orderly inner'.orderly outer'.cut inner'.cut bare
    outer'.defaults inner'.defaults what mem
  refine Action.yields_bind_settling (Action.yields_mono inserts ?_ ?_)
  · rintro z st₃ ⟨grown₃, fine₃, w, made''⟩
    exact ⟨(grown.trans grown'').trans grown₃, fine₃, w, made''.isInner,
      made''.name.trans outer'.name, made''.cut, made''.orderly, made''.defaults⟩
  · rintro raised ⟨may, e, named, among, raises⟩
    rcases among with ⟨other, mem⟩ | mem
    · rcases outer'.origin mem with ⟨v, found, related⟩
      exact ⟨may, e.1, v, .inr (.inr ⟨named, .inl ⟨other, found⟩⟩), _, e.2, related, raises⟩
    · rcases inner'.origin mem with ⟨v, found, related⟩
      exact ⟨may, e.1, v, .inr (.inr ⟨named, .inr found⟩), _, e.2, related, raises⟩

/-- Running any grouping. -/
theorem runs (tracks : Tracks interp mayRaise good rel made) (what : String) {g : Grouping}
    (sound : g.Sound st) (fine : good st) (start : ∀ e ∈ g.defaults, rel st e.2 e.2) :
    g.Runs interp what mayRaise good rel rel st := by
  induction g generalizing st with
  | single c =>
      have closed := (tracks.intact fine).closed
      refine ⟨.refl st, fine, c.template, fun h => (sound.later closed h).inner, rfl, c.cut_of,
        sound.orderly, fun k => ?_⟩
      rw [Grouping.default?]
      cases found : c.template.defaults.lookup k with
      | none => exact .none
      | some v => exact .some (start _ (mem_of_lookup found))
  | insert outer key inner ih ih' =>
      refine Action.yields_mono (tracks.runs_insert what ih ih' sound fine start) ?_ fun _ h => h
      rintro y st' ⟨grown, fine', x, h⟩
      exact ⟨grown, fine', x, h.mono fun _ _ => tracks.known⟩

end Tracks

end Stencil
