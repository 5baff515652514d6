import Stencil.Proofs.CleanSubstitution
import Stencil.Proofs.DurableDefaults
import Stencil.Proofs.Grouping
import Stencil.Template.Methods

/-!
# Regrouping Insertions

Inserting templates in templates is associative, as far as copying is.

Of three templates, the second one can be inserted in the first one and the third one in
what came of that, or the third one in the second one and what came of that in the
first one. The sources that come of both are the same if nothing but the placeholders
of the three begins as one, and so templates that are made in these ways are equal.

Defaults go on in the same way, if no template has one for a name that it does not have:
then the first template that has a default for a name is the first one in either
grouping. But they are copied on the way, once in one grouping and twice in the other.
Copying may raise something, and it may make something else each time. What is in the
end under a name is an heir of one and the same default, and more than that can be said
of durable ones only: two heirs are twins.

## Main definitions

* `Store.Heir`, `Store.Stems`: What has become of a value by copying it.
* `Chain`: Three templates that can be inserted in one another.
* `Grouping.outward`, `Grouping.inward`: The two groupings.
* `Grouping.Gives`: What comes of a grouping, seen from later on.
* `SameDefaults`: Two templates have heirs of the same defaults.

## Theorems

* `Store.Heir.echoes`: Heirs of durable values.
* `tracks_stems`, `tracks_durable`: Following defaults through insertions.
* `Chain.default?_inward`: The same defaults go on in both groupings.
* `insertion_assoc`: Inserting is associative.
* `insertion_not_assoc`: Where copying is in the way.
-/

namespace Stencil

open Template

/-! ### Heirs -/

/-- What has become of a value by copying it for new templates, once or several times. -/
inductive Store.Heir (interp : Interpretation) (base : Store) (v : Value) : Store → Value → Prop
  | copy {st st' : Store} {x : Value} (grown : base.Extends st) (intact : st.Intact)
      (copy : IsCopy interp st.Begun st.next st' v x) : Heir interp base v st' x
  | again {st st' : Store} {w x : Value} (heir : Heir interp base v st w) (intact : st.Intact)
      (copy : IsCopy interp st.Begun st.next st' w x) : Heir interp base v st' x
  | later {st st' : Store} {w : Value} (heir : Heir interp base v st w) (h : st.Extends st') :
      Heir interp base v st' w

/-- A value, or what has become of it. -/
def Store.Stems (interp : Interpretation) (base st : Store) (v w : Value) : Prop :=
  base.Extends st ∧ w = v ∨ base.Heir interp v st w

section

variable {interp : Interpretation} {base st st' : Store} {v w x : Value}

/-- A copy of a durable value is an echo of it. -/
theorem Template.IsCopy.echoes (copy : IsCopy interp st.Begun st.next st' w x)
    (intact : base.Intact) (durable : base.Durable w) (grown : base.Extends st) :
    base.Extends st' ∧ base.Echoes 0 st' w x := by
  rcases copy with ⟨mid, begun, gives, since⟩
  rcases begun.made with ⟨t, made⟩
  have inside := Store.index_lt_of_template? (Store.template?_of_get made)
  have before := grown.trans begun.grown
  have copies : EchoesAs interp (Template.copy interp) base w := echoesAs_copy intact durable
  rcases Action.exists_of_ensures (copies before) with ⟨a, gives', -, copied, echoes⟩
  cases gives.symm.trans gives'
  have after := since.after (before.trans copied) grown.size_le
  have still := copied.template? (Store.template?_of_get made)
  exact ⟨after, (echoes.extendsBut inside after still since).later (Nat.zero_le _) after (.refl _)⟩

namespace Store

/-- What has become of a durable value is an echo of it. -/
theorem Heir.echoes (heir : base.Heir interp v st w) (intact : base.Intact)
    (durable : base.Durable v) : base.Extends st ∧ base.Echoes 0 st v w := by
  induction heir with
  | copy grown _ copy => exact copy.echoes intact durable grown
  | again _ intact' copy ih =>
      rcases ih with ⟨grown, echoes⟩
      rcases copy.echoes intact' echoes.durable (.refl _) with ⟨grown', echoes'⟩
      exact ⟨grown.trans grown', echoes.trans echoes' intact'⟩
  | later _ h ih => exact ⟨ih.1.trans h, ih.2.later (Nat.le_refl _) ih.1 h⟩

namespace Stems

theorem later (stems : base.Stems interp st v w) (h : st.Extends st') :
    base.Stems interp st' v w := by
  rcases stems with ⟨grown, same⟩ | heir
  · exact .inl ⟨grown.trans h, same⟩
  · exact .inr (heir.later h)

theorem copy (stems : base.Stems interp st v w) (intact : st.Intact)
    (copy : IsCopy interp st.Begun st.next st' w x) : base.Heir interp v st' x := by
  rcases stems with ⟨grown, rfl⟩ | heir
  · exact .copy grown intact copy
  · exact .again heir intact copy

/-- What has become of a durable value is durable. -/
theorem durable (stems : base.Stems interp st v w) (intact : base.Intact)
    (durable : base.Durable v) : st.Durable w := by
  rcases stems with ⟨grown, rfl⟩ | heir
  · exact durable.later intact grown
  · exact (heir.echoes intact durable).2.durable

end Stems

end Store

/-- Defaults can be followed through insertions, whatever they are. -/
theorem tracks_stems (fits : interp.Fits base) :
    Tracks interp True base.GrowsTo (base.Stems interp) fun st v w => base.Heir interp v st w where
  intact grows := grows.intact
  entry grows held := grows.push_entry held
  derived grows held derived := grows.push_derived held derived
  later stems h := stems.later h
  copies grows held _ := by
    rintro mid u ⟨begun, grows'⟩ there
    refine Action.ensures_mono (ensures_copied_intact fits (staysIntact_copy fits) grows'
      (held.extends begun.grown)) ?_
    rintro w st' ⟨copied, inside⟩
    exact ⟨copied.grown, fun key => begun.put_grows grows copied there inside⟩
  copy grows stems copy := stems.copy grows.intact (copy.mono fun _ h => h.1)
  known heir := .inr heir

/-- Durable defaults can be followed without anything being raised. -/
theorem tracks_durable (interp : Interpretation) {base : Store} (intact : base.Intact) :
    Tracks interp False base.GrowsTo (fun st v w => base.Durable v ∧ base.Stems interp st v w)
      fun st v w => base.Durable v ∧ base.Heir interp v st w where
  intact grows := grows.intact
  entry grows held := grows.push_entry held
  derived grows held derived := grows.push_derived held derived
  later stems h := ⟨stems.1, stems.2.later h⟩
  copies grows _ stems := by
    rintro mid u ⟨begun, grows'⟩ there
    have durable := stems.2.durable intact stems.1
    refine Action.ensures_mono (echoesAs_copy grows.intact durable begun.grown) ?_
    rintro w st' ⟨keeps, copied, echoes⟩
    have grew : mid.GrowsTo st' := ⟨copied, keeps grows'.intact⟩
    exact ⟨copied, fun key => begun.put_grows grows grew there echoes.holds⟩
  copy grows stems copy := ⟨stems.1, stems.2.copy grows.intact (copy.mono fun _ h => h.1)⟩
  known heir := ⟨heir.1, .inr heir.2⟩

end

/-! ### Two groupings of three templates -/

section

variable {a : String} {c d : Cut} {t : Template} (cut : c.Of t.source) (mem : a ∈ c.names)
  (named : ∀ n ∈ d.names, isName n.toList = true)

include cut mem named

theorem Template.named_nest : ∀ n ∈ (nest c a d).names, isName n.toList = true := by
  intro n hn
  rcases (mem_names_nest mem).mp hn with ⟨outer, -⟩ | inner
  · exact cut.named n outer
  · exact named n inner

/-- Where the source of a cut is put in the place of a name, nothing but placeholders begins
    as one if and only if the literals of the result are bare. -/
theorem Template.opensOnlyAt_splice_iff :
    OpensOnlyAt (t.splice [(a, String.ofList d.text)]) ((nest c a d).occurrencesFrom 0)
      ↔ ∀ l ∈ (nest c a d).literals, Bare l := by
  rw [splice_nest cut]
  exact Cut.opensOnlyAt_iff (named_nest cut mem named)

end

/-- Three templates, each of which has a name for the next one. Where one source is put
    in the place of a name in another one, nothing but the placeholders of the three
    begins as one. -/
structure Chain (st : Store) (t : Component) (a : String) (u : Component) (b : String)
    (w : Component) : Prop where
  outer : st.Known t.ref t.template
  middle : st.Known u.ref u.template
  inner : st.Known w.ref w.template
  declared : a ∈ t.template.placeholders
  declared' : b ∈ u.template.placeholders
  apart : b ∉ t.template.placeholders
  opens_outer : OpensOnlyAt (t.template.splice [(a, u.template.source)])
    ((nest t.cut a u.cut).occurrencesFrom 0)
  opens_inner : OpensOnlyAt (u.template.splice [(b, w.template.source)])
    ((nest u.cut b w.cut).occurrencesFrom 0)
  opens : OpensOnlyAt (t.template.splice [(a, u.template.splice [(b, w.template.source)])])
    ((nest t.cut a (nest u.cut b w.cut)).occurrencesFrom 0)

namespace Grouping

/-- The second template is inserted in the first one, and then the third one in what came
    of that. -/
def outward (t : Component) (a : String) (u : Component) (b : String) (w : Component) : Grouping :=
  .insert (.insert (.single t) a (.single u)) b (.single w)

/-- The third template is inserted in the second one, and then what came of that in the
    first one. -/
def inward (t : Component) (a : String) (u : Component) (b : String) (w : Component) : Grouping :=
  .insert (.single t) a (.insert (.single u) b (.single w))

/-- A grouping was built from a store on, and there was this value in the end. -/
def Gives (interp : Interpretation) (what : String) (st : Store) (g : Grouping) (y : Value)
    (last : Store) : Prop :=
  ∃ mid, st.GrowsTo mid ∧ (g.build interp what).resultAt mid = .ok y
    ∧ ((g.build interp what).storeAfter mid).Extends last

variable {st : Store} {t u w : Component} {a b k : String}

theorem cut_inward (apart : b ∉ t.cut.names) :
    (inward t a u b w).cut = (outward t a u b w).cut :=
  (nest_nest apart).symm

/-- The default that goes on is in either template, if both have defaults for their own
    names only. -/
theorem default?_insert {outer inner : Grouping} {key : String} (mem : key ∈ outer.cut.names)
    (own : outer.default? k ≠ none → k ∈ outer.cut.names)
    (own' : inner.default? k ≠ none → k ∈ inner.cut.names) :
    (insert outer key inner).default? k
      = (if k = key then none else outer.default? k).or (inner.default? k) := by
  rw [default?]
  by_cases named : k ∈ (insert outer key inner).cut.names
  · rw [if_pos named]
  · rw [if_neg named]
    rw [cut, mem_names_nest mem, not_or, not_and'] at named
    have second : inner.default? k = none := by_contra fun some => named.2 (own' some)
    rw [second, Option.or_none]
    by_cases filled : k = key
    · rw [if_pos filled]
    · rw [if_neg filled]
      exact (by_contra fun some => named.1 filled (own some)).symm

end Grouping

namespace Chain

open Grouping

variable {st : Store} {t u w : Component} {a b k : String}

theorem mem_outer (chain : Chain st t a u b w) : a ∈ t.cut.names :=
  t.mem_placeholders_iff.mp chain.declared

theorem mem_middle (chain : Chain st t a u b w) : b ∈ u.cut.names :=
  u.mem_placeholders_iff.mp chain.declared'

theorem not_mem_outer (chain : Chain st t a u b w) : b ∉ t.cut.names :=
  fun mem => chain.apart (t.mem_placeholders_iff.mpr mem)

/-- Where sources are put in the place of names, nothing but placeholders begins as one if
    the literals of the cuts are bare. -/
theorem of_bare (outer : st.Known t.ref t.template) (middle : st.Known u.ref u.template)
    (inner : st.Known w.ref w.template) (mem : a ∈ t.cut.names) (mem' : b ∈ u.cut.names)
    (apart : b ∉ t.cut.names) (bare_outer : ∀ l ∈ (nest t.cut a u.cut).literals, Bare l)
    (bare_inner : ∀ l ∈ (nest u.cut b w.cut).literals, Bare l)
    (bare : ∀ l ∈ (nest t.cut a (nest u.cut b w.cut)).literals, Bare l) :
    Chain st t a u b w where
  outer := outer
  middle := middle
  inner := inner
  declared := t.mem_placeholders_iff.mpr mem
  declared' := u.mem_placeholders_iff.mpr mem'
  apart declared := apart (t.mem_placeholders_iff.mp declared)
  opens_outer := by
    rw [u.source_eq]
    exact (opensOnlyAt_splice_iff t.cut_of mem u.cut_of.named).mpr bare_outer
  opens_inner := by
    rw [w.source_eq]
    exact (opensOnlyAt_splice_iff u.cut_of mem' w.cut_of.named).mpr bare_inner
  opens := by
    rw [w.source_eq, splice_nest u.cut_of]
    exact (opensOnlyAt_splice_iff t.cut_of mem (named_nest u.cut_of mem' w.cut_of.named)).mpr bare

theorem bare_outer (chain : Chain st t a u b w) :
    ∀ l ∈ (nest t.cut a u.cut).literals, Bare l :=
  (opensOnlyAt_splice_iff t.cut_of chain.mem_outer u.cut_of.named).mp
    (u.source_eq ▸ chain.opens_outer)

theorem bare_inner (chain : Chain st t a u b w) :
    ∀ l ∈ (nest u.cut b w.cut).literals, Bare l :=
  (opensOnlyAt_splice_iff u.cut_of chain.mem_middle w.cut_of.named).mp
    (w.source_eq ▸ chain.opens_inner)

theorem bare (chain : Chain st t a u b w) :
    ∀ l ∈ (nest t.cut a (nest u.cut b w.cut)).literals, Bare l := by
  have opens := chain.opens
  rw [w.source_eq, splice_nest u.cut_of] at opens
  have named := named_nest u.cut_of chain.mem_middle w.cut_of.named
  exact (opensOnlyAt_splice_iff t.cut_of chain.mem_outer named).mp opens

theorem sound_outward (chain : Chain st t a u b w) : (outward t a u b w).Sound st := by
  refine ⟨⟨chain.outer, chain.middle, chain.mem_outer, chain.bare_outer⟩, chain.inner,
    (mem_names_nest chain.mem_outer).mpr (.inr chain.mem_middle), ?_⟩
  rw [cut, cut, cut, nest_nest chain.not_mem_outer]
  exact chain.bare

theorem sound_inward (chain : Chain st t a u b w) : (inward t a u b w).Sound st :=
  ⟨chain.outer, ⟨chain.middle, chain.inner, chain.mem_middle, chain.bare_inner⟩, chain.mem_outer,
    chain.bare⟩

/-- If templates have defaults for their own names only, the same default goes on in both
    groupings. -/
theorem default?_inward (chain : Chain st t a u b w)
    (own : ∀ c, c = t ∨ c = u ∨ c = w → ∀ e ∈ c.template.defaults, e.1 ∈ c.template.placeholders)
    (k : String) : (inward t a u b w).default? k = (outward t a u b w).default? k := by
  have named : ∀ c, c = t ∨ c = u ∨ c = w → (single c).default? k ≠ none →
      k ∈ (single c).cut.names := by
    intro c among some
    rcases Option.ne_none_iff_exists'.mp some with ⟨v, found⟩
    exact c.mem_placeholders_iff.mp (own c among _ (mem_of_lookup found))
  have insert_named : ∀ {outer inner : Grouping} {key : String},
      (Grouping.insert outer key inner).default? k ≠ none →
      k ∈ (Grouping.insert outer key inner).cut.names := by
    intro outer inner key some
    by_contra unnamed
    rw [default?, if_neg unnamed] at some
    exact some rfl
  have first := named t (.inl rfl)
  have second := named u (.inr (.inl rfl))
  have third := named w (.inr (.inr rfl))
  rw [outward, default?_insert ((mem_names_nest chain.mem_outer).mpr (.inr chain.mem_middle))
    insert_named third, default?_insert chain.mem_outer first second, inward,
    default?_insert chain.mem_outer first insert_named,
    default?_insert chain.mem_middle second third]
  by_cases here : k = b
  · -- The first template has no default for the name that is filled last.
    have none : (single t).default? k = none :=
      by_contra fun some => chain.not_mem_outer (here ▸ first some)
    rw [if_pos here, if_pos here, none, ite_self, Option.none_or, Option.none_or]
  · rw [if_neg here, if_neg here, Option.or_assoc]

end Chain

/-! ### What comes of them -/

/-- Whether a template that nobody has reached into is equal to another one. -/
theorem Template.resultAt_askEquals (interp : Interpretation) (what : String) {st : Store} {r : Ref}
    {v : Value} {x x' : Template} (held : st.template? r = some x)
    (isInner : st.inner? v = some x') :
    (askEquals interp what r v).resultAt st = .ok (.boolean (x.equals x')) := by
  rcases inner?_eq_some isInner with ⟨q, known, there⟩
  rw [askEquals, ask, Action.resultAt_bind_asking]
  simp only [held, Action.resultAt_bind_asking, known, there]
  rfl

namespace Grouping

variable {interp : Interpretation} {what : String} {st mid last : Store} {g : Grouping} {y : Value}

/-- Building succeeds, or something is raised by copying what a default has become that is
    passed on. -/
theorem Sound.succeeds_or_raises (what : String) (sound : g.Sound st) (fits : interp.Fits st)
    (intact : st.Intact) (grows : st.GrowsTo mid) :
    (∃ y, (g.build interp what).resultAt mid = .ok y
        ∧ mid.GrowsTo ((g.build interp what).storeAfter mid))
      ∨ ∃ name v mid' x raised, g.Passes name v ∧ st.Stems interp mid' v x
        ∧ CopyRaises interp mid' x raised
        ∧ (g.build interp what).resultAt mid = .error (.thrown raised) := by
  have runs := (tracks_stems fits).runs what (sound.extends intact grows.grown) grows
    fun e _ => .inl ⟨grows.grown, rfl⟩
  unfold Runs Action.Yields at runs
  cases gives : (g.build interp what).resultAt mid with
  | ok y =>
      rw [gives] at runs
      exact .inl ⟨y, rfl, runs.1, runs.2.1.intact⟩
  | error f =>
      rw [gives] at runs
      rcases runs with ⟨raised, rfl, -, name, v, passes, mid', x, stems, raises⟩
      exact .inr ⟨name, v, mid', x, raised, passes, stems, raises, rfl⟩

/-- Where all defaults are durable, building succeeds, and it can go on from there. -/
theorem Sound.succeeds (interp : Interpretation) (what : String) (sound : g.Sound st)
    (intact : st.Intact) (grows : st.GrowsTo mid) (durable : ∀ e ∈ g.defaults, st.Durable e.2) :
    ∃ y, (g.build interp what).resultAt mid = .ok y
      ∧ mid.GrowsTo ((g.build interp what).storeAfter mid) := by
  have runs := (tracks_durable interp intact).runs what (sound.extends intact grows.grown) grows
    fun e he => ⟨durable e he, .inl ⟨grows.grown, rfl⟩⟩
  rcases Action.exists_of_yields runs fun _ raises => raises.1 with ⟨y, gives, grown, grows', -⟩
  exact ⟨y, gives, grown, grows'.intact⟩

/-- What comes of building where something is inserted. -/
theorem Gives.made {outer inner : Grouping} {key : String}
    (gives : (Grouping.insert outer key inner).Gives interp what st y last)
    (sound : (Grouping.insert outer key inner).Sound st) (fits : interp.Fits st)
    (intact : st.Intact) :
    let g := Grouping.insert outer key inner
    ∃ x, MadeAs (fun st' v w => st.Heir interp v st' w) g.name g.cut g.default? last y x := by
  rcases gives with ⟨mid, grows, result, after⟩
  have tracks := tracks_stems fits
  have runs := tracks.runs_insert what (tracks.runs what) (tracks.runs what)
    (sound.extends intact grows.grown) grows fun e _ => .inl ⟨grows.grown, rfl⟩
  unfold Runs Action.Yields at runs
  rw [result] at runs
  rcases runs with ⟨-, -, x, made⟩
  exact ⟨x, made.later after fun _ _ _ heir => heir.later after⟩

end Grouping

/-- Two templates have defaults under the same keys, and those under one key were made by
    copying the same value. If that value is durable, they are the same apart from
    addresses. -/
structure SameDefaults (interp : Interpretation) (base last : Store)
    (default? : String → Option Value) (x x' : Template) : Prop where
  none : ∀ k, default? k = none → x.defaults.lookup k = none ∧ x'.defaults.lookup k = none
  some : ∀ k d, default? k = some d → ∃ v v', x.defaults.lookup k = some v
    ∧ x'.defaults.lookup k = some v' ∧ base.Heir interp d last v ∧ base.Heir interp d last v'
    ∧ (base.Durable d → last.Twins v v')

theorem sameDefaults_of_made {interp : Interpretation} {base last : Store}
    {default? : String → Option Value} {name name' : String} {c c' : Cut} {y z : Value}
    {x x' : Template} (intact : base.Intact)
    (made : MadeAs (fun st v w => base.Heir interp v st w) name c default? last y x)
    (made' : MadeAs (fun st v w => base.Heir interp v st w) name' c' default? last z x') :
    SameDefaults interp base last default? x x' := by
  refine ⟨fun k none => ?_, fun k d found => ?_⟩
  · have heirs := made.defaults k
    have heirs' := made'.defaults k
    rw [none] at heirs heirs'
    generalize x.defaults.lookup k = v, x'.defaults.lookup k = v' at heirs heirs' ⊢
    cases heirs
    cases heirs'
    exact ⟨rfl, rfl⟩
  · have heirs := made.defaults k
    have heirs' := made'.defaults k
    rw [found] at heirs heirs'
    generalize x.defaults.lookup k = v, x'.defaults.lookup k = v' at heirs heirs' ⊢
    cases heirs with
    | some heir =>
        cases heirs' with
        | some heir' =>
            exact ⟨_, _, rfl, rfl, heir, heir', fun durable =>
              (heir.echoes intact durable).2.twins (heir'.echoes intact durable).2 intact⟩

open Grouping in
/-- Inserting templates is associative. Each way to group three of them succeeds unless
    copying a default that is passed on raises something, which is then raised. What
    comes of the two is equal and has the same placeholders, and if the three have
    defaults for their own names only, it has the same defaults. If all of these are
    durable, both ways do succeed. -/
theorem insertion_assoc {interp : Interpretation} (what : String) {st : Store}
    {t u w : Component} {a b : String} (intact : st.Intact) (fits : interp.Fits st)
    (chain : Chain st t a u b w) :
    let left := outward t a u b w
    let right := inward t a u b w
    (∀ g, g = left ∨ g = right → ∀ mid, st.GrowsTo mid →
      (∃ y, (g.build interp what).resultAt mid = .ok y
          ∧ mid.GrowsTo ((g.build interp what).storeAfter mid))
        ∨ ∃ name v mid' x raised, g.Passes name v ∧ st.Stems interp mid' v x
          ∧ CopyRaises interp mid' x raised
          ∧ (g.build interp what).resultAt mid = .error (.thrown raised))
    ∧ (∀ y z last, left.Gives interp what st y last → right.Gives interp what st z last →
      ∃ r x x', y = .object r ∧ last.inner? y = some x ∧ last.inner? z = some x'
        ∧ (askEquals interp what r z).resultAt last = .ok (.boolean true)
        ∧ x.source = x'.source ∧ x.placeholders = x'.placeholders
        ∧ ((∀ c, c = t ∨ c = u ∨ c = w →
            ∀ e ∈ c.template.defaults, e.1 ∈ c.template.placeholders) →
          SameDefaults interp st last left.default? x x'))
    ∧ ((∀ c, c = t ∨ c = u ∨ c = w → ∀ e ∈ c.template.defaults, st.Durable e.2) →
      ∀ g, g = left ∨ g = right → ∀ mid, st.GrowsTo mid →
        ∃ y, (g.build interp what).resultAt mid = .ok y
          ∧ mid.GrowsTo ((g.build interp what).storeAfter mid)) := by
  intro left right
  have sound : ∀ g, g = left ∨ g = right → g.Sound st := by
    rintro g (rfl | rfl)
    · exact chain.sound_outward
    · exact chain.sound_inward
  refine ⟨fun g either mid grows => (sound g either).succeeds_or_raises what fits intact grows,
    fun y z last gives gives' => ?_, fun durable g either mid grows =>
      (sound g either).succeeds interp what intact grows fun e he => ?_⟩
  · rcases gives.made chain.sound_outward fits intact with ⟨x, made⟩
    rcases gives'.made chain.sound_inward fits intact with ⟨x', made'⟩
    have isInner := made.isInner (.refl last)
    have isInner' := made'.isInner (.refl last)
    rcases Store.object_of_inner? isInner with ⟨r, rfl, there⟩
    -- The two have the same cut, and it tells the source and the placeholders.
    have cut : left.cut.Of x.source := made.cut
    have cut' : left.cut.Of x'.source := cut_inward chain.not_mem_outer ▸ made'.cut
    have source : x.source = x'.source := by
      rw [← String.ofList_toList (s := x.source), ← cut.text_eq, cut'.text_eq, String.ofList_toList]
    have name : x.name = x'.name := made.name.trans made'.name.symm
    refine ⟨r, x, x', rfl, isInner, isInner', ?_, source,
      (placeholders_eq cut).trans (placeholders_eq cut').symm, fun own => ?_⟩
    · rw [resultAt_askEquals interp what there isInner', Template.equals, name, source,
        beq_self_eq_true, beq_self_eq_true, Bool.and_self]
    · have same : right.default? = left.default? := funext (chain.default?_inward own)
      exact sameDefaults_of_made intact made (same ▸ made')
  · have among : e ∈ t.template.defaults ∨ e ∈ u.template.defaults ∨ e ∈ w.template.defaults := by
      rcases either with rfl | rfl
      · simpa only [left, outward, Grouping.defaults, List.mem_append, or_assoc] using he
      · simpa only [right, inward, Grouping.defaults, List.mem_append] using he
    rcases among with mem | mem | mem
    · exact durable t (.inl rfl) e mem
    · exact durable u (.inr (.inl rfl)) e mem
    · exact durable w (.inr (.inr rfl)) e mem

section

/-- A template with an array as a default for the name that it shares with the template
    that is inserted last. -/
private def letter : Component where
  ref := ⟨2⟩
  template := ofCut "" (.placed [] "a" (.placed [' '] "c" (.last []))) (by decide)
    [("c", .object ⟨5⟩)]
  cut := .placed [] "a" (.placed [' '] "c" (.last []))
  cut_of := ⟨by decide, by decide⟩

private def greeting : Component where
  ref := ⟨3⟩
  template := ofCut "" (.placed ['D', 'e', 'a', 'r', ' '] "b" (.last [])) (by decide)
    [("b", .text "all")]
  cut := .placed ['D', 'e', 'a', 'r', ' '] "b" (.last [])
  cut_of := ⟨by decide, by decide⟩

private def addressee : Component where
  ref := ⟨4⟩
  template := ofCut "" (.placed [] "c" (.placed ['-'] "d" (.last []))) (by decide)
    [("c", .text "x"), ("d", .text "y")]
  cut := .placed [] "c" (.placed ['-'] "d" (.last []))
  cut_of := ⟨by decide, by decide⟩

private def letters : Store :=
  ⟨Store.initial.objects ++ #[Object.ofBody (.template letter.template),
    Object.ofBody (.template greeting.template), Object.ofBody (.template addressee.template),
    Object.ofBody (.array [some (.text "z")])]⟩

/-- Both groupings have the array under the shared name. -/
theorem insertion_assoc_of_letter :
    let interp := Interpretation.standard
    let left := Grouping.outward letter "a" greeting "b" addressee
    let right := Grouping.inward letter "a" greeting "b" addressee
    letters.Intact ∧ interp.Fits letters ∧ Chain letters letter "a" greeting "b" addressee
      ∧ ∃ r z x x' last, left.Gives interp "this" letters (.object r) last
        ∧ right.Gives interp "this" letters z last
        ∧ (askEquals interp "this" r z).resultAt last = .ok (.boolean true)
        ∧ last.inner? (.object r) = some x ∧ last.inner? z = some x'
        ∧ ∃ v v', x.defaults.lookup "c" = some v ∧ x'.defaults.lookup "c" = some v'
          ∧ letters.Heir interp (.object ⟨5⟩) last v ∧ letters.Heir interp (.object ⟨5⟩) last v'
          ∧ last.Twins v v' := by
  intro interp left right
  have intact : letters.Intact := by decide
  have fits : interp.Fits letters := Interpretation.fits_standard (by decide)
  have chain : Chain letters letter "a" greeting "b" addressee :=
    .of_bare ⟨Store.inner?_of_get rfl, by decide⟩ ⟨Store.inner?_of_get rfl, by decide⟩
      ⟨Store.inner?_of_get rfl, by decide⟩ (by decide) (by decide) (by decide) (by decide)
      (by decide) (by decide)
  have array : letters.Durable (.object ⟨5⟩) := by
    refine .leaf ⟨{⟨5⟩}, ⟨?_, ?_, ?_⟩, List.forall_mem_singleton.mpr (.inl rfl)⟩
    · rintro r rfl
      exact .array [some (.text "z")] rfl
    · rintro r rfl
      decide
    · rintro r rfl q hq
      cases hq
  have text : ∀ s, letters.Durable (.text s) := fun s => .leaf (Store.clones_of_refs rfl)
  rcases insertion_assoc "this" intact fits chain with ⟨-, agree, succeed⟩
  have durable : ∀ c, c = letter ∨ c = greeting ∨ c = addressee →
      ∀ e ∈ c.template.defaults, letters.Durable e.2 := by
    rintro c (rfl | rfl | rfl)
    · exact List.forall_mem_singleton.mpr array
    · exact List.forall_mem_singleton.mpr (text _)
    · exact List.forall_mem_cons.mpr ⟨text _, List.forall_mem_singleton.mpr (text _)⟩
  have own : ∀ c, c = letter ∨ c = greeting ∨ c = addressee →
      ∀ e ∈ c.template.defaults, e.1 ∈ c.template.placeholders := by
    rintro c (rfl | rfl | rfl) <;> decide
  -- The second way is gone after the first one.
  rcases succeed durable left (.inl rfl) letters ⟨.refl _, intact⟩ with ⟨y, gives, grows⟩
  rcases succeed durable right (.inr rfl) _ grows with ⟨z, gives', grows'⟩
  have first : left.Gives interp "this" letters y _ :=
    ⟨letters, ⟨.refl _, intact⟩, gives, grows'.grown⟩
  have second : right.Gives interp "this" letters z _ := ⟨_, grows, gives', .refl _⟩
  rcases agree y z _ first second with ⟨r, x, x', rfl, isInner, isInner', equal, -, -, same⟩
  rcases (same own).some "c" (.object ⟨5⟩) (by decide) with
    ⟨v, v', found, found', heir, heir', twins⟩
  exact ⟨intact, fits, chain, r, z, x, x', _, first, second, equal, isInner, isInner', v, v', found,
    found', heir, heir', twins array⟩

end

section

/-- A template with an object as the default for a name of its own. -/
private def parcel : Component where
  ref := ⟨2⟩
  template := ofCut "" (.placed [] "a" (.placed [] "c" (.last []))) (by decide)
    [("c", .object ⟨5⟩)]
  cut := .placed [] "a" (.placed [] "c" (.last []))
  cut_of := ⟨by decide, by decide⟩

private def wrapping : Component where
  ref := ⟨3⟩
  template := ofCut "" (.placed [] "b" (.last [])) (by decide) []
  cut := .placed [] "b" (.last [])
  cut_of := ⟨by decide, by decide⟩

private def ribbon : Component where
  ref := ⟨4⟩
  template := ofCut "" (.last ['x']) (by decide) []
  cut := .last ['x']
  cut_of := ⟨by decide, by decide⟩

private def parcels (objects : Array Object) : Store :=
  ⟨Store.initial.objects ++ #[Object.ofBody (.template parcel.template),
    Object.ofBody (.template wrapping.template), Object.ofBody (.template ribbon.template)]
    ++ objects⟩

/-- The default is an array that somebody has put something into that derives from a link
    and has an address of its own. -/
private def routes : Store :=
  parcels #[Object.ofBody (.array [some (.object ⟨6⟩)]),
    { Object.plain [("href", .text "x")] with prototype := .object ⟨7⟩ },
    Object.ofBody (.url "http://a/")]

/-- The default is a boxed text that somebody has given a method of its own, by which it
    stands for a boxed text again, and that one stands for an array. -/
private def boxes : Store :=
  let standing (s : String) (method : Ref) : Object :=
    { Object.ofBody (.boxed (.text s)) with
      fields := [(.text "valueOf", { slot := .data (.object method) })] }
  parcels #[standing "k" ⟨6⟩, Object.ofBody (.function (.constant (.object ⟨7⟩))),
    standing "m" ⟨8⟩, Object.ofBody (.function (.constant (.object ⟨9⟩))),
    Object.ofBody (.array [some (.text "q")])]

/-- No placeholder begins where it should not, and all defaults are for own names. Yet
    neither grouping succeeds if copying the default raises something. If copying makes
    something else of the default each time, both succeed, but what they make has
    different defaults and is rendered differently. -/
theorem insertion_not_assoc :
    let interp := Interpretation.standard
    let left := (Grouping.outward parcel "a" wrapping "b" ribbon).build interp "this"
    let right := (Grouping.inward parcel "a" wrapping "b" ribbon).build interp "this"
    let mid := left.storeAfter boxes
    let last := right.storeAfter mid
    (∀ c, c = parcel ∨ c = wrapping ∨ c = ribbon →
        ∀ e ∈ c.template.defaults, e.1 ∈ c.template.placeholders)
      ∧ (routes.Intact ∧ Chain routes parcel "a" wrapping "b" ribbon
        ∧ left.resultAt routes = .error (.thrown (.fault .typeError "Invalid URL"))
        ∧ right.resultAt routes = .error (.thrown (.fault .typeError "Invalid URL")))
      ∧ boxes.Intact ∧ Chain boxes parcel "a" wrapping "b" ribbon
        ∧ ∃ r q, left.resultAt boxes = .ok (.object r) ∧ right.resultAt mid = .ok (.object q)
          ∧ (last.template? r).map Template.defaults = some [("c", .object ⟨9⟩)]
          ∧ last.get ⟨9⟩ = Object.ofBody (.array [some (.text "q")])
          ∧ (last.template? q).map Template.defaults = some [("c", .object ⟨7⟩)]
          ∧ (last.get ⟨7⟩).body = .boxed (.text "m")
          ∧ (render interp "this" r .undefined).resultAt last = .ok (.text "x[\"q\"]")
          ∧ (render interp "this" q .undefined).resultAt last = .ok (.text "xq") := by
  intro interp left right mid last
  have chain : ∀ st, st = routes ∨ st = boxes →
      Chain st parcel "a" wrapping "b" ribbon := by
    rintro st (rfl | rfl)
    all_goals
      exact .of_bare ⟨Store.inner?_of_get rfl, by decide⟩ ⟨Store.inner?_of_get rfl, by decide⟩
        ⟨Store.inner?_of_get rfl, by decide⟩ (by decide) (by decide) (by decide) (by decide)
        (by decide) (by decide)
  refine ⟨?_, ⟨by decide, chain _ (.inl rfl), by decide +kernel, by decide +kernel⟩, by decide,
    chain _ (.inr rfl), ⟨13⟩, ⟨17⟩, ?_⟩
  · rintro c (rfl | rfl | rfl) <;> decide
  · decide +kernel

end

end Stencil
