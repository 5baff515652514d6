import Stencil.Proofs.Attending
import Stencil.Proofs.Sessions

/-!
# Snapshots of Defaults

What can happen to a template by what was read out of it.

Reading the defaults of a template gives a map of its own, but the defaults in it
are those that are stored. So one half of what could be hoped for holds: the map
can be changed, and the templates in it can be passed on and stored elsewhere, and
nothing comes of it. Which keys a template has defaults for, and which values these
are, is never changed by anything but giving defaults to the template itself. The
other half does not hold. Whoever writes to a default that is an array, or gives
defaults to one that is a template, changes what the template renders as.

What can be said is that there is no other way. If a template has not been given
defaults and nothing that it leads to was written or given defaults, then all that
it leads to is the same. It also renders the same, unless its serializers look at
things that values do not lead to. This needs no assumption about who holds what.

## Main definitions

* `Template.IsSpared`: Nothing that a value leads to changes, and the serializers
  there look at nothing else.

## Theorems

* `Template.rendered_spared`: Templates that are spared have the same text.
* `Session.Sound.not_mem_changes`: Only giving defaults changes a template.
* `Session.stays_when_spared`: A template changes only by being given defaults, or
  where something that it leads to is changed.
-/

namespace Stencil

open Store (Evolves Forest)

namespace Template

variable {interp : Interpretation} {st st' : Store} {free W : Set Ref} {r q : Ref} {t : Template}
  {v : Value} {supplied : List (String × Value)}

/-- Nothing that a value leads to belongs to a set of objects, and the serializers of
    the templates there look at nothing that does. -/
structure IsSpared (interp : Interpretation) (st : Store) (free : Set Ref) (v : Value) : Prop where
  apart : ∀ q, st.Reaches v q → q ∉ free
  attends : ∀ q t, st.Reaches v q → st.template? q = some t → ∀ e ∈ t.defaults,
    st.templateRef? e.2 = none → t.Attends interp st free e

/-- The defaults of a template that is spared are. -/
theorem IsSpared.default (spared : IsSpared interp st free (.object r))
    (there : st.get r = .ofBody (.template t)) {e : String × Value} (he : e ∈ t.defaults) :
    IsSpared interp st free e.2 := by
  have root : st.Reaches (.object r) r := .root rfl (by rw [there]; rfl)
  have held : e.2 ∈ (st.get r).parts := by
    rw [there]
    exact List.mem_cons_of_mem _ (List.mem_map_of_mem he)
  exact ⟨fun q reached => spared.apart q (root.of_part held reached),
    fun q u reached => spared.attends q u (root.of_part held reached)⟩

/-- Templates that are spared have the same text afterwards. -/
theorem rendered_spared (forest : st.Forest interp W) (later : st.Later st')
    (others : ∀ q, q.index < st.objects.size → q ∉ free → st'.get q = st.get q) (n : Nat)
    (hr : r ∈ W) (held : st.template? r = some t) (spared : IsSpared interp st free (.object r))
    (accepts : ∀ e ∈ supplied, st.Accepts interp W e.2)
    (values : ∀ e ∈ supplied, IsSpared interp st free e.2
      ∧ (st.templateRef? e.2 = none → t.Attends interp st free e)) :
    rendered interp st' n r supplied = rendered interp st n r supplied := by
  have same : ∀ {x : Ref}, x ∈ W → IsSpared interp st free (.object x) →
      st'.get x = st.get x ∧ ∃ u, st.get x = .ofBody (.template u) := by
    intro x hx spared
    rcases forest.template x hx with ⟨u, there, -⟩
    refine ⟨others x (forest.index_lt hx) (spared.apart x (.root rfl ?_)), u, there⟩
    rw [there]
    rfl
  -- By induction on the allowance. Inside, nothing is supplied, so only the defaults
  -- matter there.
  induction n generalizing r t supplied with
  | zero => rfl
  | succ n ih =>
      rcases same hr spared with ⟨here, u, there⟩
      have template : st.template? r = some u := Store.template?_of_get there
      cases template.symm.trans held
      rw [rendered, rendered, held, Store.template?_of_get (here.trans there)]
      refine filled_eq_of_converts fun name v found => ?_
      have facts : IsSpared interp st free v
          ∧ (st.templateRef? v = none → t.Attends interp st free (name, v)) := by
        rw [valueFor?, Option.or_eq_some_iff] at found
        rcases found with given | ⟨-, stored⟩
        · exact values _ (mem_of_lookup given)
        · have mem := mem_of_lookup stored
          exact ⟨spared.default there mem,
            spared.attends r t (.root rfl (by rw [there]; rfl)) held _ mem⟩
      rw [converted, converted]
      rcases accepts_valueFor? forest hr held accepts found with inert | ⟨x, hx, rfl⟩
      · rw [inert.templateRef?_eq_none, (inert.later later).templateRef?_eq_none]
        refine facts.2 inert.templateRef?_eq_none later fun q inside reaches => ?_
        exact others q inside fun changed => facts.1.apart q (reaches changed) changed
      · rcases same hx facts.1 with ⟨still, w, nested⟩
        rw [forest.templateRef? hx, Store.templateRef?_of_get (still.trans nested)]
        exact ih hx (Store.template?_of_get nested) facts.1
          (fun _ he => absurd he List.not_mem_nil) fun _ he => absurd he List.not_mem_nil

/-- The outcome of rendering a template that is spared is the same afterwards. -/
theorem render_spared {W' : Set Ref} (forest : st.Forest interp W) (forest' : st'.Forest interp W')
    (le : W ⊆ W') (later : st.Later st')
    (others : ∀ q, q.index < st.objects.size → q ∉ free → st'.get q = st.get q)
    (hr : r ∈ W) (held : st.template? r = some t) (spared : IsSpared interp st free (.object r))
    {given given' : Value} (offered : Offers st given supplied)
    (offered' : Offers st' given' supplied) (accepts : ∀ e ∈ supplied, st.Accepts interp W e.2)
    (values : ∀ e ∈ supplied, IsSpared interp st free e.2
      ∧ (st.templateRef? e.2 = none → t.Attends interp st free e)) (what : String) :
    (render interp what r given').resultAt st' = (render interp what r given).resultAt st := by
  have accepts' : ∀ e ∈ supplied, st'.Accepts interp W' e.2 :=
    fun e he => (accepts e he).later later le
  have gives := (render_sealed interp forest.sealedOn what hr offered
    fun e he => (accepts e he).leadsTo forest).2
  have gives' := (render_sealed interp forest'.sealedOn what (le hr) offered'
    fun e he => (accepts' e he).leadsTo forest').2
  rw [gives, gives', rendered_spared forest later others _ hr held spared accepts values,
    rendered_succ_of_size_le interp st later.size_le]

end Template

namespace Session

variable {interp : Interpretation} {w : Session} {W : Set Ref} {moves : List Move} {r : Ref}

/-- Of a template, only its defaults can change, and only by giving it defaults. -/
theorem Sound.not_mem_changes (sound : w.Sound interp W) (allowed : w.AllowsAll interp moves)
    (hr : r ∈ W) (spared : ∀ values, .perform (.setDefault r values) ∉ moves) :
    r ∉ changes moves := by
  induction moves generalizing w W with
  | nil =>
      rintro ⟨m, mem, -⟩
      cases mem
  | cons first moves ih =>
      rcases sound.after allowed.1 with ⟨W', sound', evolves⟩
      have rest := ih sound' allowed.2 (evolves.le hr)
        fun values mem => spared values (List.mem_cons_of_mem _ mem)
      rintro ⟨m, mem, changed⟩
      rcases List.mem_cons.mp mem with rfl | mem
      · cases m with
        | perform op =>
            cases op with
            | setDefault q values => exact spared values (changed ▸ List.mem_cons_self)
            | _ => exact Set.notMem_empty r changed
        | write q o =>
            rcases sound.forest.template r hr with ⟨t, there, -⟩
            rw [Set.mem_singleton_iff.mp changed] at there
            exact allowed.1.noTemplate t (by rw [there]; rfl)
        | _ => exact Set.notMem_empty r changed
      · exact rest ⟨m, mem, changed⟩

/-- Whatever is read out of templates and whatever is done with it: a template that is
    not given defaults itself has the same keys with the same values, and gives them as
    a new map. All that was not changed is the same, and if this is so for all that the
    template leads to, then it renders the same. -/
theorem stays_when_spared {start : Session} {past future : List Move} (fresh : start.IsFresh)
    (allowed : start.AllowsAll interp (past ++ future)) (has : (start.run interp past).Has r)
    (spared : ∀ values, .perform (.setDefault r values) ∉ future) :
    let w := start.run interp past
    let later := (start.run interp (past ++ future)).store
    ∃ t, w.store.template? r = some t ∧ later.template? r = some t
      ∧ later.member interp (.object r) "defaults"
        = .ok (later.push (.ofBody (.map (t.defaults.map fun e => (.text e.1, e.2)))),
          .object later.next)
      ∧ (∀ q, q.index < w.store.objects.size → q ∉ changes future → later.get q = w.store.get q)
      ∧ (Template.IsSpared interp w.store (changes future) (.object r) →
          ∀ {values values' : Value} {supplied : List (String × Value)},
            Template.Offers w.store values supplied → Template.Offers later values' supplied →
            (∀ e ∈ supplied, w.store.Accepts interp {q | w.Has q} e.2) →
            (∀ e ∈ supplied, Template.IsSpared interp w.store (changes future) e.2
              ∧ (w.store.templateRef? e.2 = none →
                t.Attends interp w.store (changes future) e)) →
            (Template.render interp "template" r values').resultAt later
              = (Template.render interp "template" r values).resultAt w.store) := by
  intro w later
  rcases allowsAll_append.mp allowed with ⟨early, late⟩
  rcases fresh.sound.run early with ⟨W, sound, -⟩
  rcases sound.run late with ⟨W', sound', evolves⟩
  rw [← run_append] at sound' evolves
  -- The template is not among what changes, so its object is the one that was there.
  have hr := sound.mem_of_has has
  have here := evolves.get_eq r (sound.forest.index_lt hr)
    (sound.not_mem_changes late hr spared)
  rcases sound.forest.template r hr with ⟨t, there, -⟩
  have held : w.store.template? r = some t := Store.template?_of_get there
  refine ⟨t, held, Store.template?_of_get (here.trans there),
    Store.member_defaults interp (here.trans there), fun q => evolves.get_eq q, ?_⟩
  intro isSpared values values' supplied offered offered' accepts attends
  have accepts' : ∀ e ∈ supplied, w.store.Accepts interp W e.2 :=
    fun e he => (accepts e he).later (.refl w.store) fun x hx => sound.mem_of_has hx
  exact Template.render_spared sound.forest sound'.forest evolves.le evolves.later
    (fun q => evolves.get_eq q) hr held isSpared offered offered' accepts' attends "template"

section

/-- Nobody has got any template yet. -/
private def vacant : Session :=
  ⟨Store.initial, []⟩

/-- A template is given an array and another template as defaults. -/
private def stocking : List Move := [
  .perform (.create .prompt "$\x7ba\x7d$\x7bb\x7d" .undefined),
  .perform (.create .prompt "x" .undefined),
  .bring (.ofBody (.array [some (.text "v")])),
  .bring (.plain [("a", .object ⟨6⟩), ("b", .object ⟨5⟩)]),
  .perform (.setDefault ⟨3⟩ (.object ⟨7⟩))]

/-- The map of its defaults is read and emptied, and so is the array that was given.
    The template in the map becomes a default of the one that it is a copy of. -/
private def browsing : List Move := [
  .read ⟨3⟩,
  .write ⟨10⟩ (.ofBody (.map [])),
  .write ⟨6⟩ (.ofBody (.array [])),
  .bring (.plain [("a", .object ⟨9⟩)]),
  .perform (.setDefault ⟨5⟩ (.object ⟨11⟩))]

private theorem vacant_allows : vacant.AllowsAll .standard (stocking ++ browsing) := by
  refine ⟨trivial, trivial, trivial, trivial, ⟨by decide +kernel, ?_⟩, ?_, ?_, ?_, trivial,
    ⟨by decide +kernel, ?_⟩, trivial⟩
  · refine ⟨[("a", .object ⟨6⟩), ("b", .object ⟨5⟩)],
      ⟨⟨7⟩, rfl, by decide +kernel, by decide +kernel⟩, fun e he => ?_⟩
    rcases List.mem_cons.mp he with rfl | he
    · exact .inl (Store.inert_of_family (f := .array) (by decide +kernel) (by decide +kernel)
        (by decide) (by decide))
    · rw [List.mem_singleton.mp he]
      exact .inr ⟨⟨5⟩, by decide +kernel, rfl⟩
  · exact (by decide +kernel : (⟨3⟩ : Ref) ∈ (vacant.run .standard stocking).known)
  · change (vacant.run .standard (stocking ++ browsing.take 1)).store.CanWrite ⟨10⟩ _
    have there : (vacant.run .standard (stocking ++ browsing.take 1)).store.get ⟨10⟩
        = .ofBody (.map [(.text "a", .object ⟨8⟩), (.text "b", .object ⟨9⟩)]) := by
      decide +kernel
    exact Store.canWrite_ofBody there rfl rfl rfl nofun nofun (by decide)
  · change (vacant.run .standard (stocking ++ browsing.take 2)).store.CanWrite ⟨6⟩ _
    have there : (vacant.run .standard (stocking ++ browsing.take 2)).store.get ⟨6⟩
        = .ofBody (.array [some (.text "v")]) := by decide +kernel
    exact Store.canWrite_ofBody there rfl rfl rfl nofun nofun (by decide)
  · refine ⟨[("a", .object ⟨9⟩)], ⟨⟨11⟩, rfl, by decide +kernel, by decide +kernel⟩, fun e he => ?_⟩
    rw [List.mem_singleton.mp he]
    exact .inr ⟨⟨9⟩, by decide +kernel, rfl⟩

/-- The caller with the templates. -/
private def stocked : Session :=
  vacant.run .standard stocking

/-- What the template leads to: itself, the global logger, the copy of the array, and
    the template that is stored. -/
private def shelves : List Ref :=
  [⟨3⟩, ⟨0⟩, ⟨8⟩, ⟨9⟩]

private theorem stocked_reaches {q : Ref} (reached : stocked.store.Reaches (.object ⟨3⟩) q) :
    q ∈ shelves := by
  have closed : ∀ r ∈ shelves, ∀ q ∈ (stocked.store.get r).held,
      (stocked.store.get q).isFunction = false → q ∈ shelves := by
    decide +kernel
  exact Store.reaches_of_closed (S := {q | q ∈ shelves}) (by decide +kernel) closed reached

/-- The copy of the array is a tree with a text. -/
private theorem stocked_treelike : stocked.store.Treelike (.object ⟨8⟩) := by
  have array : stocked.store.get ⟨8⟩ = .bare (.array [some (.text "v")]) {} := by
    decide +kernel
  have pieces : ∀ v ∈ [Value.object ⟨8⟩, .text "v"], stocked.store.Piece v := by
    simp only [List.mem_cons, List.not_mem_nil, or_false]
    rintro v (rfl | rfl)
    · exact .array _ array
    · exact .text "v"
  intro w met
  have here : w ∈ [Value.object ⟨8⟩, .text "v"] :=
    Store.mem_of_reaches (by decide +kernel) (by decide) met
  have inside : ∀ v ∈ [Value.object ⟨8⟩, .text "v"], ∀ r ∈ v.refs,
      r.index < stocked.store.objects.size := by
    decide +kernel
  exact ⟨pieces w here, inside w here, Store.not_leads_back (by decide +kernel) here⟩

/-- Nothing that the template leads to is changed, and all that is written there is the
    copy of the array. -/
private theorem stocked_spared :
    Template.IsSpared .standard stocked.store (changes browsing) (.object ⟨3⟩) := by
  constructor
  · rintro q reached ⟨m, mem, changed⟩
    have known := stocked_reaches reached
    simp only [browsing, List.mem_cons, List.not_mem_nil, or_false] at mem
    rcases mem with rfl | rfl | rfl | rfl | rfl
    · exact Set.notMem_empty q changed
    · rw [Set.mem_singleton_iff.mp changed] at known
      exact absurd known (by decide)
    · rw [Set.mem_singleton_iff.mp changed] at known
      exact absurd known (by decide)
    · exact Set.notMem_empty q changed
    · rw [Set.mem_singleton_iff.mp changed] at known
      exact absurd known (by decide)
  · have made : ∀ r ∈ shelves, ∀ u ∈ stocked.store.template? r,
        (u.variant = .prompt ∧ u.serializer = none) ∧ ∀ e ∈ u.defaults,
          stocked.store.templateRef? e.2 = none → e.2 = .object ⟨8⟩ := by
      decide +kernel
    have intact : stocked.store.Intact := by decide +kernel
    have array : stocked.store.get ⟨8⟩ = .bare (.array [some (.text "v")]) {} := by
      decide +kernel
    rintro q t reached found ⟨key, v⟩ he plain
    rcases made q (stocked_reaches reached) t found with ⟨⟨variant, serializer⟩, values⟩
    cases values _ he plain
    exact Template.attends_of_treelike ⟨variant, serializer⟩ intact.closed (.array array)
      stocked_treelike key

/-- A caller that empties the map of the defaults and the array that it gave, and that
    gives a template out of the map to another one. -/
theorem stays_when_spared_of_emptied :
    let w := vacant.run .standard stocking
    let later := (vacant.run .standard (stocking ++ browsing)).store
    vacant.IsFresh ∧ vacant.AllowsAll .standard (stocking ++ browsing) ∧ w.Has ⟨3⟩
      ∧ (∀ values, .perform (.setDefault ⟨3⟩ values) ∉ browsing)
      ∧ Template.IsSpared .standard w.store (changes browsing) (.object ⟨3⟩)
      ∧ later.get ⟨5⟩ ≠ w.store.get ⟨5⟩ ∧ later.get ⟨6⟩ ≠ w.store.get ⟨6⟩
      ∧ w.store.Stores ⟨3⟩ "b" ⟨9⟩ ∧ later.Stores ⟨3⟩ "b" ⟨9⟩
      ∧ (Template.render .standard "template" ⟨3⟩ .undefined).resultAt later
        = (Template.render .standard "template" ⟨3⟩ .undefined).resultAt w.store := by
  intro w later
  have fresh : vacant.IsFresh := ⟨rfl, _, _, rfl⟩
  have has : w.Has ⟨3⟩ := .known (by decide +kernel)
  have spared : ∀ values, .perform (.setDefault ⟨3⟩ values) ∉ browsing := by
    intro values mem
    simp [browsing] at mem
  rcases stays_when_spared fresh vacant_allows has spared with ⟨t, -, -, -, -, renders⟩
  refine ⟨fresh, vacant_allows, has, spared, stocked_spared, by decide +kernel,
    by decide +kernel, by decide +kernel, by decide +kernel, ?_⟩
  exact renders stocked_spared (.inr ⟨rfl, rfl⟩) (.inr ⟨rfl, rfl⟩) nofun nofun

end

end Session

end Stencil
