import Stencil.Proofs.CopyLikeness

/-!
# Repeating Graphs

What copies of copies have in common with the copy.

A copy is not the same as what it was made from in every case. Missing elements of an
array become undefined ones, a buffer becomes an ordinary array of bytes, and a
pattern starts over. All of this happens the first time. A copy is a graph of objects
of which nothing gets lost any more, so each copy of it is made of the same objects
under other addresses.

So it does not matter how often something is copied, as long as it is copied.
`Repeats` says of a value in a later store that it is what copying leaves of another
one, and it does not tell a copy from a copy of a copy. Two values that repeat the same
one have the same content. As elsewhere, functions stand for themselves, and what an
object derives from does not belong to it.

## Main definitions

* `Store.Clones`: Values that lead to objects that can be copied.
* `Store.LastsOn`, `Store.Lasts`: Graphs of which nothing gets lost.
* `Store.RepeatsOn`: What is left of a graph, under other addresses.
* `Store.Repeats`: Values that are what copying leaves.

## Theorems

* `Store.RepeatsOn.lastsOn`: What repeats a graph lasts.
* `Store.Repeats.trans`, `Store.Repeats.of_common`: Repeating what repeats, and
  repeating the same.
* `Store.Clones.copy`: A copy repeats what was copied.
-/

namespace Stencil

/-! ### Holding other addresses -/

theorem Body.family_rename (f : Ref → Ref) (b : Body) : (b.rename f).family = b.family := by
  cases b with
  | boxed v => cases v <;> rfl
  | function p => cases p <;> rfl
  | _ => rfl

namespace Object

variable {f g : Ref → Ref} {o o' : Object}

theorem carry_carry (o : Object) : (o.carry f).carry g = o.carry (g ∘ f) := by
  have fields : (o.fields.map fun e => (e.1, (e.2.carry f).carry g))
      = o.fields.map fun e => (e.1, e.2.carry (g ∘ f)) := by
    refine List.map_congr_left fun e _ => ?_
    rcases e with ⟨key, ⟨_, slot⟩⟩
    cases slot with
    | data v => simp only [Property.carry, Slot.carry, Value.rename_rename]
    | accessor getter setter => rfl
  simp only [carry, Body.rename_rename, List.map_map]
  exact congrArg (fun fields => { o with
    fields := fields, integrity := {}, body := o.body.rename (g ∘ f) }) fields

theorem held_carry (o : Object) : (o.carry f).held = o.held.map f := by
  rw [held, held, parts_carry, List.flatMap_map, List.map_flatMap]
  exact List.flatMap_congr fun v _ => v.refs_rename

/-- What is bare is so under other addresses. -/
theorem bare_of_carry {b : Body} {integrity : Integrity} (there : o = .bare b integrity)
    (same : o'.unlocked = o.carry f) : o' = .bare (b.rename f) o'.integrity := by
  rcases o' with ⟨prototype, fields, integrity', body⟩
  rw [there] at same
  simp only [unlocked, carry, bare, ofBody, mk.injEq] at same
  rcases same with ⟨rfl, rfl, -, rfl⟩
  simp only [bare, ofBody, Body.family_rename, List.map_nil]

/-- Whether an object is locked does not matter to its copy. -/
theorem settled_unlocked (o : Object) : o.unlocked.settled = o.settled := by
  cases o with
  | mk prototype fields integrity body => rfl

/-- Nothing more gets lost of what was copied. -/
theorem settled_carry_settled (f : Ref → Ref) (o : Object) :
    (o.settled.carry f).settled = o.settled.carry f := by
  by_cases buffer : ∃ w, o.body = .octets .buffer w
  · rcases buffer with ⟨w, body⟩
    simp only [settled, body]
    rfl
  · have other : ∀ w, o.body ≠ .octets .buffer w := fun w body => buffer ⟨w, body⟩
    have still : ∀ w, (o.settled.carry f).body ≠ .octets .buffer w := by
      intro w body
      rw [settled_of_ne other] at body
      change (o.body.settled.rename f) = .octets .buffer w at body
      generalize o.body = b at other body
      cases b with
      | octets c window =>
          cases body
          exact other w rfl
      | function p => cases p <;> cases body
      | _ => cases body
    refine settled_of_body still ?_
    rw [settled_of_ne other]
    exact settled_rename_settled f o.body

/-- A copy refers to nothing that the object does not refer to. -/
theorem mem_refs_settled {q : Ref} (hq : q ∈ o.settled.refs) : q ∈ o.refs := by
  by_cases buffer : ∃ w, o.body = .octets .buffer w
  · rcases buffer with ⟨w, body⟩
    simp only [settled, body] at hq
    cases hq
  · rw [settled_of_ne fun w body => buffer ⟨w, body⟩] at hq
    rcases List.mem_append.mp hq with rest | body
    · exact List.mem_append_left _ rest
    · refine List.mem_append_right _ ?_
      change q ∈ o.body.settled.refs at body
      generalize o.body = b at body
      cases b with
      | array elements =>
          rw [Body.settled, Body.refs, List.flatMap_map] at body
          exact body
      | pattern p lastIndex => cases body
      | _ => exact body

/-- An object refers to what it derives from, to functions that compute its properties,
    and to what it holds. Of these, only what it holds is put under other addresses. -/
theorem mem_refs_carry (fillable : o.body.Fillable) {q : Ref} (hq : q ∈ (o.carry f).refs) :
    q ∈ o.refs ∨ ∃ p ∈ o.held, q = f p := by
  rw [refs, List.mem_append, List.mem_append] at hq
  rcases hq with (above | field) | body
  · exact .inl (List.mem_append_left _ (List.mem_append_left _ above))
  · rcases List.mem_flatMap.mp field with ⟨e, he, hq⟩
    rcases List.mem_map.mp he with ⟨d, hd, rfl⟩
    rcases d with ⟨key, ⟨_, slot⟩⟩
    cases slot with
    | data v =>
        have hq : q ∈ (v.rename f).refs := hq
        rw [Value.refs_rename] at hq
        rcases List.mem_map.mp hq with ⟨p, hp, rfl⟩
        refine .inr ⟨p, ?_, rfl⟩
        rw [held_eq, Keyed.parts, List.flatMap_assoc]
        exact List.mem_append_left _ (List.mem_flatMap.mpr
          ⟨_, hd, List.mem_flatMap.mpr ⟨v, List.mem_cons_self, hp⟩⟩)
    | accessor getter setter =>
        exact .inl (List.mem_append_left _ (List.mem_append_right _
          (List.mem_flatMap.mpr ⟨_, hd, hq⟩)))
  · have hq : q ∈ (o.body.rename f).refs := body
    rw [Body.refs_rename] at hq
    rcases List.mem_map.mp hq with ⟨p, hp, rfl⟩
    refine .inr ⟨p, ?_, rfl⟩
    rw [held_eq]
    exact List.mem_append_right _ (fillable.refs_eq ▸ hp)

end Object

namespace Store

/-! ### Graphs that last -/

/-- A value that leads to objects that can be copied, and to functions. -/
def Clones (st : Store) (v : Value) : Prop :=
  ∃ S, st.ClonesOn S ∧ ∀ q ∈ v.refs, q ∈ S ∨ (st.get q).isFunction = true

/-- Objects that can be copied, at the addresses of a closed set, of which nothing gets
    lost by that. -/
structure LastsOn (st : Store) (S : Set Ref) : Prop extends st.ClonesOn S where
  whole : ∀ r ∈ S, (st.get r).settled = (st.get r).unlocked

/-- A value that leads to such objects and to functions. -/
def Lasts (st : Store) (v : Value) : Prop :=
  ∃ S, st.LastsOn S ∧ ∀ q ∈ v.refs, q ∈ S ∨ (st.get q).isFunction = true

/-- In a later store there is what copying leaves of the objects of a graph, under other
    addresses and up to whether they are locked. -/
structure RepeatsOn (f : Ref → Ref) (S : Set Ref) (st st' : Store) : Prop where
  on : st.ClonesOn S
  grown : st.Extends st'
  injective : Set.InjOn f S
  functions : ∀ r, (st.get r).isFunction = true → f r = r
  inside : ∀ r ∈ S, (f r).index < st'.objects.size
  get_eq : ∀ r ∈ S, (st'.get (f r)).unlocked = (st.get r).settled.carry f

/-- A value in a later store is what copying leaves of another one. -/
def Repeats (st st' : Store) (v w : Value) : Prop :=
  ∃ f S, RepeatsOn f S st st' ∧ (∀ q ∈ v.refs, q ∈ S ∨ (st.get q).isFunction = true)
    ∧ w = v.rename f

variable {st st' st'' : Store} {S T : Set Ref} {r : Ref} {v w x : Value} {f g : Ref → Ref}

theorem Clonable.isFunction_settled (clonable : st.Clonable r) :
    (st.get r).settled.isFunction = false := by
  have fillable := clonable.fillable
  rw [Object.isFunction]
  cases h : (st.get r).settled.body with
  | function p =>
      rw [h] at fillable
      cases fillable
  | _ => rfl

theorem Clonable.held_settled (clonable : st.Clonable r) :
    (st.get r).settled.held = (st.get r).held := by
  rw [Object.held, Object.held, clonable.parts_settled]

theorem ClonesOn.extends (on : st.ClonesOn S) (h : st.Extends st') : st'.ClonesOn S where
  clonable r hr := (on.clonable r hr).extends (on.inside r hr) h
  inside r hr := Nat.lt_of_lt_of_le (on.inside r hr) h.size_le
  closed r hr q hq := by
    rw [h.get_eq r (on.inside r hr)] at hq
    refine (on.closed r hr q hq).imp id fun function => ?_
    rw [h.get_eq q (index_lt_of_isFunction function)]
    exact function

theorem ClonesOn.inter (on : st.ClonesOn S) (on' : st.ClonesOn T) : st.ClonesOn (S ∩ T) where
  clonable r hr := on.clonable r hr.1
  inside r hr := on.inside r hr.1
  closed r hr q hq := by
    rcases on.closed r hr.1 q hq with mem | function
    · exact (on'.closed r hr.2 q hq).imp (⟨mem, ·⟩) id
    · exact .inr function

theorem Lasts.clones (lasts : st.Lasts v) : st.Clones v := by
  rcases lasts with ⟨S, on, reached⟩
  exact ⟨S, on.toClonesOn, reached⟩

/-- What leads to nothing can be copied. -/
theorem clones_of_refs (simple : v.refs = []) : st.Clones v := by
  refine ⟨∅, ⟨fun _ hr => hr.elim, fun _ hr => hr.elim, fun _ hr => hr.elim⟩, fun q hq => ?_⟩
  rw [simple] at hq
  cases hq

namespace Clones

theorem holds (clones : st.Clones v) : st.Holds v := by
  rcases clones with ⟨S, on, reached⟩
  exact fun q hq => (reached q hq).elim (on.inside q) index_lt_of_isFunction

theorem later (clones : st.Clones v) (h : st.Extends st') : st'.Clones v := by
  rcases clones with ⟨S, on, reached⟩
  refine ⟨S, on.extends h, fun q hq => (reached q hq).imp id fun function => ?_⟩
  rw [h.get_eq q (index_lt_of_isFunction function)]
  exact function

/-- What is copied as a graph is no template. -/
theorem templateRef?_eq_none (clones : st.Clones v) (untouched : st.Untouched) :
    st.templateRef? v = none := by
  rcases clones with ⟨S, on, reached⟩
  cases v with
  | object r =>
      rw [templateRef?, if_neg]
      intro template
      rcases untouched r template with ⟨t, there⟩
      rcases reached r List.mem_cons_self with mem | function
      · rw [(on.clonable r mem).template?] at there
        cases there
      · rw [Object.isFunction, body_of_template? there] at function
        cases function
  | _ => rfl

end Clones

/-- What an object derives from is told by its prototype. -/
theorem Ordinary.of_prototype {q : Ref} (ordinary : st.Ordinary r) (h : st.Extends st')
    (same : (st'.get q).prototype = (st.get r).prototype) : st'.Ordinary q := by
  cases ordinary with
  | none next => exact .none (same.trans next)
  | family next other => exact .family (same.trans next) other
  | object next inside rest =>
      exact .object (same.trans next) (Nat.lt_of_lt_of_le inside h.size_le) (rest.extends inside h)

/-! ### Repeating -/

namespace RepeatsOn

theorem isFunction_eq (repeats : RepeatsOn f S st st') (hr : r ∈ S) :
    (st'.get (f r)).isFunction = false := by
  have same : (st'.get (f r)).unlocked.isFunction = ((st.get r).settled.carry f).isFunction := by
    rw [repeats.get_eq r hr]
  rw [Object.isFunction_carry, (repeats.on.clonable r hr).isFunction_settled] at same
  exact same

theorem isFunction_function (repeats : RepeatsOn f S st st')
    (function : (st.get r).isFunction = true) : (st'.get r).isFunction = true := by
  rw [repeats.grown.get_eq r (index_lt_of_isFunction function)]
  exact function

/-- No function is at the address of an object. -/
theorem injOn_functions (repeats : RepeatsOn f S st st') :
    Set.InjOn f {r | r ∈ S ∨ (st.get r).isFunction = true} := by
  have apart : ∀ r ∈ S, ∀ q, (st.get q).isFunction = true → f r ≠ f q := by
    intro r hr q function same
    have object := repeats.isFunction_eq hr
    rw [same, repeats.functions q function, repeats.isFunction_function function] at object
    cases object
  rintro r (hr | hr) q (hq | hq) same
  · exact repeats.injective hr hq same
  · exact absurd same (apart r hr q hq)
  · exact absurd same.symm (apart q hq r hr)
  · rwa [repeats.functions r hr, repeats.functions q hq] at same

theorem mono (repeats : RepeatsOn f S st st') (on : st.ClonesOn T) (le : T ⊆ S) :
    RepeatsOn f T st st' where
  on := on
  grown := repeats.grown
  injective := repeats.injective.mono le
  functions := repeats.functions
  inside r hr := repeats.inside r (le hr)
  get_eq r hr := repeats.get_eq r (le hr)

theorem prototype_eq (repeats : RepeatsOn f S st st') (hr : r ∈ S) :
    (st'.get (f r)).prototype = (st.get r).settled.prototype := by
  have same : (st'.get (f r)).unlocked.prototype = ((st.get r).settled.carry f).prototype := by
    rw [repeats.get_eq r hr]
  exact same

theorem body_eq (repeats : RepeatsOn f S st st') (hr : r ∈ S) :
    (st'.get (f r)).body = (st.get r).settled.body.rename f := by
  have same : (st'.get (f r)).unlocked.body = ((st.get r).settled.carry f).body := by
    rw [repeats.get_eq r hr]
  exact same

theorem held_eq (repeats : RepeatsOn f S st st') (hr : r ∈ S) :
    (st'.get (f r)).held = (st.get r).held.map f := by
  have same : (st'.get (f r)).held = ((st.get r).settled.carry f).held := by
    rw [← repeats.get_eq r hr]
    rfl
  rw [same, Object.held_carry, (repeats.on.clonable r hr).held_settled]

/-- Nothing more gets lost. -/
theorem settled_eq (repeats : RepeatsOn f S st st') (hr : r ∈ S) :
    (st'.get (f r)).settled = (st.get r).settled.carry f := by
  rw [← Object.settled_unlocked, repeats.get_eq r hr, Object.settled_carry_settled]

/-- What repeats an object that can be copied can be copied. -/
theorem clonable (repeats : RepeatsOn f S st st') (hr : r ∈ S) : st'.Clonable (f r) := by
  have same := repeats.get_eq r hr
  have clonable := repeats.on.clonable r hr
  -- Keys and elements that differ are still different in the copy.
  have injective : Set.InjOn f {q | q ∈ (st.get r).settled.body.refs} := by
    refine repeats.injOn_functions.mono fun q hq => repeats.on.closed r hr q ?_
    rw [← clonable.held_settled, Object.held_eq]
    exact List.mem_append_right _ (clonable.fillable.refs_eq ▸ hq)
  cases clonable with
  | record body ordinary =>
      have copyable : st.Copyable r := .record body ordinary
      have next := repeats.prototype_eq hr
      have body' := repeats.body_eq hr
      rw [copyable.settled_eq] at next body'
      refine .record ?_ (ordinary.of_prototype repeats.grown next)
      rw [body']
      change (st.get r).body.rename f = _
      rw [body]
      rfl
  | @array elements integrity there =>
      rw [there] at same
      have bare : (Object.bare (.array elements) integrity).settled
          = .bare (.array (elements.map fun element => some (element.getD .undefined))) {} := rfl
      exact .array _ (Object.bare_of_carry bare same)
  | map entries distinct there =>
      rw [there] at same injective
      refine .map _ ?_ (Object.bare_of_carry rfl same)
      have keys : (entries.map fun e => (e.1.rename f, e.2.rename f)).map Prod.fst
          = (entries.map Prod.fst).map (Value.rename f) := by
        rw [List.map_map, List.map_map]
        rfl
      rw [keys]
      refine distinct.rename (injective.mono ?_)
      rintro q ⟨v, hv, hq⟩
      rcases List.mem_map.mp hv with ⟨e, he, rfl⟩
      exact List.mem_flatMap.mpr ⟨e, he, List.mem_append_left _ hq⟩
  | set elements distinct there =>
      rw [there] at same injective
      refine .set _ (distinct.rename (injective.mono ?_)) (Object.bare_of_carry rfl same)
      rintro q ⟨v, hv, hq⟩
      exact List.mem_flatMap.mpr ⟨v, hv, hq⟩
  | date instant within there =>
      rw [there] at same
      exact .date instant within (Object.bare_of_carry rfl same)
  | @pattern p lastIndex normal integrity there =>
      rw [there] at same
      have bare : (Object.bare (.pattern p lastIndex) integrity).settled
          = .bare (.pattern p (.number (Number.ofInt 0))) {} := rfl
      exact .pattern p _ normal (Object.bare_of_carry bare same)
  | url href normal there =>
      rw [there] at same
      exact .url href normal (Object.bare_of_carry rfl same)
  | boxed v simple there =>
      rw [there] at same
      refine .boxed (v.rename f) ?_ (Object.bare_of_carry rfl same)
      cases v <;> exact simple
  | octets c w there =>
      rw [there] at same
      cases c <;> exact .octets _ w (Object.bare_of_carry rfl same)

/-- What repeats a graph lasts. -/
theorem lastsOn (repeats : RepeatsOn f S st st') : st'.LastsOn (f '' S) where
  clonable := by
    rintro _ ⟨r, hr, rfl⟩
    exact repeats.clonable hr
  inside := by
    rintro _ ⟨r, hr, rfl⟩
    exact repeats.inside r hr
  closed := by
    rintro _ ⟨r, hr, rfl⟩ q hq
    rw [repeats.held_eq hr] at hq
    rcases List.mem_map.mp hq with ⟨p, hp, rfl⟩
    rcases repeats.on.closed r hr p hp with mem | function
    · exact .inl ⟨p, mem, rfl⟩
    · rw [repeats.functions p function]
      exact .inr (repeats.isFunction_function function)
  whole := by
    rintro _ ⟨r, hr, rfl⟩
    rw [repeats.settled_eq hr, repeats.get_eq r hr]

/-- Part of a graph is one of its own if what it turns into is among the objects of
    another one. -/
theorem restrict (repeats : RepeatsOn f S st st') (on : st'.ClonesOn T) :
    st.ClonesOn {r | r ∈ S ∧ f r ∈ T} where
  clonable r hr := repeats.on.clonable r hr.1
  inside r hr := repeats.on.inside r hr.1
  closed := by
    intro r hr q hq
    rcases repeats.on.closed r hr.1 q hq with mem | function
    · refine .inl ⟨mem, ?_⟩
      have held : f q ∈ (st'.get (f r)).held := by
        rw [repeats.held_eq hr.1]
        exact List.mem_map_of_mem hq
      refine (on.closed (f r) hr.2 (f q) held).resolve_right fun function => ?_
      rw [repeats.isFunction_eq mem] at function
      cases function
    · exact .inr function

/-- Repeating what repeats a graph. -/
theorem trans (first : RepeatsOn f S st st') (second : RepeatsOn g T st' st'') :
    RepeatsOn (g ∘ f) {r | r ∈ S ∧ f r ∈ T} st st'' where
  on := first.restrict second.on
  grown := first.grown.trans second.grown
  injective r hr q hq same :=
    first.injective hr.1 hq.1 (second.injective hr.2 hq.2 same)
  functions r function := by
    rw [Function.comp_apply, first.functions r function,
      second.functions r (first.isFunction_function function)]
  inside r hr := second.inside (f r) hr.2
  get_eq r hr := by
    rw [Function.comp_apply, second.get_eq (f r) hr.2, first.settled_eq hr.1, Object.carry_carry]

/-- Two graphs that repeat the same one repeat each other. -/
theorem of_common (first : RepeatsOn f S st st') (second : RepeatsOn g S st st') :
    ∃ h, RepeatsOn h (f '' S) st' st' ∧ (∀ r ∈ S, h (f r) = g r)
      ∧ ∀ r, (st.get r).isFunction = true → h r = r := by
  classical
  -- Back to the common graph, and from there to the other one. What is no object of the
  -- first graph is left alone.
  let h : Ref → Ref := fun q => if q ∈ f '' S then g (Function.invFunOn f S q) else q
  have there : ∀ r ∈ S, h (f r) = g r := by
    intro r hr
    have image : f r ∈ f '' S := ⟨r, hr, rfl⟩
    have back := Function.invFunOn_mem image
    have same := Function.invFunOn_eq image
    exact (if_pos image).trans (congrArg g (first.injective back hr same))
  have functions : ∀ r, (st'.get r).isFunction = true → h r = r := by
    intro r function
    refine if_neg ?_
    rintro ⟨q, hq, rfl⟩
    rw [first.isFunction_eq hq] at function
    cases function
  refine ⟨h, ⟨first.lastsOn.toClonesOn, .refl st', ?_, functions, ?_, ?_⟩, there,
    fun r function => functions r (first.isFunction_function function)⟩
  · rintro _ ⟨r, hr, rfl⟩ _ ⟨q, hq, rfl⟩ same
    rw [there r hr, there q hq] at same
    rw [second.injective hr hq same]
  · rintro _ ⟨r, hr, rfl⟩
    rw [there r hr]
    exact second.inside r hr
  · rintro _ ⟨r, hr, rfl⟩
    have clonable := first.on.clonable r hr
    rw [there r hr, second.get_eq r hr, first.settled_eq hr, Object.carry_carry]
    refine (Object.carry_congr clonable.fillable fun q hq => ?_).symm
    rw [clonable.held_settled] at hq
    rcases first.on.closed r hr q hq with mem | function
    · exact there q mem
    · rw [Function.comp_apply, first.functions q function, second.functions q function,
        functions q (first.isFunction_function function)]

end RepeatsOn

namespace Repeats

theorem clones (repeats : st.Repeats st' v w) : st.Clones v := by
  rcases repeats with ⟨f, S, on, reached, -⟩
  exact ⟨S, on.on, reached⟩

theorem lasts (repeats : st.Repeats st' v w) : st'.Lasts w := by
  rcases repeats with ⟨f, S, on, reached, rfl⟩
  refine ⟨f '' S, on.lastsOn, fun q hq => ?_⟩
  rw [Value.refs_rename] at hq
  rcases List.mem_map.mp hq with ⟨p, hp, rfl⟩
  rcases reached p hp with mem | function
  · exact .inl ⟨p, mem, rfl⟩
  · rw [on.functions p function]
    exact .inr (on.isFunction_function function)

theorem trans (first : st.Repeats st' v w) (second : st'.Repeats st'' w x) :
    st.Repeats st'' v x := by
  rcases first with ⟨f, S, on, reached, rfl⟩
  rcases second with ⟨g, T, on', reached', rfl⟩
  refine ⟨g ∘ f, _, on.trans on', fun q hq => ?_, Value.rename_rename v⟩
  rcases reached q hq with mem | function
  · refine .inl ⟨mem, (reached' (f q) ?_).resolve_right fun function => ?_⟩
    · rw [Value.refs_rename]
      exact List.mem_map_of_mem hq
    · rw [on.isFunction_eq mem] at function
      cases function
  · exact .inr function

/-- What repeats something goes on to do so while what can be copied stays the same. -/
theorem of_same (repeats : st.Repeats st' v w) (grown : st.Extends st'')
    (size_le : st'.objects.size ≤ st''.objects.size)
    (same : ∀ r, r.index < st'.objects.size → st'.Clonable r → st''.get r = st'.get r) :
    st.Repeats st'' v w := by
  rcases repeats with ⟨f, S, on, reached, rfl⟩
  refine ⟨f, S, { on with
    grown := grown
    inside := fun r hr => Nat.lt_of_lt_of_le (on.inside r hr) size_le
    get_eq := fun r hr => ?_ }, reached, rfl⟩
  rw [same _ (on.inside r hr) (on.clonable hr)]
  exact on.get_eq r hr

/-- What a value repeats, it repeats from an earlier store on, if that could be copied
    there. -/
theorem earlier (repeats : st'.Repeats st'' v w) (h : st.Extends st') (clones : st.Clones v) :
    st.Repeats st'' v w := by
  rcases repeats with ⟨f, S, on, reached, rfl⟩
  rcases clones with ⟨T, on', reached'⟩
  -- What is no function now was none before.
  have object : ∀ {q}, q ∈ T → q ∈ S ∨ (st'.get q).isFunction = true → q ∈ S := by
    intro q mem either
    refine either.resolve_right fun function => ?_
    rw [h.get_eq q (on'.inside q mem), (on'.clonable q mem).isFunction] at function
    cases function
  have both : st.ClonesOn (S ∩ T) := by
    refine ⟨fun r hr => on'.clonable r hr.2, fun r hr => on'.inside r hr.2, fun r hr q hq => ?_⟩
    rcases on'.closed r hr.2 q hq with mem | function
    · have held := on.on.closed r hr.1 q (h.get_eq r (on'.inside r hr.2) ▸ hq)
      exact .inl ⟨object mem held, mem⟩
    · exact .inr function
  refine ⟨f, S ∩ T, ⟨both, h.trans on.grown, on.injective.mono Set.inter_subset_left,
    fun r function => on.functions r ?_, fun r hr => on.inside r hr.1, fun r hr => ?_⟩,
    fun q hq => ?_, rfl⟩
  · rw [h.get_eq r (index_lt_of_isFunction function)]
    exact function
  · rw [on.get_eq r hr.1, h.get_eq r (on'.inside r hr.2)]
  · rcases reached' q hq with mem | function
    · exact .inl ⟨object mem (reached q hq), mem⟩
    · exact .inr function

/-- Two values that repeat the same one have the same content. -/
theorem of_common (first : st.Repeats st' v w) (second : st.Repeats st' v x) :
    st'.Repeats st' w x := by
  rcases first with ⟨f, S, on, reached, rfl⟩
  rcases second with ⟨g, T, on', reached', rfl⟩
  -- Both copied what can be reached, and that is in both graphs.
  have both := on.on.inter on'.on
  rcases (on.mono both Set.inter_subset_left).of_common (on'.mono both Set.inter_subset_right) with
    ⟨h, repeats, there, functions⟩
  have reached'' : ∀ q ∈ v.refs, q ∈ S ∩ T ∨ (st.get q).isFunction = true := by
    intro q hq
    rcases reached q hq with mem | function
    · exact (reached' q hq).imp (⟨mem, ·⟩) id
    · exact .inr function
  refine ⟨h, _, repeats, fun q hq => ?_, ?_⟩
  · rw [Value.refs_rename] at hq
    rcases List.mem_map.mp hq with ⟨p, hp, rfl⟩
    rcases reached'' p hp with mem | function
    · exact .inl ⟨p, mem, rfl⟩
    · rw [on.functions p function]
      exact .inr (on.isFunction_function function)
  · rw [Value.rename_rename]
    refine Value.rename_congr fun q hq => ?_
    rcases reached'' q hq with mem | function
    · exact (there q mem).symm
    · rw [Function.comp_apply, on.functions q function, on'.functions q function,
        functions q function]

end Repeats

/-! ### Copies -/

/-- A copy repeats what was copied, and it keeps the store intact. -/
theorem Clones.copy (interp : Interpretation) (clones : st.Clones v) :
    ∃ st' w, st.copy interp v = .ok (st', w) ∧ st.Extends st' ∧ st.Repeats st' v w
      ∧ (st.Intact → st'.Intact) := by
  rcases clones with ⟨S, on, reached⟩
  rcases copy_clones interp on reached with ⟨state, gives, sound, formed, settled⟩
  have source : ∀ r ∈ state.known, r ∈ S := fun r hr => sound.sources r hr
  have form : ∀ r ∈ state.known, Copying.Formed st state (r, state.target r) :=
    fun r hr => formed _ (Copying.mem_copies_target hr)
  have fresh : ∀ r ∈ state.known, (state.target r).index < state.store.objects.size :=
    fun r hr => (sound.fresh _ (Copying.mem_copies_target hr)).2
  refine ⟨state.store, v.rename state.target, gives, sound.grown,
    ⟨state.target, {r | r ∈ state.known}, ⟨⟨fun r hr => on.clonable r (source r hr),
      fun r hr => on.inside r (source r hr), fun r hr => (form r hr).settled⟩, sound.grown,
      (sound.injOn_settled on.object).mono fun r hr => .inl hr,
      fun r function => sound.target_of_function on.object function, fresh,
      fun r hr => ?_⟩, settled, rfl⟩, fun intact => ?_⟩
  · rw [(form r hr).get_eq]
    rfl
  · refine ⟨fun r inside q hq => ?_, untouched_of_copies intact on sound formed⟩
    by_cases old : r.index < st.objects.size
    · rw [sound.grown.get_eq r old] at hq
      exact Nat.lt_of_lt_of_le (intact.closed r old q hq) sound.grown.size_le
    · -- What is new is a copy, and refers to old objects and to copies.
      rcases List.mem_map.mp (sound.complete r (Nat.le_of_not_lt old) inside) with ⟨e, he, rfl⟩
      have hr : e.1 ∈ state.known := List.mem_map_of_mem he
      have clonable := on.clonable e.1 (source e.1 hr)
      rw [(formed e he).get_eq] at hq
      rcases Object.mem_refs_carry clonable.fillable hq with before | ⟨p, hp, rfl⟩
      · exact Nat.lt_of_lt_of_le (intact.closed e.1 (on.inside e.1 (source e.1 hr)) q
          (Object.mem_refs_settled before)) sound.grown.size_le
      · rw [clonable.held_settled] at hp
        rcases (formed e he).settled p hp with known | function
        · exact fresh p known
        · rw [sound.target_of_function on.object function]
          exact Nat.lt_of_lt_of_le (index_lt_of_isFunction function) sound.grown.size_le

end Store

end Stencil
