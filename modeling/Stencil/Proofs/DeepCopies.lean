import Stencil.Proofs.GraphCopies
import Stencil.Routine

/-!
# Deep Copies

What can be reached from a copy, and what from the original.

The objects that can be reached from a value are those that it leads to by what
objects hold: elements, entries, and the values of properties. Neither the
prototype of an object nor a function that computes a property is reached that
way, and functions are where the way ends.

If everything that can be reached can be copied, a deep copy succeeds, and
what can be reached from the copy is an image of what can be reached from the
original, object by object. All objects of the image are new, so the copy and
the original share none, and the original is as it was.

Objects without a kind of their own keep their prototype and all that they say of
their properties. Those of a built-in kind are made anew, whatever class they are
an instance of and however they are locked, so what is kept of them is what the
kind holds, in its order.

## Main definitions

* `Store.Reaches`: What can be reached from a value.
* `Object.renewed`: What the copy of an object is filled from.
* `Store.Renewable`: Objects whose copy is filled from that.

## Theorems

* `Store.reaches_of_closed`: What can be reached stays within a closed set.
* `Store.copy_isomorphic`: A deep copy is an isomorphic image, and new.
-/

namespace Stencil

namespace Object

theorem mem_held {o : Object} {q : Ref} : q ∈ o.held ↔ .object q ∈ o.parts := by
  constructor
  · intro held
    rcases List.mem_flatMap.mp held with ⟨v, mem, hq⟩
    cases v with
    | object r =>
        rw [List.mem_singleton.mp hq]
        exact mem
    | _ => cases hq
  · intro mem
    exact List.mem_flatMap.mpr ⟨_, mem, List.mem_cons_self⟩

end Object

namespace Store

/-- What can be reached from a value by what objects hold, functions apart. -/
inductive Reaches (st : Store) (v : Value) : Ref → Prop
  | root {r : Ref} (same : v = .object r) (object : (st.get r).isFunction = false) : Reaches st v r
  | step {r q : Ref} (before : Reaches st v r) (held : .object q ∈ (st.get r).parts)
      (object : (st.get q).isFunction = false) : Reaches st v q

variable {st st' : Store} {v w : Value} {r : Ref}

theorem Reaches.isFunction (reached : st.Reaches v r) : (st.get r).isFunction = false := by
  cases reached with
  | root _ object => exact object
  | step _ _ object => exact object

/-- What a value leads to is also reached from what leads to an object that holds the
    value. -/
theorem Reaches.of_part {q : Ref} (above : st.Reaches v r) (held : w ∈ (st.get r).parts)
    (reached : st.Reaches w q) : st.Reaches v q := by
  induction reached with
  | root same object => exact .step above (same ▸ held) object
  | step _ mem object ih => exact .step ih mem object

/-- Within a set of objects that hold no others but functions, everything stays in
    the set. -/
theorem reaches_of_closed {S : Set Ref}
    (start : ∀ q ∈ v.refs, (st.get q).isFunction = false → q ∈ S)
    (closed : ∀ r ∈ S, ∀ q ∈ (st.get r).held, (st.get q).isFunction = false → q ∈ S)
    (reached : st.Reaches v r) : r ∈ S := by
  induction reached with
  | root same object => exact start _ (same ▸ List.mem_cons_self) object
  | step before held object ih => exact closed _ ih _ (Object.mem_held.mpr held) object

/-- What the objects of a graph turn into can be reached just as they can. -/
theorem bijOn_reaches {f : Ref → Ref} {start : Ref → Object}
    (injective : Set.InjOn f {r | st.Reaches v r})
    (functions : ∀ r, (st.get r).isFunction = true → f r = r)
    (kept : ∀ r, (st.get r).isFunction = true → (st'.get r).isFunction = true)
    (object : ∀ r, st.Reaches v r → (start r).isFunction = false)
    (parts : ∀ r, st.Reaches v r → (start r).parts = (st.get r).parts)
    (get_eq : ∀ r, st.Reaches v r → st'.get (f r) = (start r).carry f) :
    Set.BijOn f {r | st.Reaches v r} {r | st'.Reaches (v.rename f) r} := by
  have notCalled : ∀ r, st.Reaches v r → (st'.get (f r)).isFunction = false := by
    intro r hr
    rw [get_eq r hr, Object.isFunction_carry]
    exact object r hr
  have held : ∀ r, st.Reaches v r →
      (st'.get (f r)).parts = (st.get r).parts.map (Value.rename f) := by
    intro r hr
    rw [get_eq r hr, Object.parts_carry, parts r hr]
  refine ⟨?_, injective, ?_⟩
  · intro r hr
    have reached : st.Reaches v r := hr
    change st'.Reaches (v.rename f) (f r)
    induction reached with
    | root same function =>
        subst same
        exact .root rfl (notCalled _ hr)
    | @step r q before mem function ih =>
        -- What the image holds are the images of what is held.
        refine .step (ih before) ?_ (notCalled q hr)
        rw [held r before]
        exact List.mem_map_of_mem mem
  · intro p hp
    have reached : st'.Reaches (v.rename f) p := hp
    clear hp
    -- Whatever is not the image of an object is that of a function.
    have origin : ∀ q, (st'.get (f q)).isFunction = false → (st.get q).isFunction = false := by
      intro q notCallable
      by_contra callable
      have function : (st.get q).isFunction = true := Bool.not_eq_false _ ▸ callable
      rw [functions q function, kept q function] at notCallable
      cases notCallable
    induction reached with
    | root same notCallable =>
        cases v with
        | object r =>
            have address : f r = _ := Value.object.inj same
            rw [← address] at notCallable ⊢
            exact ⟨r, Reaches.root rfl (origin r notCallable), rfl⟩
        | _ => cases same
    | @step p p' before mem notCallable ih =>
        rcases ih with ⟨r, hr, rfl⟩
        have reached : st.Reaches v r := hr
        rw [held r reached] at mem
        rcases List.mem_map.mp mem with ⟨u, mem, same⟩
        cases u with
        | object q =>
            have address : f q = p' := Value.object.inj same
            rw [← address] at notCallable ⊢
            exact ⟨q, Reaches.step reached mem (origin q notCallable), rfl⟩
        | _ => cases same

end Store

/-! ### What is kept -/

/-- What the copy of an object is filled from. An object without a kind of its own is
    kept, with its prototype, its keys and their attributes; one of a built-in kind is
    made anew from what the kind holds. -/
def Object.renewed (o : Object) : Object :=
  match o.body with
  | .record => o.unlocked
  | b => .ofBody b

theorem Object.unlocked_renewed (o : Object) : o.renewed.unlocked = o.renewed := by
  rw [renewed]
  split <;> rfl

namespace Store

variable {st st' : Store} {v : Value} {r : Ref}

/-- An object of a kind is made anew from what the kind holds. -/
theorem Genuine.renewed_eq {b : Body} (genuine : st.Genuine r b) (kind : b ≠ .record) :
    (st.get r).renewed = .ofBody b := by
  rw [Object.renewed, genuine.body_eq]
  cases b with
  | record => exact absurd rfl kind
  | _ => rfl

/-- An object whose copy is filled from what is kept of it: an instance of whatever
    class that derives from no built-in kind, or an object of a built-in kind, maybe an
    instance of a class as well, that has what copying asks of it from the kind. -/
inductive Renewable (st : Store) (r : Ref) : Prop
  /-- Properties of all kinds, under a prototype that may be any object. -/
  | record (body : (st.get r).body = .record) (ordinary : st.Ordinary r)
  | array (elements : List Value) (genuine : st.Genuine r (.array (elements.map some)))
  | map (entries : List (Value × Value)) (distinct : Distinct (entries.map Prod.fst))
      (genuine : st.Genuine r (.map entries))
  | set (elements : List Value) (distinct : Distinct elements)
      (genuine : st.Genuine r (.set elements))
  | date (instant : Option Instant)
      (within : ∀ ms ∈ instant, -Instant.reach ≤ ms ∧ ms ≤ Instant.reach)
      (genuine : st.Genuine r (.date instant))
  | pattern (p : Pattern) (normal : p.IsNormal)
      (genuine : st.Genuine r (.pattern p (.number (Number.ofInt 0))))
  | url (href : String) (normal : Link.IsNormal href) (genuine : st.Genuine r (.url href))
  | boxed (v : Value) (simple : v.wrapper = .string ∨ v.wrapper = .number ∨ v.wrapper = .boolean)
      (genuine : st.Genuine r (.boxed v))

namespace Renewable

/-- The two ways in which an object is renewed. -/
theorem renewed_cases (renewable : st.Renewable r) :
    ((st.get r).body = .record ∧ (st.get r).renewed = (st.get r).unlocked)
      ∨ ∃ b, b.Fillable ∧ (st.get r).body = b ∧ (st.get r).fields = []
        ∧ (st.get r).renewed = .ofBody b := by
  cases renewable with
  | record body ordinary => exact .inl ⟨body, by rw [Object.renewed, body]⟩
  | array elements genuine =>
      exact .inr ⟨_, .array elements, genuine.body_eq, genuine.noFields, genuine.renewed_eq nofun⟩
  | map entries distinct genuine =>
      exact .inr ⟨_, .map entries distinct, genuine.body_eq, genuine.noFields,
        genuine.renewed_eq nofun⟩
  | set elements distinct genuine =>
      exact .inr ⟨_, .set elements distinct, genuine.body_eq, genuine.noFields,
        genuine.renewed_eq nofun⟩
  | date instant within genuine =>
      exact .inr ⟨_, .date instant, genuine.body_eq, genuine.noFields, genuine.renewed_eq nofun⟩
  | pattern p normal genuine =>
      exact .inr ⟨_, .pattern p _, genuine.body_eq, genuine.noFields, genuine.renewed_eq nofun⟩
  | url href normal genuine =>
      exact .inr ⟨_, .url href, genuine.body_eq, genuine.noFields, genuine.renewed_eq nofun⟩
  | boxed v simple genuine =>
      refine .inr ⟨_, .boxed v ?_, genuine.body_eq, genuine.noFields, genuine.renewed_eq nofun⟩
      cases v with
      | object q => rcases simple with h | h | h <;> cases h
      | _ => rfl

theorem fillable (renewable : st.Renewable r) : (st.get r).renewed.body.Fillable := by
  rcases renewable.renewed_cases with ⟨body, kept⟩ | ⟨b, fillable, -, -, made⟩
  · have same : (st.get r).renewed.body = .record := by rw [kept]; exact body
    rw [same]
    exact .record
  · rw [made]
    exact fillable

/-- Nothing that an object holds is lost. -/
theorem parts_renewed (renewable : st.Renewable r) :
    (st.get r).renewed.parts = (st.get r).parts := by
  rcases renewable.renewed_cases with ⟨-, kept⟩ | ⟨b, -, body, noFields, made⟩
  · rw [kept]
    rfl
  · rw [made, Object.parts, Object.parts, noFields, body]
    rfl

theorem isFunction_renewed (renewable : st.Renewable r) :
    (st.get r).renewed.isFunction = false := by
  have fillable := renewable.fillable
  rw [Object.isFunction]
  generalize (st.get r).renewed.body = b at fillable ⊢
  cases fillable <;> rfl

/-- What can be copied remains so while the store grows. -/
theorem of_extends (renewable : st.Renewable r) (inside : r.index < st.objects.size)
    (h : st.Extends st') : st'.Renewable r := by
  cases renewable with
  | record body ordinary =>
      exact .record (h.get_eq r inside ▸ body) (ordinary.extends inside h)
  | array elements genuine => exact .array elements (genuine.of_extends inside h)
  | map entries distinct genuine => exact .map entries distinct (genuine.of_extends inside h)
  | set elements distinct genuine => exact .set elements distinct (genuine.of_extends inside h)
  | date instant within genuine => exact .date instant within (genuine.of_extends inside h)
  | pattern p normal genuine => exact .pattern p normal (genuine.of_extends inside h)
  | url href normal genuine => exact .url href normal (genuine.of_extends inside h)
  | boxed v simple genuine => exact .boxed v simple (genuine.of_extends inside h)

/-- What the copy starts from. -/
theorem shell_eq (renewable : st.Renewable r) (interp : Interpretation) :
    st.shell interp r = .ok (st, .object (st.get r).renewed) := by
  cases renewable with
  | record body ordinary => rw [shell_record body ordinary, Object.renewed, body]
  | array elements genuine =>
      rw [shell_array genuine, visit_eq genuine, genuine.renewed_eq nofun]
      rfl
  | map entries distinct genuine => rw [shell_map genuine, genuine.renewed_eq nofun]
  | set elements distinct genuine => rw [shell_set genuine, genuine.renewed_eq nofun]
  | date instant within genuine =>
      rw [shell_date genuine, instantOf_milliseconds within, genuine.renewed_eq nofun]
      rfl
  | pattern p normal genuine => rw [shell_pattern normal genuine, genuine.renewed_eq nofun]
  | url href normal genuine => rw [shell_url normal genuine, genuine.renewed_eq nofun]
  | boxed v simple genuine => rw [shell_boxed simple genuine, genuine.renewed_eq nofun]

end Renewable

/-- What can be reached is a graph of its own. -/
theorem startsOn_reaches (interp : Interpretation)
    (renewable : ∀ r, st.Reaches v r → r.index < st.objects.size ∧ st.Renewable r) :
    st.StartsOn interp {r | st.Reaches v r} fun r => (st.get r).renewed where
  shell_eq r hr st' h := by
    rw [((renewable r hr).2.of_extends (renewable r hr).1 h).shell_eq,
      h.get_eq r (renewable r hr).1]
  fillable r hr := (renewable r hr).2.fillable
  unlocked_eq r _ := Object.unlocked_renewed _
  object r hr := Reaches.isFunction hr
  inside r hr := (renewable r hr).1
  closed := by
    intro r hr q hq
    rw [Object.mem_held, (renewable r hr).2.parts_renewed] at hq
    by_cases function : (st.get q).isFunction = true
    · exact .inr function
    · exact .inl (Reaches.step hr hq (Bool.eq_false_iff.mpr function))

/-- A deep copy of a value from which only objects that can be copied are reached
    is an image of these objects, all of it new: each of them turns into what is kept of
    it, where what is held is the copy of what was held, and functions stay. Nothing
    that there was changes. -/
theorem copy_isomorphic (interp : Interpretation)
    (renewable : ∀ r, st.Reaches v r → r.index < st.objects.size ∧ st.Renewable r) :
    ∃ st' w f, st.copy interp v = .ok (st', w) ∧ st.Extends st' ∧ w = v.rename f
      ∧ Set.BijOn f {r | st.Reaches v r} {r | st'.Reaches w r}
      ∧ (∀ r, st.Reaches v r → st.objects.size ≤ (f r).index ∧ (f r).index < st'.objects.size)
      ∧ (∀ r, (st.get r).isFunction = true → f r = r)
      ∧ ∀ r, st.Reaches v r → st'.get (f r) = (st.get r).renewed.carry f := by
  have on := startsOn_reaches interp renewable
  have reached : ∀ q ∈ v.refs, q ∈ {r | st.Reaches v r} ∨ (st.get q).isFunction = true := by
    intro q hq
    cases v with
    | object r =>
        rcases List.mem_singleton.mp hq with rfl
        by_cases function : (st.get q).isFunction = true
        · exact .inr function
        · exact .inl (.root rfl (Bool.eq_false_iff.mpr function))
    | _ => cases hq
  rcases copy_starts on reached with ⟨state, gives, sound, filled, settled⟩
  -- All that can be reached was copied, as what was copied leads to nothing else.
  have known : ∀ r, st.Reaches v r → r ∈ state.known := by
    have start : ∀ q ∈ v.refs, (st.get q).isFunction = false → q ∈ state.known := by
      intro q hq object
      rcases settled q hq with known | function
      · exact known
      · rw [object] at function
        cases function
    have closed : ∀ r ∈ state.known, ∀ q ∈ (st.get r).held, (st.get q).isFunction = false →
        q ∈ state.known := by
      intro r hr q hq object
      have source := (renewable r (sound.sources r hr)).2
      rw [Object.mem_held, ← source.parts_renewed, ← Object.mem_held] at hq
      rcases (filled _ (Copying.mem_copies_target hr)).settled q hq with known | function
      · exact known
      · rw [object] at function
        cases function
    exact fun r hr => reaches_of_closed (S := {r | r ∈ state.known}) start closed hr
  have functions : ∀ r, (st.get r).isFunction = true → state.target r = r :=
    fun r function => sound.target_of_function on.object function
  have get_eq : ∀ r, st.Reaches v r → state.store.get (state.target r)
      = (st.get r).renewed.carry state.target :=
    fun r hr => (filled _ (Copying.mem_copies_target (known r hr))).get_eq
  refine ⟨state.store, v.rename state.target, state.target, gives, sound.grown, rfl, ?_, ?_,
    functions, get_eq⟩
  · refine bijOn_reaches ?_ functions ?_ (fun r hr => (renewable r hr).2.isFunction_renewed)
      (fun r hr => (renewable r hr).2.parts_renewed) get_eq
    · exact (sound.injOn_settled on.object).mono fun r hr => .inl (known r hr)
    · intro r function
      rw [sound.grown.get_eq r (index_lt_of_isFunction function)]
      exact function
  · exact fun r hr => sound.fresh _ (Copying.mem_copies_target (known r hr))

section

/-- An object that holds itself. It has a class, a function, computed properties, one of
    which can only be set, and under a symbol a map in which it is a key. -/
private def node : Object where
  prototype := .object ⟨2⟩
  fields := [(.text "self", { slot := .data (.object ⟨3⟩) }),
    (.symbol "map", { slot := .data (.object ⟨4⟩), enumerable := false }),
    (.text "size", { slot := .accessor (some ⟨1⟩) (some ⟨1⟩) }),
    (.text "rate", { slot := .accessor none (some ⟨1⟩), configurable := false }),
    (.text "call", { slot := .data (.object ⟨1⟩) })]
  integrity := { extensible := false }
  body := .record

/-- Elements that cannot be changed. -/
private def frozen (v : Value) : Object :=
  .bare (.array [some v])
    { extensible := false, unusual := [("0", { writable := false, configurable := false })] }

/-- A class and an instance of it, a class of maps and one of these, and an array with a
    date, a pattern, a link, a wrapped text and elements that are locked. -/
private def web : Store :=
  ⟨Store.initial.objects ++ #[Object.plain [("kind", .text "node")], node,
    { Object.ofBody (.map [(.object ⟨3⟩, .object ⟨5⟩), (.text "k", .object ⟨5⟩)]) with
      prototype := .object ⟨10⟩ },
    Object.ofBody (.array (([.object ⟨3⟩, .object ⟨6⟩, .object ⟨7⟩, .object ⟨8⟩, .object ⟨9⟩,
      .object ⟨11⟩] : List Value).map some)),
    Object.ofBody (.date (some 0)),
    Object.ofBody (.pattern ⟨"a\\/b", "gi"⟩ (.number (Number.ofInt 0))),
    Object.ofBody (.url "http://h/a?b#c"), Object.ofBody (.boxed (.text "s")),
    { Object.plain [("kind", .text "registry")] with prototype := .family .map },
    frozen .null]⟩

/-- What the object leads to: everything but the classes. -/
private def nodes : List Ref :=
  [⟨3⟩, ⟨4⟩, ⟨5⟩, ⟨6⟩, ⟨7⟩, ⟨8⟩, ⟨9⟩, ⟨11⟩]

private theorem web_reaches {r : Ref} (reached : web.Reaches (.object ⟨3⟩) r) : r ∈ nodes := by
  have closed : ∀ r ∈ nodes, ∀ q ∈ (web.get r).held, (web.get q).isFunction = false →
      q ∈ nodes := by decide
  exact reaches_of_closed (S := {r | r ∈ nodes}) (by decide) closed reached

/-- The map is one of its class, and gets what copying asks from the family of maps. -/
private theorem web_genuine :
    web.Genuine ⟨4⟩ (.map [(.object ⟨3⟩, .object ⟨5⟩), (.text "k", .object ⟨5⟩)]) where
  body_eq := rfl
  noFields := rfl
  derives := .object rfl (by decide) nofun (.family rfl nofun)

private theorem web_renewable {r : Ref} (reached : web.Reaches (.object ⟨3⟩) r) :
    r.index < web.objects.size ∧ web.Renewable r := by
  have within : ∀ ms ∈ (some 0 : Option Instant), -Instant.reach ≤ ms ∧ ms ≤ Instant.reach := by
    decide
  have link : Link.IsNormal "http://h/a?b#c" := ⟨by decide +kernel, by decide +kernel⟩
  have pattern : Pattern.IsNormal ⟨"a\\/b", "gi"⟩ := by
    rw [Pattern.IsNormal]
    decide +kernel
  have among := web_reaches reached
  simp only [nodes, List.mem_cons, List.not_mem_nil, or_false] at among
  rcases among with rfl | rfl | rfl | rfl | rfl | rfl | rfl | rfl
  · exact ⟨by decide, .record rfl (.object rfl (by decide) (.family rfl rfl))⟩
  · exact ⟨by decide, .map _ ⟨by decide, by decide⟩ web_genuine⟩
  · exact ⟨by decide, .array _ (genuine_of_bare rfl)⟩
  · exact ⟨by decide, .date _ within (genuine_of_bare rfl)⟩
  · exact ⟨by decide, .pattern _ pattern (genuine_of_bare rfl)⟩
  · exact ⟨by decide, .url _ link (genuine_of_bare rfl)⟩
  · exact ⟨by decide, .boxed _ (.inl rfl) (genuine_of_bare rfl)⟩
  · exact ⟨by decide, .array [.null] (genuine_of_bare rfl)⟩

/-- An object that is its own property and a key of a map that it leads to. -/
theorem copy_isomorphic_of_web :
    let interp := Interpretation.standard
    (∀ r, web.Reaches (.object ⟨3⟩) r → r.index < web.objects.size ∧ web.Renewable r)
      ∧ ∃ st' n m l, web.copy interp (.object ⟨3⟩) = .ok (st', .object n)
        ∧ web.objects.size ≤ n.index ∧ st'.get ⟨3⟩ = node
        ∧ st'.get n = { node with fields := [(.text "self", { slot := .data (.object n) }),
            (.symbol "map", { slot := .data (.object m), enumerable := false }),
            (.text "size", { slot := .accessor (some ⟨1⟩) (some ⟨1⟩) }),
            (.text "rate", { slot := .accessor none (some ⟨1⟩), configurable := false }),
            (.text "call", { slot := .data (.object ⟨1⟩) })], integrity := {} }
        ∧ st'.get m = .ofBody (.map [(.object n, .object l), (.text "k", .object l)]) := by
  intro interp
  refine ⟨fun r reached => web_renewable reached, ?_⟩
  rcases copy_isomorphic interp fun r reached => web_renewable reached with
    ⟨st', _, f, gives, grown, rfl, -, fresh, functions, images⟩
  have root : web.Reaches (.object ⟨3⟩) ⟨3⟩ := .root rfl rfl
  have entry : web.Reaches (.object ⟨3⟩) ⟨4⟩ := .step root (by decide) rfl
  have call : f ⟨1⟩ = ⟨1⟩ := functions ⟨1⟩ rfl
  refine ⟨st', f ⟨3⟩, f ⟨4⟩, f ⟨5⟩, gives, (fresh _ root).1, grown.get_eq ⟨3⟩ (by decide), ?_,
    images _ entry⟩
  rw [images _ root]
  change { node with
    fields := [(.text "self", { slot := .data (.object (f ⟨3⟩)) }),
      (.symbol "map", { slot := .data (.object (f ⟨4⟩)), enumerable := false }),
      (.text "size", { slot := .accessor (some ⟨1⟩) (some ⟨1⟩) }),
      (.text "rate", { slot := .accessor none (some ⟨1⟩), configurable := false }),
      (.text "call", { slot := .data (.object (f ⟨1⟩)) })]
    integrity := {} } = _
  rw [call]

/-- A map of a class, and an array whose element cannot be changed. -/
private def classed : Store :=
  ⟨Store.initial.objects ++ #[
    { Object.plain [("kind", .text "registry")] with prototype := .family .map },
    { Object.ofBody (.map [(.text "k", .null)]) with prototype := .object ⟨2⟩ }, frozen .null]⟩

/-- Built-in kinds are made anew: the copy of a map of a class is an ordinary map, and
    the elements of an array that cannot be changed can be changed in the copy. -/
theorem copy_loses_class_and_locks :
    let interp := Interpretation.standard
    ((classed.get ⟨3⟩).prototype = .object ⟨2⟩
      ∧ ∃ st' m, classed.copy interp (.object ⟨3⟩) = .ok (st', .object m)
        ∧ (st'.get m).prototype = .family .map)
    ∧ (classed.get ⟨4⟩).own? (.text "0")
        = some { slot := .data .null, writable := false, configurable := false }
      ∧ ∃ st' a, classed.copy interp (.object ⟨4⟩) = .ok (st', .object a)
        ∧ (st'.get a).own? (.text "0") = some { slot := .data .null } := by
  intro interp
  refine ⟨⟨rfl, ?_⟩, rfl, ?_⟩
  · exact ⟨⟨classed.objects.push (.ofBody (.map [(.text "k", .null)]))⟩, ⟨5⟩, rfl, rfl⟩
  · exact ⟨⟨classed.objects.push (.ofBody (.array [some .null]))⟩, ⟨5⟩, rfl, rfl⟩

end

end Store

end Stencil
