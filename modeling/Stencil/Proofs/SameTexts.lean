import Stencil.Proofs.Likeness

/-!
# What Resembles Each Other Has the Same Text

Values are written the same where others stand in the places of the objects that
they lead to.

The kinds of objects are gone through once: `Counterpart` says what an object and
the one in its place look like, for each kind. From that both show the same, under
other addresses, and so their documents are put together in the same way. How deep
that may go depends on the store, but both stores allow for more than is needed.
Objects that are not written as JSON have a text by their kind, and what is refused
is refused by the name of its type.

Where the objects come from makes no difference. `Resemblance` asks for no more than
the texts need, so that a copy resembles what was copied, and so does content at
other addresses.

## Main definitions

* `Store.Counterpart`: An object and the one in its place, by kinds.
* `Store.Resemblance`: Counterparts for the objects of a closed set.

## Theorems

* `Store.Likeness.resemblance`: A likeness is a resemblance.
* `Store.Resemblance.view_eq`: Both show the same.
* `Store.Resemblance.serialize_eq`: Both have the same text.
* `Store.Resemblance.serialize_cases`: It is a text or a new error.
-/

namespace Stencil

/-! ### Properties -/

section

variable {f : Ref → Ref}

theorem Keyed.texts_map {α β : Type} (g : α → β) (entries : Keyed α) :
    Keyed.texts (entries.map fun e => (e.1, g e.2)) = entries.texts.map fun e => (e.1, g e.2) := by
  rw [texts, texts, List.filterMap_map, List.map_filterMap]
  refine List.filterMap_congr fun e _ => ?_
  rcases e with ⟨_ | _, _⟩ <;> rfl

theorem Keyed.set_map {α β : Type} (g : α → β) (entries : Keyed α) (key : Key) (a : α) :
    Keyed.set key (g a) (entries.map fun e => (e.1, g e.2))
      = (entries.set key a).map fun e => (e.1, g e.2) := by
  rw [set, set, get?_map]
  cases entries.get? key with
  | some _ =>
      change Keyed.replace key (g a) _ = (Keyed.replace key a entries).map _
      rw [replace, replace, List.map_map, List.map_map]
      refine List.map_congr_left fun e _ => ?_
      simp only [Function.comp_apply]
      split <;> rfl
  | none =>
      change Keyed.insert key (g a) _ = (Keyed.insert key a entries).map _
      induction entries with
      | nil => rfl
      | cons e entries ih =>
          rw [List.map_cons, insert, insert]
          split
          · rfl
          · rw [ih, List.map_cons]

/-- What stands under texts, where nothing but properties does. -/
theorem Object.dataEntries_record {o : Object} (body : o.body = .record) :
    o.dataEntries = o.fields.texts.filterMap fun e =>
      if e.2.enumerable then e.2.slot.value?.map fun v => (e.1, v) else none := by
  have noElements : o.indexed = [] := by simp only [indexed, body]
  rw [dataEntries, enumerable, noElements]
  change (List.filterMap _ o.fields.texts).filterMap _ = _
  rw [List.filterMap_filterMap]
  refine List.filterMap_congr fun e _ => ?_
  rcases e with ⟨name, p⟩
  cases visible : p.enumerable <;> simp [visible]

/-- The values under texts, where each property has another one in its place that holds
    the value at another address. -/
theorem Object.dataEntries_map {o o' : Object} {g : Property → Property}
    (fields : o'.fields = o.fields.map fun e => (e.1, g e.2))
    (visible : ∀ p, (g p).enumerable = p.enumerable)
    (value : ∀ p, (g p).slot.value? = p.slot.value?.map (Value.rename f))
    (body : o.body = .record) (body' : o'.body = .record) :
    o'.dataEntries = o.dataEntries.map fun e => (e.1, e.2.rename f) := by
  rw [dataEntries_record body', dataEntries_record body, fields, Keyed.texts_map,
    List.filterMap_map, List.map_filterMap]
  refine List.filterMap_congr fun e _ => ?_
  rcases e with ⟨name, p⟩
  simp only [Function.comp_apply, visible, value]
  cases p.enumerable with
  | false => rfl
  | true => cases p.slot.value? <;> rfl

theorem Object.StandsFor.dataEntries {o o' : Object} (stands : o.StandsFor f o')
    (body : o.body = .record) (body' : o'.body = .record) :
    o'.dataEntries = o.dataEntries.map fun e => (e.1, e.2.rename f) := by
  refine dataEntries_map (g := Property.carry f) stands.fields_eq (fun p => rfl) (fun p => ?_)
    body body'
  rcases p with ⟨_, _ | _⟩ <;> rfl

/-- Members in their places are members of the object in its place. -/
theorem Facet.members_rename (owner : Option Ref) (fields : List (String × Value)) :
    Facet.members (owner.map f) (fields.map fun e => (e.1, e.2.rename f))
      = (Facet.members owner fields).rename f := by
  rw [members, members, rename, List.map_map, List.map_map, List.map_map]
  rfl

end

/-! ### Bodies -/

theorem Body.eq_of_settled {b c : Body} (same : b.settled = c) (noArray : ∀ es, c ≠ .array es)
    (noPattern : ∀ p l, c ≠ .pattern p l) : b = c := by
  cases b with
  | array es => exact absurd same.symm (noArray _)
  | pattern p l => exact absurd same.symm (noPattern _ _)
  | _ => exact same

theorem Body.array_of_settled {b : Body} {elements : List (Option Value)}
    (same : b.settled = .array elements) : ∃ es, b = .array es
      ∧ es.map (fun element => some (element.getD .undefined)) = elements := by
  cases b with
  | array es => exact ⟨es, rfl, Body.array.inj same⟩
  | _ => cases same

theorem Body.pattern_of_settled {b : Body} {p : Pattern} {l : Value}
    (same : b.settled = .pattern p l) : ∃ l', b = .pattern p l' := by
  cases b with
  | pattern q l' =>
      cases same
      exact ⟨l', rfl⟩
  | _ => cases same

theorem Object.StandsFor.isPlain {f : Ref → Ref} {o o' : Object} (stands : o.StandsFor f o') :
    o'.isPlain = o.isPlain := by
  rw [Object.isPlain, stands.prototype_eq, Object.isPlain]

/-- What stands for a bare object is bare. -/
theorem Object.StandsFor.bare {f : Ref → Ref} {b : Body} {integrity : Integrity} {o' : Object}
    (stands : (Object.bare b integrity).StandsFor f o') (family : o'.body.family = b.family) :
    o' = .bare o'.body o'.integrity := by
  have next := stands.prototype_eq
  have fields := stands.fields_eq
  rcases o' with ⟨prototype, fields', integrity', body'⟩
  cases fields
  cases next
  rw [Object.bare, Object.ofBody, family]

/-- What an object is written with is among what it holds. -/
theorem Object.children_subset_parts {o : Object} : o.children ⊆ o.parts := by
  intro v mem
  rw [children] at mem
  cases body : o.body with
  | record =>
      simp only [body] at mem
      rw [dataEntries_record body] at mem
      rcases List.mem_map.mp mem with ⟨e, listed, rfl⟩
      rcases List.mem_filterMap.mp listed with ⟨⟨name, p⟩, there, shown⟩
      rcases List.mem_filterMap.mp there with ⟨⟨key, ⟨⟨visible, _, _⟩, slot⟩⟩, field, named⟩
      refine List.mem_append_left _ (List.mem_flatMap.mpr ⟨_, field, ?_⟩)
      cases key with
      | symbol label => cases named
      | text s =>
          cases named
          cases visible with
          | false => cases shown
          | true =>
              cases slot with
              | accessor getter setter => cases shown
              | data u =>
                  cases shown
                  exact List.mem_cons_self
  | array elements =>
      simp only [body] at mem
      refine List.mem_append_right _ ?_
      rw [body]
      exact mem
  | map entries =>
      simp only [body] at mem
      rcases List.mem_map.mp mem with ⟨e, he, rfl⟩
      refine List.mem_append_right _ ?_
      rw [body]
      exact List.mem_flatMap.mpr ⟨e, he, List.mem_cons_of_mem _ List.mem_cons_self⟩
  | set elements =>
      simp only [body] at mem
      refine List.mem_append_right _ ?_
      rw [body]
      exact mem
  | _ =>
      simp only [body] at mem
      cases mem

namespace Store

/-- An object and the one in its place, by kinds. -/
inductive Counterpart (f : Ref → Ref) (st st' : Store) (r : Ref) : Prop
  | record (body : (st.get r).body = .record) (body' : (st'.get (f r)).body = .record)
      (plain : (st'.get (f r)).isPlain = (st.get r).isPlain)
      (entries : (st'.get (f r)).dataEntries
        = (st.get r).dataEntries.map fun e => (e.1, e.2.rename f))
  /-- Something that is no record and that no document can be made from. -/
  | foreign (body : (st.get r).body ≠ .record ∧ (st.get r).body.isForeign = true)
      (body' : (st'.get (f r)).body ≠ .record ∧ (st'.get (f r)).body.isForeign = true)
      (other : (st.get r).isPlain = false) (other' : (st'.get (f r)).isPlain = false)
  | array (elements elements' : List (Option Value)) {integrity integrity' : Integrity}
      (there : st.get r = .bare (.array elements) integrity)
      (there' : st'.get (f r) = .bare (.array elements') integrity')
      (same : elements'.map (fun element => element.getD .undefined)
        = (elements.map fun element => element.getD .undefined).map (Value.rename f))
  | map (entries : List (Value × Value)) {integrity integrity' : Integrity}
      (there : st.get r = .bare (.map entries) integrity)
      (there' : st'.get (f r) = .bare
        (.map (entries.map fun e => (e.1.rename f, e.2.rename f))) integrity')
  | set (elements : List Value) {integrity integrity' : Integrity}
      (there : st.get r = .bare (.set elements) integrity)
      (there' : st'.get (f r) = .bare (.set (elements.map (Value.rename f))) integrity')
  | date (instant : Option Instant) {integrity integrity' : Integrity}
      (there : st.get r = .bare (.date instant) integrity)
      (there' : st'.get (f r) = .bare (.date instant) integrity')
  | pattern (p : Pattern) (l l' : Value) {integrity integrity' : Integrity}
      (there : st.get r = .bare (.pattern p l) integrity)
      (there' : st'.get (f r) = .bare (.pattern p l') integrity')
  | url (href : String) {integrity integrity' : Integrity}
      (there : st.get r = .bare (.url href) integrity)
      (there' : st'.get (f r) = .bare (.url href) integrity')
  | boxed (v : Value) (simple : v.wrapper = .string ∨ v.wrapper = .number ∨ v.wrapper = .boolean)
      {integrity integrity' : Integrity} (there : st.get r = .bare (.boxed v) integrity)
      (there' : st'.get (f r) = .bare (.boxed v) integrity')
  | octets (c : OctetClass) (w : Window UInt8) {integrity integrity' : Integrity}
      (there : st.get r = .bare (.octets c w) integrity)
      (there' : st'.get (f r) = .bare (.octets c w) integrity')
  | function (callable : (st.get r).isFunction = true)
      (callable' : (st'.get (f r)).isFunction = true)

/-- Each object of a closed set has one of its kind in its place in another store. For
    neither of them anything is called, and their types have the same name. -/
structure Resemblance (interp : Interpretation) (f : Ref → Ref) (S : Set Ref) (st st' : Store) :
    Prop where
  injective : Set.InjOn f S
  size_le : st.objects.size ≤ st'.objects.size
  inside : ∀ r ∈ S, r.index < st.objects.size
  closed : ∀ r ∈ S, (st.get r).isFunction = false → ∀ q ∈ (st.get r).held, q ∈ S
  counterpart : ∀ r ∈ S, Counterpart f st st' r
  calm : ∀ r ∈ S, st.Calm r
  calm' : ∀ r ∈ S, st'.Calm (f r)
  typeName : ∀ r ∈ S, ∃ name, st.typeName interp (.object r) = .ok name
    ∧ st'.typeName interp (.object (f r)) = .ok name

variable {interp : Interpretation} {st st' : Store} {r : Ref} {f : Ref → Ref} {S : Set Ref}
  {v w : Value}

/-! ### Likenesses are resemblances -/

/-- What an object derives from stays. -/
theorem Descends.same (descends : st.Descends r) (inside : r.index < st.objects.size)
    (h : st.SameLookups st') : st'.Descends r := by
  induction descends with
  | none next => exact .none ((h.prototype_eq _ inside).trans next)
  | root next => exact .root ((h.prototype_eq _ inside).trans next)
  | object next there _ ih =>
      exact .object ((h.prototype_eq _ inside).trans next) (Nat.lt_of_lt_of_le there h.size_le)
        (ih there)

/-- A record that derives from nothing but objects is calm. -/
theorem calm_record (body : (st.get r).body = .record) (descends : st.Descends r)
    (data : (st.get r).isPlain = true → ∀ e ∈ (st.get r).fields, ∃ v, e.2.slot = .data v)
    (lacks : st.LacksJson r) : st.Calm r := by
  refine ⟨?_, fun _ => descends.inherits rfl⟩
  by_cases plain : (st.get r).isPlain = true
  · exact .record body plain (data plain) lacks
  · exact .derived (by rw [body]; rfl) (Bool.eq_false_iff.mpr plain) descends.ordinary lacks

/-- Whatever documents can be made from is calm if it is of the kinds that values are
    made of. -/
theorem Regular.calm (regular : st.Regular r) (known : (st.get r).body.isForeign = false) :
    st.Calm r :=
  ⟨regular, fun foreign => by rw [known] at foreign; cases foreign⟩

theorem Faithful.calm (faithful : st.Faithful r) : st.Calm r := by
  cases faithful with
  | record body descends data lacks _ => exact calm_record body descends data lacks
  | array elements there => exact (Regular.array elements there).calm (by rw [there]; rfl)
  | map entries _ there => exact (Regular.map entries there).calm (by rw [there]; rfl)
  | set elements _ there => exact (Regular.set elements there).calm (by rw [there]; rfl)
  | date instant _ there => exact (Regular.date instant there).calm (by rw [there]; rfl)
  | pattern p l _ there => exact (Regular.pattern p l there).calm (by rw [there]; rfl)
  | url href _ there => exact (Regular.url href there).calm (by rw [there]; rfl)
  | boxed v simple there => exact (Regular.boxed v simple there).calm (by rw [there]; rfl)
  | octets c w _ there => exact (Regular.octets c w there).calm (by rw [there]; rfl)
  | function callable lacks =>
      rcases Object.isFunction_iff.mp callable with ⟨p, body⟩
      exact (Regular.function callable lacks).calm (by rw [body]; rfl)

namespace Likeness

/-- The kinds of an object and of the one in its place are the same. -/
theorem counterpart (h : Likeness f S st st') (hr : r ∈ S) : Counterpart f st st' r := by
  have faithful := h.on.faithful r hr
  by_cases callable : (st.get r).isFunction = true
  · exact .function callable (by rw [h.isFunction_eq hr, callable])
  · have stands := h.objects r hr (Bool.eq_false_iff.mpr callable)
    -- Apart from arrays and patterns, the body is the same under other addresses.
    have bare : ∀ {b c : Body} {integrity : Integrity}, st.get r = .bare b integrity →
        b.settled.rename f = c → c.family = b.family → (∀ es, c ≠ .array es) →
        (∀ p l, c ≠ .pattern p l) → ∃ integrity', st'.get (f r) = .bare c integrity' := by
      intro b c integrity there image family noArray noPattern
      rw [there] at stands
      have body := Body.eq_of_settled (stands.body_eq.trans image) noArray noPattern
      have same := stands.bare (by rw [body, family])
      rw [body] at same
      exact ⟨_, same⟩
    cases faithful with
    | record body _ _ _ _ =>
        have image := stands.body_eq
        rw [body] at image
        have body' := Body.eq_of_settled image (by rintro _ ⟨⟩) (by rintro _ _ ⟨⟩)
        exact .record body body' stands.isPlain (stands.dataEntries body body')
    | array elements there =>
        rw [there] at stands
        rcases Body.array_of_settled stands.body_eq with ⟨elements', body, same⟩
        have there' := stands.bare (by rw [body]; rfl)
        rw [body] at there'
        refine .array elements elements' there there' ?_
        have values := congrArg (List.map fun element => element.getD .undefined) same
        rw [List.map_map, List.map_map, List.map_map] at values
        rw [List.map_map]
        exact values
    | map entries distinct there =>
        rcases bare there rfl rfl (by rintro _ ⟨⟩) (by rintro _ _ ⟨⟩) with ⟨integrity', there'⟩
        exact .map entries there there'
    | set elements distinct there =>
        rcases bare there rfl rfl (by rintro _ ⟨⟩) (by rintro _ _ ⟨⟩) with ⟨integrity', there'⟩
        exact .set elements there there'
    | date instant within there =>
        rcases bare there rfl rfl (by rintro _ ⟨⟩) (by rintro _ _ ⟨⟩) with ⟨integrity', there'⟩
        exact .date instant there there'
    | pattern p l normal there =>
        rw [there] at stands
        rcases Body.pattern_of_settled stands.body_eq with ⟨l', body⟩
        have there' := stands.bare (by rw [body]; rfl)
        rw [body] at there'
        exact .pattern p l l' there there'
    | url href normal there =>
        rcases bare there rfl rfl (by rintro _ ⟨⟩) (by rintro _ _ ⟨⟩) with ⟨integrity', there'⟩
        exact .url href there there'
    | boxed v simple there =>
        have image : (Body.boxed v).settled.rename f = .boxed v := by
          cases v with
          | object q => rcases simple with h | h | h <;> cases h
          | _ => rfl
        rcases bare there image rfl (by rintro _ ⟨⟩) (by rintro _ _ ⟨⟩) with ⟨integrity', there'⟩
        exact .boxed v simple there there'
    | octets c w other there =>
        rcases bare there rfl rfl (by rintro _ ⟨⟩) (by rintro _ _ ⟨⟩) with ⟨integrity', there'⟩
        exact .octets c w there there'
    | function callable' _ => exact absurd callable' callable

theorem descends (h : Likeness f S st st') (hr : r ∈ S)
    (stands : (st.get r).StandsFor f (st'.get (f r))) (descends : st.Descends r) :
    st'.Descends (f r) := by
  have inside := h.on.inside r hr
  cases descends with
  | none next => exact .none (stands.prototype_eq.trans next)
  | root next => exact .root (stands.prototype_eq.trans next)
  | object next there rest =>
      exact .object (stands.prototype_eq.trans next)
        (Nat.lt_of_lt_of_le there h.lookups.size_le) (rest.same there h.lookups)

/-- For the object in the place of another one nothing is called either. -/
theorem calm (h : Likeness f S st st') (hr : r ∈ S) : st'.Calm (f r) := by
  -- A counterpart says of which kind both objects are, and the kind of a faithful one
  -- what it may do. Where the two kinds differ there is no such object.
  have faithful := h.on.faithful r hr
  cases h.counterpart hr with
  | record body body' _ _ =>
      cases faithful with
      | record _ descends data lacks _ =>
          have stands := h.objects r hr (by rw [Object.isFunction, body])
          refine calm_record body' (h.descends hr stands descends) (fun plain e mem => ?_)
            (h.lacksJson hr lacks)
          rw [stands.isPlain] at plain
          rw [stands.fields_eq] at mem
          rcases List.mem_map.mp mem with ⟨d, hd, rfl⟩
          rcases data plain d hd with ⟨v, slot⟩
          exact ⟨v.rename f, by rw [Property.carry, slot, Slot.carry]⟩
      | function callable _ =>
          rw [Object.isFunction, body] at callable
          cases callable
      | _ => simp only [*, Object.body_bare, reduceCtorEq] at body
  | foreign body _ _ _ =>
      rcases body with ⟨noRecord, foreign⟩
      cases faithful with
      | record body _ _ _ _ => exact absurd body noRecord
      | function callable _ =>
          rcases Object.isFunction_iff.mp callable with ⟨p, body⟩
          rw [body] at foreign
          cases foreign
      | _ => simp only [*, Object.body_bare, Body.isForeign, Bool.false_eq_true] at foreign
  | array elements elements' _ there' _ =>
      exact (Regular.array elements' there').calm (by rw [there']; rfl)
  | map entries _ there' => exact (Regular.map _ there').calm (by rw [there']; rfl)
  | set elements _ there' => exact (Regular.set _ there').calm (by rw [there']; rfl)
  | date instant _ there' => exact (Regular.date instant there').calm (by rw [there']; rfl)
  | pattern p l l' _ there' => exact (Regular.pattern p l' there').calm (by rw [there']; rfl)
  | url href _ there' => exact (Regular.url href there').calm (by rw [there']; rfl)
  | boxed v simple _ there' => exact (Regular.boxed v simple there').calm (by rw [there']; rfl)
  | octets c w _ there' => exact (Regular.octets c w there').calm (by rw [there']; rfl)
  | function callable callable' =>
      have lacks : st.LacksJson r := by
        cases faithful with
        | function _ lacks => exact lacks
        | record _ _ _ lacks _ => exact lacks
        | _ => simp only [*, Object.isFunction, Object.body_bare, Bool.false_eq_true] at callable
      rcases Object.isFunction_iff.mp callable' with ⟨p, body⟩
      exact (Regular.function callable' (h.lacksJson hr lacks)).calm (by rw [body]; rfl)

/-- What is represented elsewhere resembles what stands for it. -/
theorem resemblance (h : Likeness f S st st') : Resemblance interp f S st st' where
  injective := h.injective
  size_le := h.lookups.size_le
  inside := h.on.inside
  closed := h.on.closed
  counterpart _ := h.counterpart
  calm r hr := (h.on.faithful r hr).calm
  calm' _ := h.calm
  typeName r hr := h.typeName_eq (v := .object r) fun q hq => by
    rcases List.mem_singleton.mp hq with rfl
    exact hr

end Likeness

/-! ### What is shown -/

theorem over_rename (covered : View.Over S v) : View.Over (f '' S) (v.rename f) := by
  intro q hq
  rw [Value.refs_rename] at hq
  rcases List.mem_map.mp hq with ⟨p, hp, rfl⟩
  exact Set.mem_image_of_mem f (covered p hp)

theorem children_of_foreign (body : (st.get r).body ≠ .record ∧ (st.get r).body.isForeign = true) :
    (st.get r).children = [] := by
  rcases body with ⟨noRecord, foreign⟩
  rw [Object.children]
  cases body : (st.get r).body with
  | record => exact absurd body noRecord
  | array _ | map _ | set _ => simp only [body, Body.isForeign, Bool.false_eq_true] at foreign
  | _ => rfl

theorem manner_of_foreign (body : (st.get r).body ≠ .record ∧ (st.get r).body.isForeign = true) :
    (Value.object r).manner st = .refused := by
  rcases body with ⟨noRecord, foreign⟩
  rw [Value.manner]
  cases body : (st.get r).body with
  | record => exact absurd body noRecord
  | error | template _ | cells _ _ | arrayBuffer _ => rfl
  | _ => simp only [body, Body.isForeign, Bool.false_eq_true] at foreign

namespace Resemblance

theorem regularOn (h : Resemblance interp f S st st') : st.RegularOn S where
  regular r hr := (h.calm r hr).regular
  closed r hr w mem q hq := by
    by_cases callable : (st.get r).isFunction = true
    · rcases Object.isFunction_iff.mp callable with ⟨p, body⟩
      rw [Object.children, body] at mem
      cases mem
    · refine h.closed r hr (Bool.eq_false_iff.mpr callable) q ?_
      exact List.mem_flatMap.mpr ⟨w, Object.children_subset_parts mem, hq⟩

theorem children_eq (h : Resemblance interp f S st st') (hr : r ∈ S) :
    (st'.get (f r)).children = (st.get r).children.map (Value.rename f) := by
  cases h.counterpart r hr with
  | record body body' _ entries =>
      simp only [Object.children, body, body', entries, List.map_map]
      rfl
  | foreign body body' _ _ => rw [children_of_foreign body, children_of_foreign body', List.map_nil]
  | array elements elements' there there' same =>
      simp only [Object.children, there, there', Object.body_bare]
      exact same
  | map entries there there' =>
      simp only [Object.children, there, there', Object.body_bare, List.map_map]
      rfl
  | set elements there there' => simp only [Object.children, there, there', Object.body_bare]
  | function callable callable' =>
      rcases Object.isFunction_iff.mp callable with ⟨p, body⟩
      rcases Object.isFunction_iff.mp callable' with ⟨p', body'⟩
      simp only [Object.children, body, body', List.map_nil]
  | date _ there there' | pattern _ _ _ there there' | url _ there there' | boxed _ _ there there'
  | octets _ _ there there' =>
      simp only [Object.children, there, there', Object.body_bare, List.map_nil]

theorem regularOn' (h : Resemblance interp f S st st') : st'.RegularOn (f '' S) where
  regular := by
    rintro _ ⟨r, hr, rfl⟩
    exact (h.calm' r hr).regular
  closed := by
    rintro _ ⟨r, hr, rfl⟩ w mem
    rw [h.children_eq hr] at mem
    rcases List.mem_map.mp mem with ⟨v, hv, rfl⟩
    exact over_rename (h.regularOn.closed r hr v hv)

theorem over_keys (h : Resemblance interp f S st st') (hr : r ∈ S)
    {entries : List (Value × Value)} {integrity : Integrity}
    (there : st.get r = .bare (.map entries) integrity) : ∀ e ∈ entries, View.Over S e.1 := by
  intro e he q hq
  refine h.closed r hr (by rw [there]; rfl) q ?_
  rw [Object.held, there]
  exact List.mem_flatMap.mpr ⟨e.1, List.mem_flatMap.mpr ⟨e, he, List.mem_cons_self⟩, hq⟩

/-- The type of a value has the same name as that of the value in its place. -/
theorem typeName_eq (h : Resemblance interp f S st st') (covered : View.Over S v) :
    ∃ name, st.typeName interp v = .ok name ∧ st'.typeName interp (v.rename f) = .ok name := by
  cases v with
  | object r => exact h.typeName r (covered r List.mem_cons_self)
  | _ => exact ⟨_, rfl, rfl⟩

/-- A map has the same members under other addresses, or the same key is refused. -/
theorem mapMembers_eq (h : Resemblance interp f S st st') {entries : List (Value × Value)}
    (covered : ∀ e ∈ entries, View.Over S e.1) (known : Keyed Value) :
    Serializer.mapMembers interp st' (known.map fun e => (e.1, e.2.rename f))
        (entries.map fun e => (e.1.rename f, e.2.rename f))
      = (Serializer.mapMembers interp st known entries).map
          (List.map fun e => (e.1, e.2.rename f)) := by
  induction entries generalizing known with
  | nil => rfl
  | cons e entries ih =>
      rcases e with ⟨key, v⟩
      have name : Serializer.mapKey interp st' (key.rename f)
          = Serializer.mapKey interp st key := by
        have typed : ∃ name, st.typeName interp key = .ok name
            ∧ st'.typeName interp (key.rename f) = .ok name :=
          h.typeName_eq (covered _ List.mem_cons_self)
        rcases typed with ⟨name, here, elsewhere⟩
        cases key with
        | object c =>
            rw [Value.rename, Serializer.mapKey, Serializer.mapKey]
            rw [Value.rename] at elsewhere
            rw [here, elsewhere]
            all_goals rintro _ ⟨⟩
        | _ => rfl
      rw [List.map_cons, Serializer.mapMembers, Serializer.mapMembers, name]
      cases Serializer.mapKey interp st key with
      | error e => rfl
      | ok s =>
          change Serializer.mapMembers interp st' (Keyed.set _ _ _) _ = _
          rw [Keyed.set_map (Value.rename f)]
          exact ih (fun d hd => covered d (List.mem_cons_of_mem _ hd)) _

/-- What is refused for its type is refused in the same words. -/
theorem refused_eq {α : Type} (h : Resemblance interp f S st st') (covered : View.Over S v)
    (refusal : String → Thrown) :
    (do throw (refusal (← st'.typeName interp (v.rename f))) : Except Thrown α)
      = (do throw (refusal (← st.typeName interp v)) : Except Thrown α) := by
  have typed : ∃ name, st.typeName interp v = .ok name
      ∧ st'.typeName interp (v.rename f) = .ok name := h.typeName_eq covered
  rcases typed with ⟨name, here, elsewhere⟩
  rw [here, elsewhere]

/-- Values show the same as those in their places. -/
theorem view_eq (h : Resemblance interp f S st st') (covered : View.Over S v) :
    st'.view interp (v.rename f) = (st.view interp v).map (Facet.rename f) := by
  have refused : (do throw (Serializer.notJson (← st'.typeName interp (v.rename f))) :
      Except Thrown Facet)
        = (do throw (Serializer.notJson (← st.typeName interp v)) : Except Thrown Facet).map
          (Facet.rename f) := by
    rw [h.refused_eq covered]
    cases st.typeName interp v <;> rfl
  cases v with
  | object r =>
      -- Each kind shows what its counterpart shows, in its place, or both are refused.
      have hr := covered r List.mem_cons_self
      rw [Value.rename] at refused ⊢
      cases h.counterpart r hr with
      | record body body' same entries =>
          by_cases plain : (st.get r).isPlain = true
          · rw [view_record body' (same.trans plain), view_record body plain, entries]
            exact congrArg Except.ok (Facet.members_rename (some r) _)
          · simp only [view, body, body', same, plain, Bool.false_eq_true, if_false]
            exact refused
      | foreign body body' other other' =>
          rw [view_foreign body'.2 other', view_foreign body.2 other]
          exact refused
      | array elements elements' there there' same =>
          rw [view_array (by rw [there', Object.body_bare]),
            view_array (by rw [there, Object.body_bare]), same]
          rfl
      | map entries there there' =>
          have made : Serializer.mapMembers interp st' [] _ = _ :=
            h.mapMembers_eq (h.over_keys hr there) []
          rw [view_map (by rw [there', Object.body_bare]),
            view_map (by rw [there, Object.body_bare]), made]
          cases Serializer.mapMembers interp st [] entries with
          | error e => rfl
          | ok fields =>
              change Except.ok (Facet.members none (Keyed.texts (List.map _ fields))) = _
              rw [Keyed.texts_map (Value.rename f)]
              exact congrArg Except.ok (Facet.members_rename none _)
      | set elements there there' =>
          rw [view_set (by rw [there', Object.body_bare]),
            view_set (by rw [there, Object.body_bare])]
          rfl
      | date instant there there' =>
          simp only [view, there, there', Object.body_bare]
          cases instant <;> rfl
      | pattern p l l' there there' =>
          simp only [view, there, there', Object.body_bare]
          exact refused
      | url href there there' =>
          simp only [view, there, there', Object.body_bare]
          rfl
      | boxed u simple there there' =>
          simp only [view, there, there', Object.body_bare]
          cases u <;> rfl
      | octets c w there there' =>
          simp only [view, there, there', Object.body_bare]
          cases c with
          | buffer => rfl
          | _ => exact refused
      | function callable callable' =>
          rcases Object.isFunction_iff.mp callable with ⟨p, body⟩
          rcases Object.isFunction_iff.mp callable' with ⟨p', body'⟩
          simp only [view, body, body']
          exact refused
  | _ => rfl

/-! ### Texts -/

theorem closed_shows (h : Resemblance interp f S st st') : ∀ v, View.Over S v →
    ∀ w, (st.view interp).Shows v w → View.Over S w :=
  fun _ covered _ shows => h.regularOn.closed_view covered shows

/-- Values have the same documents as those in their places. -/
theorem document?_eq (h : Resemblance interp f S st st') (covered : View.Over S v) :
    st'.document? (Serializer.strict interp) interp (v.rename f)
      = st.document? (Serializer.strict interp) interp v := by
  have owned : ∀ v, View.Over S v → ∀ owner values join,
      st.view interp v = .ok (.parts owner values join) → ∀ r ∈ owner, r ∈ S := by
    intro v covered owner values join shown q hq
    cases v with
    | object r =>
        rw [(parts_of_view shown).1 q hq]
        exact covered r List.mem_cons_self
    | _ => cases shown
  have renamed : (st'.view interp).assemble st'.depth ([].map f) (v.rename f)
      = (st.view interp).assemble st'.depth [] v :=
    View.assemble_rename h.injective (fun v covered => h.view_eq covered) h.closed_shows owned _
      (fun _ mem => absurd mem List.not_mem_nil) covered
  -- Both stores allow for more depth than is needed.
  have enough : (st.objects.size + 1) * (st.objects.size + 1) ≤ st.depth :=
    Nat.mul_le_mul (Nat.le_succ _) (Nat.le_succ _)
  have more : st.depth ≤ st'.depth :=
    Nat.mul_le_mul (Nat.add_le_add_right h.size_le 2)
      (Nat.add_le_add_right h.size_le 2)
  rw [document?, encode_eq h.regularOn' _ _ _ (over_rename covered), document?,
    encode_eq h.regularOn _ _ _ covered]
  refine renamed.trans ?_
  exact View.assemble_of_le (h.regularOn.grounded h.inside) covered enough more

/-- Values have the same compact JSON as those in their places. -/
theorem structured_eq (h : Resemblance interp f S st st') (covered : View.Over S v) :
    Serializer.structured interp st' (v.rename f) = Serializer.structured interp st v := by
  have typed : ∃ name, st.typeName interp v = .ok name
      ∧ st'.typeName interp (v.rename f) = .ok name := h.typeName_eq covered
  rcases typed with ⟨name, here, elsewhere⟩
  rw [Serializer.structured, Serializer.structured, h.document?_eq covered, here, elsewhere]

end Resemblance

/-! ### All kinds -/

namespace Resemblance

/-- Values become text in the same manner as those in their places. -/
theorem manner_eq (h : Resemblance interp f S st st') (covered : View.Over S v) :
    (v.rename f).manner st' = v.manner st := by
  cases v with
  | object r =>
      rw [Value.rename, Value.manner, Value.manner]
      cases h.counterpart r (covered r List.mem_cons_self) with
      | record body body' same _ => rw [body, body', same]
      | foreign body body' _ _ =>
          exact (manner_of_foreign body').trans (manner_of_foreign body).symm
      | function callable callable' =>
          rcases Object.isFunction_iff.mp callable with ⟨p, body⟩
          rcases Object.isFunction_iff.mp callable' with ⟨p', body'⟩
          rw [body, body']
      | array _ _ there there' _ => rw [there, there', Object.body_bare, Object.body_bare]
      | map _ there there' => rw [there, there', Object.body_bare, Object.body_bare]
      | set _ there there' => rw [there, there', Object.body_bare, Object.body_bare]
      | date _ there there' => rw [there, there', Object.body_bare, Object.body_bare]
      | pattern _ _ _ there there' => rw [there, there', Object.body_bare, Object.body_bare]
      | url _ there there' => rw [there, there', Object.body_bare, Object.body_bare]
      | boxed _ _ there there' => rw [there, there', Object.body_bare, Object.body_bare]
      | octets _ _ there there' => rw [there, there', Object.body_bare, Object.body_bare]
  | _ => rfl

theorem calm_rename (h : Resemblance interp f S st st') (covered : View.Over S v) :
    ∀ q ∈ (v.rename f).refs, st'.Calm q := by
  intro q hq
  rcases over_rename covered q hq with ⟨r, hr, rfl⟩
  exact h.calm' r hr

/-- The text of a value is that of the value in its place, or both are refused with
    the same error. -/
theorem serialize_eq (h : Resemblance interp f S st st') (covered : View.Over S v) :
    Serializer.serialize interp st' (v.rename f) = Serializer.serialize interp st v := by
  have calm : ∀ r ∈ v.refs, st.Calm r := fun r hr => h.calm r (covered r hr)
  rw [serialize_manner (h.calm_rename covered), serialize_manner calm, h.manner_eq covered]
  cases v.manner st with
  | structured =>
      change (Serializer.structured interp st' (v.rename f)).map _ = _
      rw [h.structured_eq covered]
  | refused => exact h.refused_eq covered Serializer.notSerializable
  | own outcome => rfl

/-- What is refused for its type is refused with a new error. -/
theorem isFault_of_refused {α : Type} (h : Resemblance interp f S st st') (covered : View.Over S v)
    {refusal : String → Thrown} (fault : ∀ name, (refusal name).IsFault) {e : Thrown}
    (refused : (do throw (refusal (← st.typeName interp v)) : Except Thrown α) = .error e) :
    e.IsFault := by
  have typed : ∃ name, st.typeName interp v = .ok name
      ∧ st'.typeName interp (v.rename f) = .ok name := h.typeName_eq covered
  rcases typed with ⟨name, here, -⟩
  rw [here] at refused
  cases refused
  exact fault name

theorem isFault_of_mapMembers (h : Resemblance interp f S st st') {entries : List (Value × Value)}
    (covered : ∀ e ∈ entries, View.Over S e.1) {known : Keyed Value} {e : Thrown}
    (fails : Serializer.mapMembers interp st known entries = .error e) : e.IsFault := by
  induction entries generalizing known with
  | nil => cases fails
  | cons d entries ih =>
      rcases d with ⟨key, v⟩
      rw [Serializer.mapMembers] at fails
      cases named : Serializer.mapKey interp st key with
      | ok name =>
          rw [named] at fails
          exact ih (fun d hd => covered d (List.mem_cons_of_mem _ hd)) fails
      | error e' =>
          rw [named] at fails
          cases fails
          have fault : ∀ name, (Thrown.fault .typeError
              ("Map keys must be string, number or boolean, not " ++ name)).IsFault :=
            fun _ => ⟨_, _, rfl⟩
          have refused : Serializer.mapKey interp st key = .error e → e.IsFault := by
            cases key with
            | text s => rintro ⟨⟩
            | number n => rintro ⟨⟩
            | boolean b => rintro ⟨⟩
            | _ => exact h.isFault_of_refused (covered _ List.mem_cons_self) fault
          exact refused named

/-- What shows nothing is refused with a new error. -/
theorem isFault_of_view (h : Resemblance interp f S st st') (covered : View.Over S v) {e : Thrown}
    (refused : st.view interp v = .error e) : e.IsFault := by
  have fault : ∀ name, (Serializer.notJson name).IsFault := fun _ => ⟨_, _, rfl⟩
  cases v with
  | object r =>
      -- A type that has a counterpart has a name, so nothing but the refusal is raised.
      have hr := covered r List.mem_cons_self
      cases h.counterpart r hr with
      | record body _ _ _ =>
          by_cases plain : (st.get r).isPlain = true
          · rw [view_record body plain] at refused
            cases refused
          · simp only [view, body, plain, Bool.false_eq_true, if_false] at refused
            exact h.isFault_of_refused covered fault refused
      | foreign body _ other _ =>
          rw [view_foreign body.2 other] at refused
          exact h.isFault_of_refused covered fault refused
      | array elements _ there _ _ =>
          rw [view_array (by rw [there, Object.body_bare])] at refused
          cases refused
      | map entries there _ =>
          rw [view_map (by rw [there, Object.body_bare])] at refused
          cases made : Serializer.mapMembers interp st [] entries with
          | ok members =>
              rw [made] at refused
              cases refused
          | error d =>
              rw [made] at refused
              cases refused
              exact h.isFault_of_mapMembers (h.over_keys hr there) made
      | set elements there _ =>
          rw [view_set (by rw [there, Object.body_bare])] at refused
          cases refused
      | date instant there _ =>
          simp only [view, there, Object.body_bare] at refused
          cases instant <;> cases refused
      | pattern p l l' there _ =>
          simp only [view, there, Object.body_bare] at refused
          exact h.isFault_of_refused covered fault refused
      | url href there _ =>
          simp only [view, there, Object.body_bare] at refused
          cases refused
      | boxed u simple there _ =>
          simp only [view, there, Object.body_bare] at refused
          cases u with
          | symbol label => rcases simple with h | h | h <;> cases h
          | _ => cases refused
      | octets c w there _ =>
          simp only [view, there, Object.body_bare] at refused
          cases c with
          | buffer => cases refused
          | _ => exact h.isFault_of_refused covered fault refused
      | function callable _ =>
          rcases Object.isFunction_iff.mp callable with ⟨p, body⟩
          simp only [view, body] at refused
          exact h.isFault_of_refused covered fault refused
  | symbol label =>
      cases refused
      exact fault _
  | _ => cases refused

/-- Values have a text or are refused with a new error. -/
theorem serialize_cases (h : Resemblance interp f S st st') (covered : View.Over S v) :
    (∃ s, Serializer.serialize interp st v = .ok (.existing (.text s)))
      ∨ ∃ e, Serializer.serialize interp st v = .error e ∧ e.IsFault := by
  have calm : ∀ r ∈ v.refs, st.Calm r := fun r hr => h.calm r (covered r hr)
  have fault : ∀ name, (Serializer.notSerializable name).IsFault := fun _ => ⟨_, _, rfl⟩
  have nameless : ∀ name, (Thrown.fault .typeError
      ("Object of type " ++ name ++ " encodes to nothing")).IsFault := fun _ => ⟨_, _, rfl⟩
  rw [serialize_manner calm]
  cases manner : v.manner st with
  | structured =>
      cases gives : Serializer.structured interp st v with
      | ok s => exact .inl ⟨s, rfl⟩
      | error e =>
          refine .inr ⟨e, rfl, ?_⟩
          rw [Serializer.structured, document?, encode_eq h.regularOn _ _ _ covered] at gives
          cases made : (st.view interp).assemble st.depth [] v with
          | error d =>
              rw [made] at gives
              cases gives
              exact View.isFault_of_error h.closed_shows
                (fun _ covered _ => h.isFault_of_view covered) covered made
          | ok d =>
              rw [made] at gives
              cases d with
              | some j => cases gives
              | none => exact h.isFault_of_refused covered nameless gives
  | refused =>
      cases gives : (do throw (Serializer.notSerializable (← st.typeName interp v)) :
          Except Thrown Answer) with
      | error e => exact .inr ⟨e, rfl, h.isFault_of_refused covered fault gives⟩
      | ok answer => cases typed : st.typeName interp v <;> rw [typed] at gives <;> cases gives
  | own outcome => exact Value.manner_own manner

end Resemblance

end Store

end Stencil
