import Mathlib.Data.Set.Function
import Stencil.Proofs.Extension

/-!
# What Values Contain

Values that differ in nothing but the addresses of their objects.

`rename` puts other addresses in the place of those that an object refers to.
Two values have the same content, in two stores, if one renaming turns what can
be reached from the first into what can be reached from the second. It must not
map different addresses to the same one, so objects that are shared, or that
contain themselves, are so on both sides. How far an object can be changed
counts as content, so the copy of one that is locked is not the same.

Only what is reached matters, so the renaming is given together with a set of
addresses that is closed under references. That the two stores are different
ones is the point: a value keeps its content while the store around it grows,
and a copy has the content of what it was made from.

## Main definitions

* `Value.rename`, `Object.rename`: Other addresses.
* `Store.Matches`: A renaming that turns one closed set of objects into others.
* `Store.Alike`: Values with the same content.
* `Object.IsData`, `Store.IsData`: Plain data, as storing leaves it.

## Theorems

* `Object.rename_congr`, `Object.rename_rename`, `Object.refs_rename`: Renaming.
* `Store.Alike.of_extends`, `Store.Alike.symm`, `Store.Alike.trans`: Having the
  same content.
* `Store.Alike.image`: What is reached turns into what is reached.
* `Object.IsData.rename`: Renaming keeps data.
-/

namespace Stencil

/-! ### Renaming -/

/-- A value with another address. -/
def Value.rename (f : Ref → Ref) : Value → Value
  | object r => object (f r)
  | v => v

/-- A slot with other addresses. -/
def Slot.rename (f : Ref → Ref) : Slot → Slot
  | data v => data (v.rename f)
  | accessor getter setter => accessor (getter.map f) (setter.map f)

/-- A prototype with another address. -/
def Prototype.rename (f : Ref → Ref) : Prototype → Prototype
  | object r => object (f r)
  | p => p

/-- A property with other addresses. -/
def Property.rename (f : Ref → Ref) (p : Property) : Property :=
  { p with slot := p.slot.rename f }

/-- A template with other addresses. -/
def Template.rename (f : Ref → Ref) (t : Template) : Template :=
  { t with
    serializer := t.serializer.map f
    defaults := t.defaults.map fun e => (e.1, e.2.rename f)
    journal := { t.journal with root := f t.journal.root } }

/-- A body with other addresses. -/
def Body.rename (f : Ref → Ref) : Body → Body
  | array elements => array (elements.map (Option.map (Value.rename f)))
  | map entries => map (entries.map fun e => (e.1.rename f, e.2.rename f))
  | set elements => set (elements.map (Value.rename f))
  | pattern p lastIndex => pattern p (lastIndex.rename f)
  | boxed v => boxed (v.rename f)
  | function (.constant v) => function (.constant (v.rename f))
  | function (.raising v) => function (.raising (v.rename f))
  | template t => template (t.rename f)
  | b => b

/-- An object with other addresses. -/
def Object.rename (f : Ref → Ref) (o : Object) : Object :=
  { o with
    prototype := o.prototype.rename f
    fields := o.fields.map fun e => (e.1, e.2.rename f)
    body := o.body.rename f }

section

variable {f g : Ref → Ref}

theorem Value.rename_congr {v : Value} (same : ∀ q ∈ v.refs, f q = g q) :
    v.rename f = v.rename g := by
  cases v with
  | object r => rw [rename, rename, same r List.mem_cons_self]
  | _ => rfl

/-- No other value turns into one that is no object. -/
theorem Value.rename_eq_iff {v w : Value} (simple : w.refs = []) : v.rename f = w ↔ v = w := by
  cases v with
  | object r =>
      constructor
      · rintro rfl
        cases simple
      · rintro rfl
        cases simple
  | _ => exact Iff.rfl

theorem Slot.rename_congr {slot : Slot} (same : ∀ q ∈ slot.refs, f q = g q) :
    slot.rename f = slot.rename g := by
  cases slot with
  | data v => rw [rename, rename, Value.rename_congr same]
  | accessor getter setter =>
      have both : ∀ function : Option Ref, (∀ q ∈ function.toList, f q = g q) →
          function.map f = function.map g := by
        intro function same
        cases function with
        | none => rfl
        | some q => exact congrArg some (same q List.mem_cons_self)
      rw [rename, rename, both getter fun q hq => same q (List.mem_append_left _ hq),
        both setter fun q hq => same q (List.mem_append_right _ hq)]

theorem Prototype.rename_congr {p : Prototype} (same : ∀ q ∈ p.refs, f q = g q) :
    p.rename f = p.rename g := by
  cases p with
  | object r => rw [rename, rename, same r List.mem_cons_self]
  | _ => rfl

theorem Body.rename_congr {b : Body} (same : ∀ q ∈ b.refs, f q = g q) :
    b.rename f = b.rename g := by
  cases b with
  | array elements =>
      rw [rename, rename, array.injEq]
      refine List.map_congr_left fun element mem => ?_
      cases element with
      | none => rfl
      | some v =>
          have each : ∀ q ∈ v.refs, f q = g q := fun q hq =>
            same q (List.mem_flatMap.mpr ⟨some v, mem, hq⟩)
          rw [Option.map_some, Option.map_some, Value.rename_congr each]
  | map entries =>
      rw [rename, rename, map.injEq]
      refine List.map_congr_left fun e mem => ?_
      have each : ∀ q ∈ e.1.refs ++ e.2.refs, f q = g q := fun q hq =>
        same q (List.mem_flatMap.mpr ⟨e, mem, hq⟩)
      rw [Value.rename_congr fun q hq => each q (List.mem_append_left _ hq),
        Value.rename_congr fun q hq => each q (List.mem_append_right _ hq)]
  | set elements =>
      rw [rename, rename, set.injEq]
      refine List.map_congr_left fun v mem => ?_
      exact Value.rename_congr fun q hq => same q (List.mem_flatMap.mpr ⟨v, mem, hq⟩)
  | pattern p lastIndex => rw [rename, rename, Value.rename_congr same]
  | boxed v => rw [rename, rename, Value.rename_congr same]
  | function p =>
      cases p with
      | constant v => rw [rename, rename, Value.rename_congr same]
      | raising v => rw [rename, rename, Value.rename_congr same]
      | _ => rfl
  | template t =>
      have serializer : t.serializer.map f = t.serializer.map g := by
        refine Option.map_congr fun q hq => same q (List.mem_append_left _ ?_)
        exact Option.mem_toList.mpr hq
      have root : f t.journal.root = g t.journal.root :=
        same _ (List.mem_append_right _ List.mem_cons_self)
      have defaults : t.defaults.map (fun e => (e.1, e.2.rename f))
          = t.defaults.map fun e => (e.1, e.2.rename g) := by
        refine List.map_congr_left fun e mem => ?_
        rw [Value.rename_congr fun q hq => same q (List.mem_append_right _
          (List.mem_cons_of_mem _ (List.mem_flatMap.mpr ⟨e, mem, hq⟩)))]
      rw [rename, rename, Template.rename, Template.rename, serializer, root, defaults]
  | _ => rfl

/-- Only the addresses that are referred to matter. -/
theorem Object.rename_congr {o : Object} (same : ∀ q ∈ o.refs, f q = g q) :
    o.rename f = o.rename g := by
  have fields : o.fields.map (fun e => (e.1, e.2.rename f))
      = o.fields.map fun e => (e.1, e.2.rename g) := by
    refine List.map_congr_left fun e mem => ?_
    rw [Property.rename, Property.rename, Slot.rename_congr fun q hq => same q
      (List.mem_append_left _ (List.mem_append_right _ (List.mem_flatMap.mpr ⟨e, mem, hq⟩)))]
  rw [rename, rename, fields,
    Prototype.rename_congr fun q hq => same q
      (List.mem_append_left _ (List.mem_append_left _ hq)),
    Body.rename_congr fun q hq => same q (List.mem_append_right _ hq)]

/-! ### Renaming twice -/

@[simp] theorem Value.rename_id (v : Value) : v.rename id = v := by
  cases v <;> rfl

@[simp] theorem Value.rename_rename (v : Value) : (v.rename f).rename g = v.rename (g ∘ f) := by
  cases v <;> rfl

@[simp] theorem Value.refs_rename (v : Value) : (v.rename f).refs = v.refs.map f := by
  cases v <;> rfl

@[simp] theorem Slot.rename_id (slot : Slot) : slot.rename id = slot := by
  cases slot with
  | data v => rw [rename, Value.rename_id]
  | accessor getter setter => rw [rename, Option.map_id_fun, id, id]

@[simp] theorem Slot.rename_rename (slot : Slot) :
    (slot.rename f).rename g = slot.rename (g ∘ f) := by
  cases slot with
  | data v => rw [rename, rename, rename, Value.rename_rename]
  | accessor getter setter => rw [rename, rename, rename, Option.map_map, Option.map_map]

@[simp] theorem Slot.refs_rename (slot : Slot) : (slot.rename f).refs = slot.refs.map f := by
  cases slot with
  | data v => exact Value.refs_rename v
  | accessor getter setter =>
      rw [rename, refs, refs, List.map_append]
      cases getter <;> cases setter <;> rfl

@[simp] theorem Prototype.rename_id (p : Prototype) : p.rename id = p := by
  cases p <;> rfl

@[simp] theorem Prototype.rename_rename (p : Prototype) :
    (p.rename f).rename g = p.rename (g ∘ f) := by
  cases p <;> rfl

@[simp] theorem Prototype.refs_rename (p : Prototype) : (p.rename f).refs = p.refs.map f := by
  cases p <;> rfl

@[simp] theorem Property.rename_id (p : Property) : p.rename id = p := by
  rw [rename, Slot.rename_id]

@[simp] theorem Property.rename_rename (p : Property) :
    (p.rename f).rename g = p.rename (g ∘ f) := by
  simp only [rename, Slot.rename_rename]

@[simp] theorem Property.slot_rename (p : Property) : (p.rename f).slot = p.slot.rename f := rfl

theorem Property.slot_rename_of_data {p : Property} {v : Value} (slot : p.slot = .data v) :
    (p.rename f).slot = .data (v.rename f) := by
  rw [slot_rename, slot]
  rfl

theorem Body.rename_id (b : Body) : b.rename id = b := by
  cases b with
  | array elements =>
      have each : Option.map (Value.rename id) = id := by
        funext element
        cases element with
        | none => rfl
        | some v => rw [Option.map_some, Value.rename_id]; rfl
      rw [rename, each, List.map_id]
  | map entries => simp only [rename, Value.rename_id, List.map_id']
  | set elements =>
      have each : Value.rename id = id := funext Value.rename_id
      rw [rename, each, List.map_id]
  | function p => cases p <;> simp only [rename, Value.rename_id]
  | template t =>
      simp only [rename, Template.rename, Value.rename_id, List.map_id', Option.map_id, id_eq]
  | _ => simp only [rename, Value.rename_id]

theorem Body.rename_rename (b : Body) : (b.rename f).rename g = b.rename (g ∘ f) := by
  cases b with
  | function p => cases p <;> simp only [rename, Value.rename_rename]
  | _ => simp [rename, Template.rename, Function.comp_def]

theorem Body.refs_rename (b : Body) : (b.rename f).refs = b.refs.map f := by
  cases b with
  | array elements =>
      rw [rename, refs, refs, List.flatMap_map, List.map_flatMap]
      refine List.flatMap_congr fun element _ => ?_
      cases element with
      | none => rfl
      | some v => exact Value.refs_rename v
  | function p =>
      cases p with
      | constant v => exact Value.refs_rename v
      | raising v => exact Value.refs_rename v
      | _ => rfl
  | pattern p lastIndex => exact Value.refs_rename lastIndex
  | boxed v => exact Value.refs_rename v
  | template t =>
      cases serializer : t.serializer <;>
        simp [rename, refs, Template.rename, serializer, List.flatMap_map, List.map_flatMap]
  | _ => simp [rename, refs, List.flatMap_map, List.map_flatMap]

@[simp] theorem Object.rename_id (o : Object) : o.rename id = o := by
  simp only [rename, Prototype.rename_id, Property.rename_id, List.map_id', Body.rename_id]

@[simp] theorem Object.rename_rename (o : Object) :
    (o.rename f).rename g = o.rename (g ∘ f) := by
  simp [rename, Body.rename_rename, Function.comp_def]

/-- Renaming renames what is referred to. -/
@[simp] theorem Object.refs_rename (o : Object) : (o.rename f).refs = o.refs.map f := by
  simp [rename, refs, Body.refs_rename, List.flatMap_map, List.map_flatMap]

end

/-! ### The same content -/

namespace Store

/-- A renaming turns the objects at the addresses of a closed set into those of
    another store. -/
structure Matches (f : Ref → Ref) (S : Set Ref) (st st' : Store) : Prop where
  injective : Set.InjOn f S
  closed : ∀ r ∈ S, ∀ q ∈ (st.get r).refs, q ∈ S
  inside : ∀ r ∈ S, r.index < st.objects.size
  target : ∀ r ∈ S, (f r).index < st'.objects.size
  get_eq : ∀ r ∈ S, st'.get (f r) = (st.get r).rename f

/-- Two values have the same content, each in its store. -/
def Alike (st : Store) (v : Value) (st' : Store) (v' : Value) : Prop :=
  ∃ f S, Matches f S st st' ∧ (∀ q ∈ v.refs, q ∈ S) ∧ v' = v.rename f

variable {st st' st'' : Store} {v v' v'' : Value}

/-- Objects that stay the same keep their content. -/
theorem matches_id {S : Set Ref} (closed : ∀ r ∈ S, ∀ q ∈ (st.get r).refs, q ∈ S)
    (inside : ∀ r ∈ S, r.index < st.objects.size) (size_le : st.objects.size ≤ st'.objects.size)
    (get_eq : ∀ r ∈ S, st'.get r = st.get r) : Matches id S st st' where
  injective := Function.injective_id.injOn
  closed := closed
  inside := inside
  target r hr := Nat.lt_of_lt_of_le (inside r hr) size_le
  get_eq r hr := by rw [id_eq, get_eq r hr, Object.rename_id]

namespace Alike

/-- Values keep their content while the store grows. -/
theorem of_extends (closed : st.Closed) (held : st.Holds v) (h : st.Extends st') :
    Alike st v st' v := by
  refine ⟨id, {r | r.index < st.objects.size}, ?_, held, v.rename_id.symm⟩
  exact matches_id closed (fun r hr => hr) h.size_le h.get_eq

theorem symm (h : Alike st v st' v') : Alike st' v' st v := by
  rcases h with ⟨f, S, matched, reached, rfl⟩
  have back : ∀ r ∈ S, Function.invFunOn f S (f r) = r := matched.injective.leftInvOn_invFunOn
  -- The way back is only determined on the image, so its closed set is the image.
  refine ⟨Function.invFunOn f S, f '' S, ?_, ?_, ?_⟩
  · refine ⟨?_, ?_, ?_, ?_, ?_⟩
    · rintro _ ⟨r, hr, rfl⟩ _ ⟨q, hq, rfl⟩ same
      rw [back r hr, back q hq] at same
      rw [same]
    · rintro _ ⟨r, hr, rfl⟩ q hq
      rw [matched.get_eq r hr, Object.refs_rename] at hq
      rcases List.mem_map.mp hq with ⟨p, hp, rfl⟩
      exact ⟨p, matched.closed r hr p hp, rfl⟩
    · rintro _ ⟨r, hr, rfl⟩
      exact matched.target r hr
    · rintro _ ⟨r, hr, rfl⟩
      rw [back r hr]
      exact matched.inside r hr
    · rintro _ ⟨r, hr, rfl⟩
      have same : ∀ q ∈ (st.get r).refs, (Function.invFunOn f S ∘ f) q = id q :=
        fun q hq => back q (matched.closed r hr q hq)
      rw [back r hr, matched.get_eq r hr, Object.rename_rename, Object.rename_congr same,
        Object.rename_id]
  · intro q hq
    rw [Value.refs_rename] at hq
    rcases List.mem_map.mp hq with ⟨p, hp, rfl⟩
    exact ⟨p, reached p hp, rfl⟩
  · have same : ∀ q ∈ v.refs, (Function.invFunOn f S ∘ f) q = id q :=
      fun q hq => back q (reached q hq)
    rw [Value.rename_rename, Value.rename_congr same, Value.rename_id]

theorem trans (first : Alike st v st' v') (second : Alike st' v' st'' v'') :
    Alike st v st'' v'' := by
  rcases first with ⟨f, S, matched, reached, rfl⟩
  rcases second with ⟨g, T, matched', reached', rfl⟩
  -- The second renaming need not be injective on all that the first one reaches.
  refine ⟨g ∘ f, {r | r ∈ S ∧ f r ∈ T}, ?_, ?_, Value.rename_rename v⟩
  · refine ⟨?_, ?_, ?_, ?_, ?_⟩
    · rintro r ⟨hr, hfr⟩ q ⟨hq, hfq⟩ same
      exact matched.injective hr hq (matched'.injective hfr hfq same)
    · rintro r ⟨hr, hfr⟩ q hq
      refine ⟨matched.closed r hr q hq, matched'.closed (f r) hfr (f q) ?_⟩
      rw [matched.get_eq r hr, Object.refs_rename]
      exact List.mem_map_of_mem hq
    · rintro r ⟨hr, -⟩
      exact matched.inside r hr
    · rintro r ⟨-, hfr⟩
      exact matched'.target (f r) hfr
    · rintro r ⟨hr, hfr⟩
      rw [Function.comp_apply, matched'.get_eq (f r) hfr, matched.get_eq r hr,
        Object.rename_rename]
  · intro q hq
    refine ⟨reached q hq, reached' (f q) ?_⟩
    rw [Value.refs_rename]
    exact List.mem_map_of_mem hq

/-- What a value reaches within a closed set turns into a closed set again, object
    by object. -/
theorem image (alike : Alike st v st' v') {S : Set Ref}
    (closed : ∀ r ∈ S, ∀ q ∈ (st.get r).refs, q ∈ S) (reached : ∀ q ∈ v.refs, q ∈ S) :
    ∃ S' : Set Ref, (∀ q ∈ v'.refs, q ∈ S')
      ∧ (∀ r ∈ S', ∀ q ∈ (st'.get r).refs, q ∈ S')
      ∧ (∀ r ∈ S', r.index < st'.objects.size)
      ∧ ∀ r ∈ S', ∃ f, ∃ p ∈ S, Set.InjOn f {q | q ∈ (st.get p).refs}
        ∧ st'.get r = (st.get p).rename f := by
  rcases alike with ⟨f, T, matched, reached', rfl⟩
  refine ⟨f '' (S ∩ T), ?_, ?_, ?_, ?_⟩
  · intro q hq
    rw [Value.refs_rename] at hq
    rcases List.mem_map.mp hq with ⟨p, hp, rfl⟩
    exact ⟨p, ⟨reached p hp, reached' p hp⟩, rfl⟩
  · rintro _ ⟨r, ⟨hs, ht⟩, rfl⟩ q hq
    rw [matched.get_eq r ht, Object.refs_rename] at hq
    rcases List.mem_map.mp hq with ⟨p, hp, rfl⟩
    exact ⟨p, ⟨closed r hs p hp, matched.closed r ht p hp⟩, rfl⟩
  · rintro _ ⟨r, ⟨-, ht⟩, rfl⟩
    exact matched.target r ht
  · rintro _ ⟨r, ⟨hs, ht⟩, rfl⟩
    exact ⟨f, r, hs, matched.injective.mono (matched.closed r ht), matched.get_eq r ht⟩

end Alike

end Store

/-! ### Plain data -/

/-- Values that a collection keeps apart, as it keeps them. -/
structure Distinct (vs : List Value) : Prop where
  normal : ∀ v ∈ vs, v.asKey = v
  nodup : vs.Nodup

/-- Plain data as storing leaves it: records of values, and arrays, maps, sets and
    dates without any properties of their own. -/
inductive Object.IsData : Object → Prop
  | record (o : Object) (body : o.body = .record) (plain : o.isPlain = true)
      (integrity : o.integrity = {}) (data : ∀ e ∈ o.fields, ∃ v, e.2.slot = .data v) :
      IsData o
  | array (elements : List Value) : IsData (ofBody (.array (elements.map some)))
  | map (entries : List (Value × Value)) (distinct : Distinct (entries.map Prod.fst)) :
      IsData (ofBody (.map entries))
  | set (elements : List Value) (distinct : Distinct elements) : IsData (ofBody (.set elements))
  | date (instant : Option Instant)
      (within : ∀ ms ∈ instant, -Instant.reach ≤ ms ∧ ms ≤ Instant.reach) :
      IsData (ofBody (.date instant))

theorem Object.isPlain_iff {o : Object} :
    o.isPlain = true ↔ o.prototype = .family .object ∨ o.prototype = .none := by
  rw [isPlain, Bool.or_eq_true, beq_iff_eq, beq_iff_eq]

section

variable {f : Ref → Ref}

theorem Value.eq_of_rename {S : Set Ref} (injective : Set.InjOn f S) {v w : Value}
    (hv : ∀ q ∈ v.refs, q ∈ S) (hw : ∀ q ∈ w.refs, q ∈ S) (same : v.rename f = w.rename f) :
    v = w := by
  cases v with
  | object r =>
      cases w with
      | object q =>
          have addresses : f r = f q := Value.object.inj same
          rw [injective (hv r List.mem_cons_self) (hw q List.mem_cons_self) addresses]
      | _ => cases same
  | _ =>
      cases w with
      | object q => cases same
      | _ => exact same

@[simp] theorem Value.asKey_rename (v : Value) : (v.rename f).asKey = v.asKey.rename f := by
  cases v <;> rfl

/-- Values that are kept apart are so under other addresses. -/
theorem Distinct.rename {vs : List Value} (distinct : Distinct vs)
    (injective : Set.InjOn f {q | ∃ v ∈ vs, q ∈ v.refs}) : Distinct (vs.map (Value.rename f)) := by
  constructor
  · intro w hw
    rcases List.mem_map.mp hw with ⟨v, hv, rfl⟩
    rw [Value.asKey_rename, distinct.normal v hv]
  · refine List.Nodup.map_on (fun v hv w hw same => ?_) distinct.nodup
    exact Value.eq_of_rename injective (fun q hq => ⟨v, hv, hq⟩) (fun q hq => ⟨w, hw, hq⟩) same

theorem Object.rename_ofBody (b : Body) (family : (b.rename f).family = b.family) :
    (ofBody b).rename f = ofBody (b.rename f) := by
  simp only [rename, ofBody, Prototype.rename, List.map_nil, family]

/-- Plain objects are so under other addresses, and no others. -/
theorem Object.isPlain_rename {o : Object} : (o.rename f).isPlain = o.isPlain := by
  rw [isPlain, isPlain, rename]
  cases o.prototype <;> rfl

/-- Properties hold values under other addresses if they do. -/
theorem Object.data_rename {o : Object} (data : ∀ e ∈ o.fields, ∃ v, e.2.slot = .data v) :
    ∀ e ∈ (o.rename f).fields, ∃ v, e.2.slot = .data v := by
  intro e he
  rcases List.mem_map.mp he with ⟨d, hd, rfl⟩
  rcases data d hd with ⟨v, slot⟩
  exact ⟨v.rename f, Property.slot_rename_of_data slot⟩

/-- Data under other addresses is data. -/
theorem Object.IsData.rename {o : Object} (data : o.IsData)
    (injective : Set.InjOn f {q | q ∈ o.refs}) : (o.rename f).IsData := by
  cases data with
  | record _ body plain integrity data =>
      refine .record _ ?_ (isPlain_rename.trans plain) integrity (data_rename data)
      rw [Object.rename, body]
      rfl
  | array elements =>
      have same : (elements.map some).map (Option.map (Value.rename f))
          = (elements.map (Value.rename f)).map some := by
        rw [List.map_map, List.map_map]
        rfl
      rw [rename_ofBody _ rfl, Body.rename, same]
      exact .array _
  | map entries distinct =>
      have keys : (entries.map fun e => (e.1.rename f, e.2.rename f)).map Prod.fst
          = (entries.map Prod.fst).map (Value.rename f) := by
        rw [List.map_map, List.map_map]
        rfl
      rw [rename_ofBody _ rfl, Body.rename]
      refine .map _ (keys ▸ distinct.rename (injective.mono ?_))
      rintro q ⟨v, hv, hq⟩
      rcases List.mem_map.mp hv with ⟨e, he, rfl⟩
      refine List.mem_append_right _ (List.mem_flatMap.mpr ⟨e, he, ?_⟩)
      exact List.mem_append_left _ hq
  | set elements distinct =>
      rw [rename_ofBody _ rfl, Body.rename]
      refine .set _ (distinct.rename (injective.mono ?_))
      rintro q ⟨v, hv, hq⟩
      exact List.mem_append_right _ (List.mem_flatMap.mpr ⟨v, hv, hq⟩)
  | date instant within =>
      rw [rename_ofBody _ rfl]
      exact .date instant within

end

namespace Store

variable {st st' : Store} {r : Ref}

theorem inherits_of_none {f : Family} (next : (st.get r).prototype = .none) :
    st.inherits r f = false := by
  rw [inherits, rootFamily?, rootFamilyWithin, next]

theorem inherits_of_family {f g : Family} (next : (st.get r).prototype = .family g) :
    st.inherits r f = g.isA f := by
  rw [inherits, rootFamily?, rootFamilyWithin, next]

/-- Data is no template. -/
theorem not_inherits_of_isData (data : (st.get r).IsData) :
    st.inherits r (.template .prompt) = false := by
  generalize same : st.get r = o at data
  cases data with
  | record _ _ plain _ _ =>
      rw [← same] at plain
      rcases Object.isPlain_iff.mp plain with family | none
      · rw [inherits_of_family family]
        rfl
      · exact inherits_of_none none
  | array elements => exact inherits_of_family (g := .array) (by rw [same]; rfl)
  | map entries distinct => exact inherits_of_family (g := .map) (by rw [same]; rfl)
  | set elements distinct => exact inherits_of_family (g := .set) (by rw [same]; rfl)
  | date instant within => exact inherits_of_family (g := .date) (by rw [same]; rfl)

/-- Data at the addresses of a closed set. -/
structure DataOn (st : Store) (S : Set Ref) : Prop where
  data : ∀ r ∈ S, (st.get r).IsData
  closed : ∀ r ∈ S, ∀ q ∈ (st.get r).refs, q ∈ S
  inside : ∀ r ∈ S, r.index < st.objects.size

/-- A value that is data, and all that can be reached from it. -/
def IsData (st : Store) (v : Value) : Prop :=
  ∃ S, st.DataOn S ∧ ∀ q ∈ v.refs, q ∈ S

variable {v v' : Value}

/-- A value that is no object is data. -/
theorem isData_of_refs (simple : v.refs = []) : st.IsData v := by
  refine ⟨∅, ⟨?_, ?_, ?_⟩, ?_⟩
  · exact fun _ mem => absurd mem (Set.notMem_empty _)
  · exact fun _ mem => absurd mem (Set.notMem_empty _)
  · exact fun _ mem => absurd mem (Set.notMem_empty _)
  · rw [simple]
    exact fun _ mem => absurd mem List.not_mem_nil

theorem IsData.holds (data : st.IsData v) : st.Holds v := by
  rcases data with ⟨S, on, reached⟩
  exact fun q hq => on.inside q (reached q hq)

theorem IsData.templateRef?_eq_none (data : st.IsData v) : st.templateRef? v = none := by
  rcases data with ⟨S, on, reached⟩
  cases v with
  | object r =>
      rw [templateRef?, not_inherits_of_isData (on.data r (reached r List.mem_cons_self))]
      rfl
  | _ => rfl

/-- What has the same content as data is data. -/
theorem IsData.of_alike (data : st.IsData v) (alike : Alike st v st' v') : st'.IsData v' := by
  rcases data with ⟨S, on, reached⟩
  rcases alike.image on.closed reached with ⟨S', reached', closed, inside, objects⟩
  refine ⟨S', ⟨fun r hr => ?_, closed, inside⟩, reached'⟩
  rcases objects r hr with ⟨f, p, hp, injective, there⟩
  exact there ▸ (on.data p hp).rename injective

/-- Data keeps its content where its objects stay the same. -/
theorem IsData.alike_self (data : st.IsData v) (size_le : st.objects.size ≤ st'.objects.size)
    (same : ∀ r, r.index < st.objects.size → (st.get r).IsData → st'.get r = st.get r) :
    Alike st v st' v := by
  rcases data with ⟨S, on, reached⟩
  refine ⟨id, S, matches_id on.closed on.inside size_le fun r hr => ?_, reached, v.rename_id.symm⟩
  exact same r (on.inside r hr) (on.data r hr)

theorem IsData.alike_of_extends (data : st.IsData v) (h : st.Extends st') : Alike st v st' v :=
  data.alike_self h.size_le fun r inside _ => h.get_eq r inside

/-- A template is no data. -/
theorem not_isData_of_template? {t : Template} (held : st.template? r = some t) :
    ¬ (st.get r).IsData := by
  intro data
  have body := body_of_template? held
  generalize st.get r = o at data body
  cases data with
  | record _ record _ _ _ =>
      rw [record] at body
      cases body
  | _ => cases body

end Store

end Stencil
