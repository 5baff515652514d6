import Stencil.Proofs.Assembly
import Stencil.Proofs.Digits
import Stencil.Serializer

/-!
# What Values Show

What the JSON of a prompt is made of, where nothing is called for it.

Before a value is written it may put another one in its place, and after that it
is told apart by its kind. As long as no object has a method `toJSON` but the
built-in kinds have theirs, both steps come to one look at the object, and
`Store.view` says what is seen there: arrays and sets have items, plain objects
and maps have members, dates, links and wrapped values are finished documents,
and everything else is refused. So structured values are written by following
the parts that they show.

## Main definitions

* `Store.LacksJson`: An object without a method for JSON.
* `Store.Regular`: Objects of the kinds that values are made of.
* `Store.view`: What values show.
* `Store.contribution`: What a value contributes under a key.

## Theorems

* `Store.contribution_eq`: What a regular object contributes is what it shows.
* `Store.encode_eq`: The document of a value is put together from what is shown.
-/

namespace Stencil

namespace Facet

/-- The items of an array; one that contributes nothing is null. -/
def items (owner : Option Ref) (values : List Value) : Facet :=
  parts owner values fun documents => .array (documents.map fun d => d.getD .null)

/-- The members of an object; one that contributes nothing is left out. -/
def members (owner : Option Ref) (fields : List (String × Value)) : Facet :=
  parts owner (fields.map Prod.snd) fun documents =>
    .object (((fields.map Prod.fst).zip documents).filterMap fun e => e.2.map fun j => (e.1, j))

/-- What a value shows that is no object. -/
def ofSimple : Value → Except Thrown Facet
  | .null => .ok (done (some .null))
  | .boolean b => .ok (done (some (.boolean b)))
  | .number n => .ok (done (some (.number n)))
  | .bigint n => .ok (done (some (.text (integerText n))))
  | .text s => .ok (done (some (.text s)))
  | .symbol _ => .error (Serializer.notJson "symbol")
  | .undefined | .object _ => .ok (done none)

end Facet

/-- What a value contributes, as something that it shows. -/
def Content.facet : Content → Facet
  | nothing => .done none
  | leaf j => .done (some j)
  | items owner values => .items owner values
  | members owner fields =>
    .members owner (fields.filterMap fun e => e.2.value?.map fun v => (e.1, v))

/-- The document that a buffer is shown as. -/
def bufferDocument (w : Window UInt8) : Json :=
  .object [("type", .text "Buffer"),
    ("data", .array (w.visible.map fun b => .number (Number.ofInt b.toNat)))]

/-- The values that objects are written with: elements, the values of maps, and
    those of enumerable properties under texts. -/
def Object.children (o : Object) : List Value :=
  match o.body with
  | .record => o.dataEntries.map Prod.snd
  | .array elements => elements.map fun element => element.getD .undefined
  | .map entries => entries.map Prod.snd
  | .set elements => elements
  | _ => []

/-- Whether no document can be made from a body itself. -/
def Body.isForeign : Body → Bool
  | record | error | template _ | cells _ _ | arrayBuffer _ => true
  | _ => false

/-- The document that a content is written as, in the store that holds it. -/
def Content.encode (policy : Policy) (interp : Interpretation) (allowance : Nat) (path : List Ref)
    (st : Store) : Content → Except Thrown (Option Json)
  | nothing => .ok none
  | leaf j => .ok (some j)
  | items owner values => do
    let path ← Store.enter path owner
    let items ← Store.encodeItems (Store.encode policy interp allowance st path) 0 values
    return some (.array items)
  | members owner fields => do
    let path ← Store.enter path owner
    let receiver := match owner with
      | some r => .object r
      | none => .undefined
    let members ← Store.encodeMembers
      (fun name slot => do
        let (st, v) ← st.readSlot interp receiver slot
        Store.encode policy interp allowance st path name v)
      fields
    return some (.object members)

namespace Store

/-- No method `toJSON` is found, and looking for one calls nothing. -/
def LacksJson (st : Store) (r : Ref) : Prop :=
  ∀ found ∈ st.find? r (.text "toJSON"), ∃ p holder v,
    found = .property p holder ∧ p.slot = .data v ∧ st.functionRef? v = none

/-- The kinds of objects that values are made of, where none has a method for JSON
    that is not native. -/
inductive Regular (st : Store) (r : Ref) : Prop
  /-- A plain object that computes no properties. -/
  | record (body : (st.get r).body = .record) (plain : (st.get r).isPlain = true)
      (data : ∀ e ∈ (st.get r).fields, ∃ v, e.2.slot = .data v) (lacks : st.LacksJson r)
  /-- An instance of a class, or something else that no document can be made from. -/
  | derived (body : (st.get r).body.isForeign = true)
      (other : (st.get r).isPlain = false) (ordinary : st.Ordinary r) (lacks : st.LacksJson r)
  /-- Elements may be missing. -/
  | array (elements : List (Option Value)) {integrity : Integrity}
      (there : st.get r = .bare (.array elements) integrity)
  | map (entries : List (Value × Value)) {integrity : Integrity}
      (there : st.get r = .bare (.map entries) integrity)
  | set (elements : List Value) {integrity : Integrity}
      (there : st.get r = .bare (.set elements) integrity)
  | date (instant : Option Instant) {integrity : Integrity}
      (there : st.get r = .bare (.date instant) integrity)
  | pattern (p : Pattern) (lastIndex : Value) {integrity : Integrity}
      (there : st.get r = .bare (.pattern p lastIndex) integrity)
  | url (href : String) {integrity : Integrity} (there : st.get r = .bare (.url href) integrity)
  | boxed (v : Value) (simple : v.wrapper = .string ∨ v.wrapper = .number ∨ v.wrapper = .boolean)
      {integrity : Integrity} (there : st.get r = .bare (.boxed v) integrity)
  | octets (c : OctetClass) (w : Window UInt8) {integrity : Integrity}
      (there : st.get r = .bare (.octets c w) integrity)
  | function (callable : (st.get r).isFunction = true) (lacks : st.LacksJson r)

/-- What values show. -/
def view (interp : Interpretation) (st : Store) : View
  | .object r =>
    let o := st.get r
    let refused : Except Thrown Facet := do
      throw (Serializer.notJson (← st.typeName interp (.object r)))
    match o.body with
    | .record => if o.isPlain then .ok (.members (some r) o.dataEntries) else refused
    | .array elements => .ok (.items (some r) (elements.map fun element => element.getD .undefined))
    | .map entries => do
      return .members none (← Serializer.mapMembers interp st [] entries).texts
    | .set elements => .ok (.items none elements)
    | .date (some t) => .ok (.done (some (.text t.text)))
    | .date none => .ok (.done (some .null))
    | .url href => .ok (.done (some (.text href)))
    | .boxed v => Facet.ofSimple v
    | .octets .buffer w => .ok (.done (some (bufferDocument w)))
    | _ => refused
  | v => Facet.ofSimple v

/-- Regular objects at the addresses of a set that what they hold is in. -/
structure RegularOn (st : Store) (S : Set Ref) : Prop where
  regular : ∀ r ∈ S, st.Regular r
  closed : ∀ r ∈ S, ∀ w ∈ (st.get r).children, View.Over S w

/-- What a value contributes when it is written under a key. -/
def contribution (policy : Policy) (interp : Interpretation) (st : Store) (key : String)
    (v : Value) : Except Thrown (Store × Content) := do
  match ← st.prepare interp key v with
  | .document j => return (st, .leaf j)
  | .value st v => policy st v

/-- A value contributes what it shows, and nothing in the store changes. -/
inductive Contributes (interp : Interpretation) (st : Store) (key : String) (v : Value) : Prop
  | refused (e : Thrown) (here : st.contribution (Serializer.strict interp) interp key v = .error e)
      (shown : st.view interp v = .error e)
  | offered (content : Content)
      (here : st.contribution (Serializer.strict interp) interp key v = .ok (st, content))
      (data : ∀ owner fields, content = .members owner fields → ∀ e ∈ fields, ∃ v, e.2 = .data v)
      (shown : st.view interp v = .ok content.facet)

variable {interp : Interpretation} {st : Store} {r : Ref} {key : String}

/-! ### Kinds with parts -/

theorem view_record (body : (st.get r).body = .record) (plain : (st.get r).isPlain = true) :
    st.view interp (.object r) = .ok (.members (some r) (st.get r).dataEntries) := by
  simp only [view, body, plain, if_true]

theorem view_array {elements : List (Option Value)} (body : (st.get r).body = .array elements) :
    st.view interp (.object r)
      = .ok (.items (some r) (elements.map fun element => element.getD .undefined)) := by
  simp only [view, body]

theorem view_set {elements : List Value} (body : (st.get r).body = .set elements) :
    st.view interp (.object r) = .ok (.items none elements) := by
  simp only [view, body]

theorem view_map {entries : List (Value × Value)} (body : (st.get r).body = .map entries) :
    st.view interp (.object r) = Serializer.mapMembers interp st [] entries >>= fun members =>
      .ok (.members none members.texts) := by
  simp only [view, body]
  rfl

/-- What no document can be made from is refused, unless it is a plain object. -/
theorem view_foreign (foreign : (st.get r).body.isForeign = true)
    (other : (st.get r).isPlain = false) :
    st.view interp (.object r) = (do
      throw (Serializer.notJson (← st.typeName interp (.object r))) : Except Thrown Facet) := by
  cases body : (st.get r).body with
  | record | error | template _ | cells _ _ | arrayBuffer _ =>
      simp only [view, body, other, Bool.false_eq_true, if_false]
  | _ =>
      rw [body] at foreign
      cases foreign

/-! ### Methods for JSON -/

/-- An object without a method for JSON that is asked for one has none. -/
theorem method?_of_lacks (lacks : st.LacksJson r) :
    st.method? interp r "toJSON" = .ok (st, none) := by
  rw [method?]
  cases found : st.find? r (.text "toJSON") with
  | none => rfl
  | some at_ =>
      rcases lacks at_ found with ⟨p, holder, v, rfl, slot, simple⟩
      simp only [slot, readSlot, bind, Except.bind, pure, Except.pure, simple, Option.map_none]

/-- An object without a method for JSON stands for itself. -/
theorem prepare_of_lacks (lacks : st.LacksJson r) :
    st.prepare interp key (.object r) = .ok (.value st (.object r)) := by
  rw [prepare, method?_of_lacks lacks]
  rfl

theorem lacksJson_bare {b : Body} {integrity : Integrity} (there : st.get r = .bare b integrity)
    (own : (Object.bare b integrity).bodyProperty? "toJSON" = none)
    (state : (Object.bare b integrity).ownNative? (.text "toJSON") = none)
    (native : b.family.native? "toJSON" = none) : st.LacksJson r := by
  intro found mem
  rw [find?_bare there own state, Family.find?, native] at mem
  cases mem

/-! ### All kinds -/

theorem contribution_of_lacks {policy : Policy} (lacks : st.LacksJson r) :
    st.contribution policy interp key (.object r) = policy st (.object r) := by
  rw [contribution, prepare_of_lacks lacks]
  rfl

/-- What has no properties but values exposes values. -/
theorem data_enumerable {o : Object} (body : o.body = .record)
    (data : ∀ e ∈ o.fields, ∃ v, e.2.slot = .data v) : ∀ e ∈ o.enumerable, ∃ v, e.2 = .data v := by
  intro e mem
  have noElements : o.indexed = [] := by simp only [Object.indexed, body]
  rw [Object.enumerable, noElements] at mem
  rcases List.mem_filterMap.mp mem with ⟨⟨name, p⟩, listed, shown⟩
  rcases List.mem_filterMap.mp listed with ⟨⟨k, q⟩, there, named⟩
  cases k with
  | symbol label => cases named
  | text s =>
      cases named
      rcases data _ there with ⟨v, slot⟩
      by_cases visible : p.enumerable = true
      · simp only [visible, if_true, Option.some.injEq] at shown
        exact ⟨v, shown ▸ slot⟩
      · simp only [visible, if_false, reduceCtorEq] at shown

/-- What is refused contributes nothing but the error. -/
theorem contributes_refused (lacks : st.LacksJson r)
    (here : Serializer.strict interp st (.object r)
      = do throw (Serializer.notJson (← st.typeName interp (.object r))))
    (shown : st.view interp (.object r)
      = do throw (Serializer.notJson (← st.typeName interp (.object r)))) :
    st.Contributes interp key (.object r) := by
  have contributed : st.contribution (Serializer.strict interp) interp key (.object r) = _ :=
    (contribution_of_lacks lacks).trans here
  cases type : st.typeName interp (.object r) with
  | error e =>
      rw [type] at contributed shown
      exact .refused e contributed shown
  | ok name =>
      rw [type] at contributed shown
      exact .refused _ contributed shown

section

variable {integrity : Integrity}

theorem contributes_map {entries : List (Value × Value)}
    (there : st.get r = .bare (.map entries) integrity) :
    st.Contributes interp key (.object r) := by
  have kind := inherits_of_bare there
  have lacks := lacksJson_bare there rfl rfl rfl
  have here : st.contribution (Serializer.strict interp) interp key (.object r)
      = Serializer.mapMembers interp st [] entries >>= fun members =>
        .ok (st, .members none (members.texts.map fun e => (e.1, .data e.2))) := by
    rw [contribution_of_lacks lacks]
    simp only [Serializer.strict, Serializer.collection, kind, there]
    rfl
  have shown : st.view interp (.object r)
      = Serializer.mapMembers interp st [] entries >>= fun members =>
        .ok (.members none members.texts) := by
    simp only [view, there]
    rfl
  cases made : Serializer.mapMembers interp st [] entries with
  | error e =>
      rw [made] at here shown
      exact .refused e here shown
  | ok members =>
      rw [made] at here shown
      refine .offered _ here ?_ ?_
      · rintro owner fields same e mem
        cases same
        rcases List.mem_map.mp mem with ⟨d, -, rfl⟩
        exact ⟨d.2, rfl⟩
      · have values : (members.texts.map fun e => (e.1, Slot.data e.2)).filterMap
            (fun e => e.2.value?.map fun v => (e.1, v)) = members.texts := by
          rw [List.filterMap_map]
          exact List.filterMap_some
        rw [Content.facet, values]
        exact shown

/-- A date is asked for a number, which is its count of milliseconds. -/
theorem simple_date {instant : Option Instant}
    (there : st.get r = .bare (.date instant) integrity) :
    st.simple interp .number (.object r) = .ok (milliseconds instant) := by
  have found : st.find? r (.text "valueOf")
      = some (.native (.method .value .date) (.family .date)) := by
    rw [find?_bare there rfl rfl]
    rfl
  have value : ∀ (inner : Conversions) (joining : List Ref),
      st.simpleBy interp inner joining r "valueOf" = .ok (some (milliseconds instant)) := by
    intro inner joining
    rw [simpleBy, method?, found]
    simp only [bind, Except.bind, nativeValue, there, Object.body_bare, pure, Except.pure]
    cases instant <;> rfl
  rw [simple, textDepth, simpleWithin]
  simp only [there, Object.body_bare, Wanted.methods, firstSimple, value, bind, Except.bind, pure,
    Except.pure]

theorem contributes_date {instant : Option Instant}
    (there : st.get r = .bare (.date instant) integrity) :
    st.Contributes interp key (.object r) := by
  have found : st.find? r (.text "toJSON")
      = some (.native (.method .json .date) (.family .date)) := by
    rw [find?_bare there rfl rfl]
    rfl
  have iso : st.find? r (.text "toISOString")
      = some (.native (.method .iso .date) (.family .date)) := by
    rw [find?_bare there rfl rfl]
    rfl
  have number : st.simple interp .number (.object r) = _ := simple_date there
  cases instant with
  | none =>
      refine .offered (.leaf .null) ?_ nofun ?_
      · simp only [contribution, prepare, method?, found, bind, Except.bind, nativeForm, dateForm,
          number, milliseconds, pure, Except.pure]
        rfl
      · simp only [view, there, Object.body_bare]
        rfl
  | some t =>
      refine .offered (.leaf (.text t.text)) ?_ nofun ?_
      · have finite : ∃ negative significand exponent,
            Number.ofInt t = .finite negative significand exponent := by
          rw [Number.ofInt, Number.dyadic]
          split
          · exact ⟨_, _, _, rfl⟩
          · exact ⟨_, _, _, rfl⟩
        rcases finite with ⟨negative, significand, exponent, same⟩
        simp only [contribution, prepare, method?, found, iso, bind, Except.bind, nativeForm,
          dateForm, number, milliseconds, same, nativeValue, there, Object.body_bare, pure,
          Except.pure]
        rfl
      · simp only [view, there, Object.body_bare]
        rfl

theorem contributes_boxed {v : Value}
    (simple : v.wrapper = .string ∨ v.wrapper = .number ∨ v.wrapper = .boolean)
    (there : st.get r = .bare (.boxed v) integrity) :
    st.Contributes interp key (.object r) := by
  have kind := inherits_of_bare there
  have lacks : st.LacksJson r := by
    cases v with
    | text s => exact lacksJson_bare there rfl rfl rfl
    | number n => exact lacksJson_bare there rfl rfl rfl
    | boolean b => exact lacksJson_bare there rfl rfl rfl
    | _ => rcases simple with h | h | h <;> cases h
  have here : st.contribution (Serializer.strict interp) interp key (.object r)
      = Store.lenient interp st v := by
    rw [contribution_of_lacks lacks]
    have value : st.invoke interp "item" r "valueOf" = .ok (.existing v) :=
      invoke_valueOf simple (genuine_of_bare there)
    simp only [Serializer.strict, Serializer.isWrapper, Serializer.wrapped, value, kind, there]
    cases v with
    | text s => rfl
    | number n => rfl
    | boolean b => rfl
    | _ => rcases simple with h | h | h <;> cases h
  have shown : st.view interp (.object r) = Facet.ofSimple v := by
    simp only [view, there, Object.body_bare]
  cases v with
  | text s => exact .offered _ here nofun shown
  | number n => exact .offered _ here nofun shown
  | boolean b => exact .offered _ here nofun shown
  | _ => rcases simple with h | h | h <;> cases h

theorem contributes_octets {c : OctetClass} {w : Window UInt8}
    (there : st.get r = .bare (.octets c w) integrity) :
    st.Contributes interp key (.object r) := by
  have kind := inherits_of_bare there
  cases c with
  | buffer =>
      have found : st.find? r (.text "toJSON")
          = some (.native (.method .json (.octets .buffer)) (.family (.octets .buffer))) := by
        rw [find?_bare there rfl rfl]
        rfl
      have here : st.contribution (Serializer.strict interp) interp key (.object r)
          = .ok (st, .leaf (bufferDocument w)) := by
        simp only [contribution, prepare, method?, found, bind, Except.bind, nativeForm, there,
          Object.body_bare, pure, Except.pure]
        rfl
      refine .offered _ here (fun _ _ same => by cases same) ?_
      simp only [view, there, Object.body_bare, Content.facet]
  | _ =>
      refine contributes_refused (lacksJson_bare there rfl rfl rfl) ?_ ?_
      · simp only [Serializer.strict, Serializer.isWrapper, kind, there]
        rfl
      · simp only [view, there]
        rfl

end

/-- What a regular object contributes is what it shows. -/
theorem contribution_eq (regular : st.Regular r) : st.Contributes interp key (.object r) := by
  cases regular with
  | record body plain data lacks =>
      refine .offered (.members (some r) (st.get r).enumerable) ?_ ?_ ?_
      · rw [contribution_of_lacks lacks]
        simp only [Serializer.strict, body, plain, if_true, objectContent, membersOf, expose]
      · rintro owner fields same
        cases same
        exact data_enumerable body data
      · simp only [view, body, plain, if_true]
        rfl
  | derived foreign other ordinary lacks =>
      -- No document is made from the body, and what the object inherits from tells it from
      -- a plain record and from a wrapper.
      refine contributes_refused lacks ?_ (view_foreign foreign other)
      cases body : (st.get r).body with
      | record | error | template _ | cells _ _ | arrayBuffer _ =>
          simp only [Serializer.strict, Serializer.isWrapper, body, other, ordinary.inherits,
            List.mem_cons, true_or, or_true, Bool.false_eq_true, if_false, Bool.or_self]
      | _ =>
          rw [body] at foreign
          cases foreign
  | array elements there =>
      refine .offered (.items (some r) (elements.map fun element => element.getD .undefined))
        ?_ (fun _ _ same => by cases same) ?_
      · rw [contribution_of_lacks (lacksJson_bare there rfl rfl rfl)]
        have each : st.elements interp r = _ := elements_array there
        simp only [Serializer.strict, objectContent, there, Object.body_bare, each]
        rfl
      · simp only [view, there, Object.body_bare]
        rfl
  | map entries there => exact contributes_map there
  | set elements there =>
      refine .offered (.items none elements) ?_ (fun _ _ same => by cases same) ?_
      · have kind := inherits_of_bare there
        rw [contribution_of_lacks (lacksJson_bare there rfl rfl rfl)]
        simp only [Serializer.strict, Serializer.collection, kind, there]
        rfl
      · simp only [view, there, Object.body_bare]
        rfl
  | date instant there => exact contributes_date there
  | pattern p lastIndex there =>
      have kind := inherits_of_bare there
      refine contributes_refused (lacksJson_bare there rfl rfl rfl) ?_ ?_
      · simp only [Serializer.strict, Serializer.isWrapper, kind, there]
        rfl
      · simp only [view, there]
        rfl
  | url href there =>
      have found : st.find? r (.text "toJSON")
          = some (.native (.method .json .url) (.family .url)) := by
        rw [find?_bare there rfl rfl]
        rfl
      refine .offered (.leaf (.text href)) ?_ (fun _ _ same => by cases same) ?_
      · simp only [contribution, prepare, method?, found, bind, Except.bind, nativeForm, there,
          Object.body_bare]
        rfl
      · simp only [view, there, Object.body_bare]
        rfl
  | boxed v simple there => exact contributes_boxed simple there
  | octets c w there => exact contributes_octets there
  | function callable lacks =>
      rcases Object.isFunction_iff.mp callable with ⟨p, body⟩
      refine contributes_refused lacks ?_ ?_
      · simp only [Serializer.strict, body]
      · simp only [view, body]

/-! ### Documents -/

variable {S : Set Ref} {v : Value}

theorem mem_values_set {key : Key} {x w : Value} {known : Keyed Value}
    (mem : x ∈ (known.set key w).map Prod.snd) : x = w ∨ x ∈ known.map Prod.snd := by
  have inserted : ∀ known : Keyed Value, x ∈ (known.insert key w).map Prod.snd →
      x = w ∨ x ∈ known.map Prod.snd := by
    intro known
    induction known with
    | nil => exact fun mem => .inl (List.mem_singleton.mp mem)
    | cons d known ih =>
        intro mem
        rw [Keyed.insert] at mem
        split at mem
        · exact List.mem_cons.mp mem
        · rcases List.mem_cons.mp mem with rfl | mem
          · exact .inr List.mem_cons_self
          · exact (ih mem).imp id (List.mem_cons_of_mem _)
  -- A known key has its value replaced, and an unknown one is put in.
  rw [Keyed.set] at mem
  split at mem
  · rw [Keyed.replace, List.map_map] at mem
    rcases List.mem_map.mp mem with ⟨d, hd, same⟩
    by_cases here : d.1 = key
    · simp only [Function.comp_apply, here, if_true] at same
      exact .inl same.symm
    · simp only [Function.comp_apply, here, if_false] at same
      exact .inr (List.mem_map.mpr ⟨d, hd, same⟩)
  · exact inserted known mem

/-- A map has no members but its values. -/
theorem mem_mapMembers {entries : List (Value × Value)} {known members : Keyed Value}
    (made : Serializer.mapMembers interp st known entries = .ok members) {x : Value}
    (mem : x ∈ members.map Prod.snd) :
    x ∈ known.map Prod.snd ∨ x ∈ entries.map Prod.snd := by
  induction entries generalizing known with
  | nil =>
      cases made
      exact .inl mem
  | cons d entries ih =>
      rcases ok_of_bind made with ⟨name, -, rest⟩
      rcases ih rest with here | later
      · rcases mem_values_set here with rfl | old
        · exact .inr List.mem_cons_self
        · exact .inl old
      · exact .inr (List.mem_cons_of_mem _ later)

theorem mem_of_mem_texts {α : Type} {members : Keyed α} {a : α}
    (mem : a ∈ members.texts.map Prod.snd) : a ∈ members.map Prod.snd := by
  rcases List.mem_map.mp mem with ⟨⟨s, b⟩, listed, rfl⟩
  rcases List.mem_filterMap.mp listed with ⟨⟨key, c⟩, there, named⟩
  cases key with
  | text t =>
      cases named
      exact List.mem_map_of_mem there
  | symbol label => cases named

/-- The parts that an object shows are values that it is written with, and belong
    to it or to nothing. -/
theorem parts_of_view {owner : Option Ref} {values : List Value}
    {join : List (Option Json) → Json}
    (shown : st.view interp (.object r) = .ok (.parts owner values join)) :
    (∀ q ∈ owner, q = r) ∧ ∀ w ∈ values, w ∈ (st.get r).children := by
  have noParts : ∀ w : Value, Facet.ofSimple w ≠ .ok (.parts owner values join) := by
    intro w
    cases w <;> exact nofun
  have refused : ∀ {x : Except Thrown String},
      (do throw (Serializer.notJson (← x)) : Except Thrown Facet)
        ≠ .ok (.parts owner values join) := by
    intro x
    cases x <;> exact nofun
  have itself : ∀ q ∈ some r, q = r := fun q hq => (Option.some.inj hq).symm
  -- Only records, arrays, maps and sets show parts. All others show a leaf or are refused.
  simp only [view] at shown
  rw [Object.children]
  cases body : (st.get r).body with
  | record =>
      simp only [body] at shown ⊢
      split at shown
      · cases shown
        exact ⟨itself, fun w mem => mem⟩
      · exact absurd shown refused
  | array elements =>
      simp only [body] at shown ⊢
      cases shown
      exact ⟨itself, fun w mem => mem⟩
  | map entries =>
      simp only [body] at shown ⊢
      rcases ok_of_bind shown with ⟨members, made, same⟩
      cases same
      refine ⟨nofun, fun w mem => ?_⟩
      rcases mem_mapMembers made (mem_of_mem_texts mem) with none | here
      · cases none
      · exact here
  | set elements =>
      simp only [body] at shown ⊢
      cases shown
      exact ⟨nofun, fun w mem => mem⟩
  | date instant =>
      simp only [body] at shown
      cases instant <;> cases shown
  | boxed w =>
      simp only [body] at shown
      exact absurd shown (noParts w)
  | octets c w =>
      simp only [body] at shown
      cases c with
      | buffer => cases shown
      | _ => exact absurd shown refused
  | url href =>
      simp only [body] at shown
      cases shown
  | _ =>
      simp only [body] at shown
      exact absurd shown refused

theorem mem_children (shows : (st.view interp).Shows (.object r) v) :
    v ∈ (st.get r).children := by
  rcases shows with ⟨owner, values, join, shown, mem⟩
  exact (parts_of_view shown).2 v mem

theorem not_shows_simple (simple : v.refs = []) {w : Value} : ¬ (st.view interp).Shows v w := by
  rintro ⟨owner, values, join, shown, -⟩
  cases v with
  | object r => cases simple
  | _ => cases shown

namespace RegularOn

theorem closed_view (on : st.RegularOn S) (covered : View.Over S v) {w : Value}
    (shows : (st.view interp).Shows v w) : View.Over S w := by
  cases v with
  | object r => exact on.closed r (covered r List.mem_cons_self) w (mem_children shows)
  | _ => exact absurd shows (not_shows_simple rfl)

/-- What a value contributes is what it shows. -/
theorem contributes (on : st.RegularOn S) (covered : View.Over S v) :
    st.Contributes interp key v := by
  cases v with
  | object r => exact contribution_eq (on.regular r (covered r List.mem_cons_self))
  | undefined => exact .offered _ rfl nofun rfl
  | null => exact .offered _ rfl nofun rfl
  | boolean b => exact .offered _ rfl nofun rfl
  | number n => exact .offered _ rfl nofun rfl
  | bigint n => exact .offered _ rfl nofun rfl
  | text s => exact .offered _ rfl nofun rfl
  | symbol label => exact .refused _ rfl rfl

end RegularOn

theorem encode_succ (policy : Policy) (allowance : Nat) (path : List Ref) :
    encode policy interp (allowance + 1) st path key v
      = st.contribution policy interp key v >>= fun e =>
        e.2.encode policy interp allowance path e.1 := by
  rw [encode, contribution]
  cases st.prepare interp key v with
  | error e => rfl
  | ok prepared =>
      cases prepared with
      | document j => rfl
      | value st v =>
          change policy st v >>= _ = policy st v >>= _
          cases policy st v with
          | error e => rfl
          | ok e =>
              rcases e with ⟨st, content⟩
              cases content <;> rfl

theorem encodeItems_eq {encode : String → Value → Except Thrown (Option Json)}
    {write : Value → Except Thrown (Option Json)} {values : List Value}
    (same : ∀ w ∈ values, ∀ key, encode key w = write w) (i : Nat) :
    encodeItems encode i values
      = (values.mapM write).map fun documents => documents.map fun d => d.getD .null := by
  induction values generalizing i with
  | nil => rfl
  | cons w values ih =>
      rw [encodeItems, List.mapM_cons, same w List.mem_cons_self,
        ih fun x hx => same x (List.mem_cons_of_mem w hx)]
      cases write w with
      | error e => rfl
      | ok d =>
          cases values.mapM write with
          | error e => rfl
          | ok documents => rfl

theorem encodeMembers_eq {encode : String → Slot → Except Thrown (Option Json)}
    {write : Value → Except Thrown (Option Json)} {fields : List (String × Value)}
    (same : ∀ e ∈ fields, encode e.1 (.data e.2) = write e.2) :
    encodeMembers encode (fields.map fun e => (e.1, .data e.2))
      = ((fields.map Prod.snd).mapM write).map fun documents =>
        ((fields.map Prod.fst).zip documents).filterMap fun e => e.2.map fun j => (e.1, j) := by
  induction fields with
  | nil => rfl
  | cons e fields ih =>
      rcases e with ⟨name, w⟩
      have here : encode name (.data w) = write w := same (name, w) List.mem_cons_self
      rw [List.map_cons, List.map_cons, List.map_cons, encodeMembers, List.mapM_cons, here,
        ih fun d hd => same d (List.mem_cons_of_mem _ hd)]
      cases write w with
      | error e => rfl
      | ok d =>
          cases (fields.map Prod.snd).mapM write with
          | error e => rfl
          | ok documents =>
              cases d with
              | none => rfl
              | some j => rfl

/-- Slots that hold values are what their values are. -/
theorem map_data_of_data {fields : List (String × Slot)} (data : ∀ e ∈ fields, ∃ v, e.2 = .data v) :
    (fields.filterMap fun e => e.2.value?.map fun v => (e.1, v)).map
      (fun e => (e.1, Slot.data e.2)) = fields := by
  induction fields with
  | nil => rfl
  | cons e fields ih =>
      rcases e with ⟨name, slot⟩
      rcases data _ List.mem_cons_self with ⟨v, rfl⟩
      have rest := ih fun d hd => data d (List.mem_cons_of_mem _ hd)
      exact congrArg ((name, Slot.data v) :: ·) rest

/-- The document of a value is put together from what is shown. -/
theorem encode_eq (on : st.RegularOn S) (n : Nat) (path : List Ref) (key : String)
    (covered : View.Over S v) :
    encode (Serializer.strict interp) interp n st path key v
      = (st.view interp).assemble n path v := by
  -- Both take one level after the other, so what is inside is written alike by induction.
  induction n generalizing path key v with
  | zero => rfl
  | succ n ih =>
      rw [encode_succ]
      have contributes : st.Contributes interp key v := on.contributes covered
      cases contributes with
      | refused e here shown => rw [here, View.assemble_refused shown]; rfl
      | offered content here data shown =>
          rw [here]
          change content.encode _ _ _ _ _ = _
          cases content with
          | nothing => rw [View.assemble_done shown]; rfl
          | leaf j => rw [View.assemble_done shown]; rfl
          | items owner values =>
              have parts : ∀ w ∈ values, View.Over S w :=
                fun w mem => on.closed_view covered ⟨_, _, _, shown, mem⟩
              cases entered : enter path owner with
              | error e =>
                  rw [View.assemble_circular shown entered, Content.encode, entered]
                  rfl
              | ok inner =>
                  have each : ∀ w ∈ values, ∀ key,
                      encode (Serializer.strict interp) interp n st inner key w
                        = (st.view interp).assemble n inner w :=
                    fun w mem key => ih inner key (parts w mem)
                  rw [View.assemble_parts shown entered, Content.encode, entered]
                  change encodeItems _ 0 values >>= _ = _
                  rw [encodeItems_eq each]
                  cases values.mapM ((st.view interp).assemble n inner) <;> rfl
          | members owner fields =>
              have holds := data owner fields rfl
              generalize named : (fields.filterMap fun e => e.2.value?.map fun v => (e.1, v))
                = entries
              have slots : entries.map (fun e => (e.1, Slot.data e.2)) = fields :=
                named ▸ map_data_of_data holds
              have shown : st.view interp v = .ok (.members owner entries) := named ▸ shown
              have parts : ∀ e ∈ entries, View.Over S e.2 := fun e mem =>
                on.closed_view covered ⟨_, _, _, shown, List.mem_map_of_mem mem⟩
              cases entered : enter path owner with
              | error e =>
                  rw [View.assemble_circular shown entered]
                  simp only [Content.encode, entered]
                  rfl
              | ok inner =>
                  rw [View.assemble_parts shown entered]
                  simp only [Content.encode, entered, ← slots]
                  change encodeMembers _ (entries.map _) >>= _ = _
                  rw [encodeMembers_eq fun e mem => ih inner e.1 (parts e mem)]
                  cases (entries.map Prod.snd).mapM ((st.view interp).assemble n inner) <;> rfl

/-- What is shown on the way from a value is grounded in the objects. -/
theorem RegularOn.grounded (on : st.RegularOn S) (inside : ∀ r ∈ S, r.index < st.objects.size) :
    (st.view interp).Grounded {v | View.Over S v} st.objects.size where
  object := by
    intro v covered owner values join shown
    cases v with
    | object r =>
        exact ⟨r, rfl, inside r (covered r List.mem_cons_self), (parts_of_view shown).1⟩
    | _ => cases shown
  closed v covered w shows := on.closed_view covered shows

end Store

end Stencil
