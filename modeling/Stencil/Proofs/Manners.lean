import Stencil.Proofs.ByteTexts

/-!
# How Values Become Text

What the text of a value is made of, by its kind, where nothing is called for it.

There are three manners. Structured values are written as JSON. Others have a text
of their own, or for an invalid date an error of their own, that depends on nothing
but what they are made of. And what is left is refused, for the type that it is
of. `Value.manner` says which values are treated in which manner, and
`Store.serialize_manner` that the serializer does so for all values that are calm.

## Main definitions

* `Store.Descends`: Objects that derive from nothing but objects.
* `Store.Calm`: Objects for which nothing is called when they are written.
* `Value.manner`: How a value becomes text.

## Theorems

* `Store.serialize_manner`: The text of a value.
-/

namespace Stencil

/-- How a value becomes text. -/
inductive Manner where
  /-- It is written as JSON. -/
  | structured
  /-- It is refused for its type. -/
  | refused
  /-- It has a text of its own, or an error. -/
  | own (outcome : Except Thrown Answer)

/-- The families whose objects have texts of their own or are written by their
    contents. -/
def Family.written : List Family :=
  [date, string, number, boolean, url, octets .uint8Array, map, set]

/-- How a value becomes text, for the kinds of values for which nothing is called. -/
def Value.manner (st : Store) : Value → Manner
  | .object r =>
    match (st.get r).body with
    | .record => if (st.get r).isPlain then .structured else .refused
    | .array _ | .map _ | .set _ => .structured
    | .date instant => .own (instant.elim (.error (.fault .rangeError "Invalid time value"))
        fun t => .ok (.existing (.text t.text)))
    | .url href => .own (.ok (.existing (.text ((Link.ofHref href).part .href))))
    | .boxed v => .own (.ok (.existing (.text (Store.shownSimple v))))
    | .octets c w =>
      if (Family.octets c).isA (.octets .uint8Array) then
        .own (.ok (.existing (.text (Serializer.octetText w.visible))))
      else .refused
    | _ => .refused
  | .null => .structured
  | .undefined | .symbol _ => .refused
  | v => .own (.ok (.existing (.text (Store.shownSimple v))))

/-- What a value has of its own is a text or a new error. -/
theorem Value.manner_own {st : Store} {v : Value} {outcome : Except Thrown Answer}
    (manner : v.manner st = .own outcome) :
    (∃ s, outcome = .ok (.existing (.text s))) ∨ ∃ e, outcome = .error e ∧ e.IsFault := by
  cases v with
  | object r =>
      -- A date without an instant is the only one that raises an error by itself.
      rw [Value.manner] at manner
      split at manner
      · split at manner <;> cases manner
      · cases manner
      · cases manner
      · cases manner
      · next instant _ =>
          cases instant with
          | some t =>
              cases manner
              exact .inl ⟨_, rfl⟩
          | none =>
              cases manner
              exact .inr ⟨_, rfl, _, _, rfl⟩
      · cases manner
        exact .inl ⟨_, rfl⟩
      · cases manner
        exact .inl ⟨_, rfl⟩
      · split at manner
        · cases manner
          exact .inl ⟨_, rfl⟩
        · cases manner
      · cases manner
  | null => cases manner
  | undefined => cases manner
  | symbol label => cases manner
  | _ =>
      cases manner
      exact .inl ⟨_, rfl⟩

theorem Object.isFunction_of_foreign {o : Object} (foreign : o.body.isForeign = true) :
    o.isFunction = false := by
  rw [isFunction]
  split
  · next p body =>
      rw [body] at foreign
      cases foreign
  · rfl

namespace Store

/-- The prototypes of an object are objects, and lead to the root of all or to
    nothing. -/
inductive Descends (st : Store) : Ref → Prop
  | none {r : Ref} (next : (st.get r).prototype = .none) : Descends st r
  | root {r : Ref} (next : (st.get r).prototype = .family .object) : Descends st r
  | object {r q : Ref} (next : (st.get r).prototype = .object q)
      (inside : q.index < st.objects.size) (rest : Descends st q) : Descends st r

/-- Objects for which nothing is called when they are written: those of the kinds that
    values are made of. One that is derived from the arrays of bytes is one. -/
structure Calm (st : Store) (r : Ref) : Prop where
  regular : st.Regular r
  noBytes : (st.get r).body.isForeign = true → st.inherits r (.octets .uint8Array) = false

variable {interp : Interpretation} {st st' : Store} {r : Ref} {v : Value}

/-! ### Prototypes -/

namespace Descends

theorem ordinary (descends : st.Descends r) : st.Ordinary r := by
  induction descends with
  | none next => exact .none next
  | root next => exact .family next (by decide)
  | object next inside _ ih => exact .object next inside ih

theorem rootFamilyWithin (descends : st.Descends r) {n : Nat} {g : Family}
    (found : st.rootFamilyWithin n r = some g) : g = .object := by
  induction n generalizing r with
  | zero => cases found
  | succ n ih =>
      rw [Store.rootFamilyWithin] at found
      cases descends with
      | none next =>
          rw [next] at found
          cases found
      | root next =>
          rw [next] at found
          exact (Option.some.inj found).symm
      | object next inside rest =>
          rw [next] at found
          exact ih rest found

/-- It derives from no family but the root of all. -/
theorem inherits (descends : st.Descends r) {g : Family} (other : Family.object.isA g = false) :
    st.inherits r g = false := by
  rw [Store.inherits, rootFamily?]
  cases found : st.rootFamilyWithin (st.objects.size + 1) r with
  | none => rfl
  | some root =>
      rw [descends.rootFamilyWithin found]
      exact other

end Descends

/-! ### Kinds -/

section

variable {integrity : Integrity}

/-- A date has its canonical text; an invalid one has none. -/
theorem serialize_date {instant : Option Instant}
    (there : st.get r = .bare (.date instant) integrity) :
    Serializer.serialize interp st (.object r)
      = instant.elim (.error (.fault .rangeError "Invalid time value"))
        fun t => .ok (.existing (.text t.text)) := by
  have kind : st.inherits r .date = true := inherits_of_bare there .date
  have found : st.find? r (.text "toISOString")
      = some (.native (.method .iso .date) (.family .date)) := by
    rw [find?_bare there rfl rfl]
    rfl
  simp only [Serializer.serialize, Serializer.canonical?, kind, if_true, invoke, method?, found,
    bind, Except.bind, nativeValue, there, Object.body_bare]
  cases instant <;> rfl

/-- A wrapped value has the text of the value. -/
theorem serialize_boxed (simple : v.wrapper = .string ∨ v.wrapper = .number ∨ v.wrapper = .boolean)
    (there : st.get r = .bare (.boxed v) integrity) :
    Serializer.serialize interp st (.object r) = .ok (.existing (.text (shownSimple v))) := by
  have kind := inherits_of_bare there
  have value : st.invoke interp "value" r "valueOf" = .ok (.existing v) :=
    invoke_valueOf simple (genuine_of_bare there)
  have object : (st.get r).isFunction = false := by rw [there]; rfl
  simp only [Serializer.serialize, object, Serializer.canonical?, Serializer.isWrapper, kind, value]
  cases v with
  | text s => rfl
  | number n => rfl
  | boolean b => rfl
  | _ => rcases simple with h | h | h <;> cases h

/-- A link has itself as its text. -/
theorem serialize_url {href : String} (there : st.get r = .bare (.url href) integrity) :
    Serializer.serialize interp st (.object r)
      = .ok (.existing (.text ((Link.ofHref href).part .href))) := by
  have kind := inherits_of_bare there
  have object : (st.get r).isFunction = false := by rw [there]; rfl
  have found : st.find? r (.text "href") = some (.native (.part (.link .href)) (.family .url)) := by
    rw [find?_bare there rfl rfl]
    rfl
  have reads : st.read interp r (.text "href")
      = .ok (st, .text ((Link.ofHref href).part .href)) := by
    rw [read, readWithin, found]
    simp only [readPart, bodyPart, bodyPart?, there, Object.body_bare]
  simp only [Serializer.serialize, object, Serializer.canonical?, Serializer.isWrapper, kind, reads]
  rfl

/-- Octets have the text that they say, or that of their base64. -/
theorem serialize_octets {c : OctetClass} {w : Window UInt8}
    (array : (Family.octets c).isA (.octets .uint8Array) = true)
    (there : st.get r = .bare (.octets c w) integrity) :
    Serializer.serialize interp st (.object r)
      = .ok (.existing (.text (Serializer.octetText w.visible))) := by
  refine serialize_view ⟨⟨c, ?_, by rw [there, Object.body_bare]⟩,
    (inherits_of_bare there _).trans array, fun name mem => ?_⟩
  · rintro rfl
    cases array
  · simp only [List.mem_cons, List.not_mem_nil, or_false] at mem
    have found : ∃ n holder, (Family.octets c).find? (.text name) = some (.native n holder) := by
      rcases Family.eq_of_isA_uint8Array array with same | same <;> rw [same] <;>
        rcases mem with rfl | rfl | rfl <;> exact ⟨_, _, rfl⟩
    rcases mem with rfl | rfl | rfl <;> rw [find?_bare there rfl rfl] <;> exact found

end

/-- An object without a canonical text that is not written as JSON is refused. -/
theorem serialize_refused (object : (st.get r).isFunction = false)
    (noText : ∀ g ∈ Family.written, st.inherits r g = false)
    (noArray : ∀ elements, (st.get r).body ≠ .array elements)
    (other : (st.get r).isPlain = false) (lacks : st.LacksJson r) :
    Serializer.serialize interp st (.object r)
      = (do throw (Serializer.notSerializable (← st.typeName interp (.object r))) :
        Except Thrown Answer) := by
  have noDate := noText .date (by decide)
  have noString := noText .string (by decide)
  have noNumber := noText .number (by decide)
  have noBoolean := noText .boolean (by decide)
  have noLink := noText .url (by decide)
  have noBytes := noText (.octets .uint8Array) (by decide)
  have noMap := noText .map (by decide)
  have noSet := noText .set (by decide)
  have none : Serializer.canonical? interp st r = .ok none := by
    simp only [Serializer.canonical?, Serializer.isWrapper, noDate, noString, noNumber, noBoolean,
      noLink, Bool.false_eq_true, if_false, Bool.or_self]
  have noMethod : Serializer.hasJsonMethod interp st r = .ok false := by
    rw [Serializer.hasJsonMethod, method?_of_lacks lacks]
    rfl
  have unstructured : Serializer.isStructured interp st r = .ok false := by
    rw [Serializer.isStructured]
    split
    · next elements body => exact absurd body (noArray elements)
    · simp only [noMap, noSet, other, noMethod, Bool.false_eq_true, if_false, Bool.or_self]
  simp only [Serializer.serialize, object, none, Serializer.objectText, noBytes, unstructured,
    Bool.false_eq_true, if_false, bind, Except.bind]
  cases st.typeName interp (.object r) <;> rfl

/-! ### All kinds -/

/-- What is derived from no kind with copies of its own, nor from the arrays of bytes, has
    no text of its own and is not written by its contents. -/
theorem Ordinary.not_written (ordinary : st.Ordinary r)
    (noBytes : st.inherits r (.octets .uint8Array) = false) :
    ∀ g ∈ Family.written, st.inherits r g = false := by
  intro g mem
  by_cases bytes : g = .octets .uint8Array
  · rw [bytes]
    exact noBytes
  · refine ordinary.inherits ?_
    revert bytes
    revert g
    decide

theorem apart_pattern : ∀ g ∈ Family.written, Family.pattern.isA g = false := by decide

theorem apart_octets {c : OctetClass} (other : (Family.octets c).isA (.octets .uint8Array) ≠ true) :
    ∀ g ∈ Family.written, (Family.octets c).isA g = false := by
  revert other
  cases c <;> decide

/-- A value becomes text in its manner. -/
theorem serialize_manner (calm : ∀ r ∈ v.refs, st.Calm r) :
    Serializer.serialize interp st v
      = match v.manner st with
        | .structured => (Serializer.structured interp st v).map fun s => .existing (.text s)
        | .refused => do throw (Serializer.notSerializable (← st.typeName interp v))
        | .own outcome => outcome := by
  cases v with
  | object r =>
      -- The kinds with a text of their own come first, and what is left is refused.
      rw [Value.manner]
      rcases calm r List.mem_cons_self with ⟨regular, noBytes⟩
      cases regular with
      | record body plain _ _ =>
          rw [serialize_structure (.record body plain), body]
          simp only [plain, if_true]
      | derived foreign other ordinary lacks =>
          rw [serialize_refused (Object.isFunction_of_foreign foreign)
            (ordinary.not_written (noBytes foreign))
            (fun _ body => by rw [body] at foreign; cases foreign) other lacks]
          cases body : (st.get r).body with
          | record => simp only [other, Bool.false_eq_true, if_false]
          | error | template _ | cells _ _ | arrayBuffer _ => rfl
          | _ => simp only [body, Body.isForeign, Bool.false_eq_true] at foreign
      | array elements there =>
          rw [serialize_structure (.array there), there]
          rfl
      | map entries there =>
          rw [serialize_structure (.map there), there]
          rfl
      | set elements there =>
          rw [serialize_structure (.set there), there]
          rfl
      | date instant there =>
          rw [serialize_date there, there]
          rfl
      | pattern p l there =>
          rw [serialize_refused (by rw [there]; rfl)
            (fun g mem => (inherits_of_bare there g).trans (apart_pattern g mem))
            (by rw [there]; rintro _ ⟨⟩) (by rw [there]; rfl)
            (lacksJson_bare there rfl rfl rfl), there]
          rfl
      | url href there =>
          rw [serialize_url there, there]
          rfl
      | boxed u simple there =>
          rw [serialize_boxed simple there, there]
          rfl
      | octets c w there =>
          by_cases array : (Family.octets c).isA (.octets .uint8Array) = true
          · rw [serialize_octets array there, there]
            simp only [Object.body_bare, array, if_true]
          · have lacks : st.LacksJson r := by
              cases c with
              | buffer => exact absurd rfl array
              | _ => exact lacksJson_bare there rfl rfl rfl
            rw [serialize_refused (by rw [there]; rfl)
              (fun g mem => (inherits_of_bare there g).trans (apart_octets array g mem))
              (by rw [there]; rintro _ ⟨⟩) (by rw [there]; rfl) lacks, there]
            simp only [Object.body_bare, array, Bool.false_eq_true, if_false]
      | function callable _ =>
          rw [Serializer.serialize, if_pos callable]
          rcases Object.isFunction_iff.mp callable with ⟨p, body⟩
          rw [body]
  | null =>
      rw [Serializer.serialize]
      cases Serializer.structured interp st .null <;> rfl
  | _ => rfl

end Store

end Stencil
