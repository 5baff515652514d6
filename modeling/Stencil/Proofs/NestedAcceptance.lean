import Stencil.Proofs.Manners
import Stencil.Proofs.MapMembers

/-!
# Values Inside of Others

When a value has a text inside of other values, and when it has one by itself.

Inside of arrays and maps it does not matter which of them a value is in, nor how many
are around it. Each of them has a text exactly if the value can be written as JSON. By
itself a value is told apart by its kind before that, and so there are values that are
treated in two ways. An array of bytes has a text only by itself, unless it is a buffer,
which has a method for JSON. Where nothing is written for a value, there is a text only
inside of others. And so it is with an invalid date, and with a function that has a
method for JSON.

An array or a map around a value is taken to be a new one: it is not met in the value.
The value may be of any kind, and anything may be called for it, as long as its method
for JSON does not give a different answer under each key. What stands in for the size of
a call stack has to be large enough for the arrays and maps as well.

## Main definitions

* `Store.HasText`: There is a text.
* `Store.Wraps`, `Store.Nested`: Arrays and maps around a value.
* `Store.Usual`: Kinds of values.
* `Store.Mute`: Values that have a text inside of others at most.

## Theorems

* `Store.Nested.hasText_iff`: When there is a text inside of arrays and maps.
* `Store.Usual.hasText_iff`: When there is one without them.
* `Store.RegularOn.ignoresKey`, `Store.RegularOn.isApart`, `Store.RegularOn.leavesRoom`:
  What is asked of a value holds of data.
* `Store.nested_acceptance`: How the two differ.
-/

namespace Stencil

/-- The families whose objects have a text of their own. -/
def Family.spoken : List Family :=
  [date, string, number, boolean, url, octets .uint8Array]

namespace Store

variable {interp : Interpretation} {st : Store} {v w u : Value} {r q : Ref} {k l n : Nat}
  {d : Option Json}

/-- There is a text for a value. -/
def HasText (interp : Interpretation) (st : Store) (v : Value) : Prop :=
  ∃ t, Serializer.serialize interp st v = .ok (.existing (.text t))

/-- The document of a value is written. -/
def Written (interp : Interpretation) (st : Store) (v : Value) : Prop :=
  ∃ d, Site.write interp st.depth [] ⟨st, "", v⟩ = .ok d

/-- An array with one element, or a map with one entry under a text. -/
inductive Wraps (st : Store) (v : Value) (r : Ref) : Prop
  | array {integrity : Integrity} (there : st.get r = .bare (.array [some v]) integrity)
  | map (name : String) {integrity : Integrity}
      (there : st.get r = .bare (.map [(.text name, v)]) integrity)

/-- An object is not met in what is written for a value. -/
def IsApart (interp : Interpretation) (st : Store) (v : Value) (r : Ref) : Prop :=
  ∀ s, Relation.ReflTransGen (Site.Inside interp) ⟨st, "", v⟩ s → ¬ s.Meets interp r

/-- A value with a number of new arrays and maps around it. -/
inductive Nested (interp : Interpretation) (st : Store) (v : Value) : Nat → Value → Prop
  | bare : Nested interp st v 0 v
  | wrap {k : Nat} {w : Value} {r : Ref} (inner : Nested interp st v k w) (wraps : st.Wraps w r)
      (apart : st.IsApart interp w r) : Nested interp st v (k + 1) (.object r)

/-- What stands in for a value does not depend on the key. -/
def IgnoresKey (interp : Interpretation) (st : Store) (v : Value) : Prop :=
  ∀ key, st.prepare interp key v = st.prepare interp "" v

/-- What is written for a value leaves some of the allowance. -/
def LeavesRoom (interp : Interpretation) (st : Store) (k : Nat) (v : Value) : Prop :=
  st.Written interp v →
    ∃ n, n + k ≤ st.depth ∧ ∃ d, Site.write interp n [] ⟨st, "", v⟩ = .ok d

/-! ### Arrays and maps around a value -/

/-- An array or a map has no method for JSON. -/
theorem Wraps.ignoresKey (wraps : st.Wraps v r) : st.IgnoresKey interp (.object r) := by
  have lacks : st.LacksJson r := by
    cases wraps with
    | array there => exact lacksJson_bare there rfl rfl rfl
    | map name there => exact lacksJson_bare there rfl rfl rfl
  intro key
  rw [prepare_of_lacks lacks, prepare_of_lacks lacks]

theorem Wraps.isStructure (wraps : st.Wraps v r) : st.IsStructure r := by
  cases wraps with
  | array there => exact .array there
  | map name there => exact .map there

theorem write_ignoresKey (ignores : st.IgnoresKey interp v) (n : Nat) (path : List Ref)
    (key : String) :
    Site.write interp n path ⟨st, key, v⟩ = Site.write interp n path ⟨st, "", v⟩ := by
  cases n with
  | zero => rfl
  | succ n =>
      have same : Site.contribution interp ⟨st, key, v⟩ = Site.contribution interp ⟨st, "", v⟩ := by
        rw [Site.contribution, Site.contribution, contribution, contribution, ignores key]
      rw [Site.write_succ, Site.write_succ, same]

/-- An array or a map is written as a document around that of the value. -/
theorem Wraps.write_eq (wraps : st.Wraps v r) (interp : Interpretation) :
    ∃ (path : List Ref) (name : String) (around : Option Json → Json), (∀ q ∈ path, q = r)
      ∧ ∀ n, Site.write interp (n + 1) [] ⟨st, "", .object r⟩
        = (Site.write interp n path ⟨st, name, v⟩).map fun d => some (around d) := by
  cases wraps with
  | array there =>
      refine ⟨[r], indexName 0, fun d => .array [d.getD .null], fun q => List.mem_singleton.mp,
        fun n => ?_⟩
      have offers : Site.contribution interp ⟨st, "", .object r⟩
          = .ok (st, .items (some r) [v]) := by
        have each : st.elements interp r = _ := elements_array there
        rw [Site.contribution, contribution_of_lacks (lacksJson_bare there rfl rfl rfl)]
        simp only [Serializer.strict, objectContent, there, Object.body_bare, each]
        rfl
      rw [Site.write_succ, offers]
      change (encodeItems _ 0 [v] >>= _) = _
      rw [encodeItems]
      change ((Site.write interp n [r] ⟨st, indexName 0, v⟩ >>= _) >>= _) = _
      cases Site.write interp n [r] ⟨st, indexName 0, v⟩ <;> rfl
  | map name there =>
      refine ⟨[], name, fun d => .object (d.elim [] fun j => [(name, j)]),
        fun q none => absurd none List.not_mem_nil, fun n => ?_⟩
      have latest : ownKeyOrder (latestEntries [(.text name, v)]) = [(name, v)] :=
        List.perm_singleton.mp (Keyed.ownKeyOrder_perm [(name, v)])
      have offers : Site.contribution interp ⟨st, "", .object r⟩
          = .ok (st, .members none [(name, .data v)]) := by
        have named : ∀ e ∈ [(Value.text name, v)], e.1.name? ≠ none := by
          intro e mem unnamed
          rw [List.mem_singleton.mp mem] at unnamed
          cases unnamed
        rw [contribution_map there named, latest]
        rfl
      rw [Site.write_succ, offers]
      change Content.encode _ _ n [] st (.members none [(name, .data v)]) = _
      rw [Site.encode_members]
      change ((Site.write interp n [] ⟨st, name, v⟩ >>= _) >>= _) = _
      cases Site.write interp n [] ⟨st, name, v⟩ with
      | error e => rfl
      | ok d => cases d <;> rfl

/-- One more array or map takes one more level. -/
theorem Wraps.exists_write_iff (wraps : st.Wraps v r) (apart : st.IsApart interp v r)
    (ignores : st.IgnoresKey interp v) (n : Nat) :
    (∃ d, Site.write interp (n + 1) [] ⟨st, "", .object r⟩ = .ok d)
      ↔ ∃ d, Site.write interp n [] ⟨st, "", v⟩ = .ok d := by
  rcases wraps.write_eq interp with ⟨path, name, around, among, same⟩
  rw [same, write_ignoresKey ignores]
  constructor
  · rintro ⟨d, gives⟩
    rcases exists_ok_of_map gives with ⟨e, inner⟩
    exact ⟨e, Site.write_mono inner (Nat.le_refl n) (List.nil_subset path)⟩
  · rintro ⟨d, gives⟩
    -- An array is around the value now, and would be refused if it was met again.
    have inner : Site.write interp n path ⟨st, "", v⟩ = .ok d :=
      Site.write_later gives (Nat.le_refl n) fun q hq => .inr (among q hq ▸ apart)
    exact ⟨_, by rw [inner]; rfl⟩

namespace Nested

theorem ignoresKey (nested : st.Nested interp v k w) (ignores : st.IgnoresKey interp v) :
    st.IgnoresKey interp w := by
  cases nested with
  | bare => exact ignores
  | wrap _ wraps _ => exact wraps.ignoresKey

/-- All of them take one level each. -/
theorem exists_write_iff (nested : st.Nested interp v k w) (ignores : st.IgnoresKey interp v)
    (n : Nat) :
    (∃ d, Site.write interp (n + k) [] ⟨st, "", w⟩ = .ok d)
      ↔ ∃ d, Site.write interp n [] ⟨st, "", v⟩ = .ok d := by
  induction nested with
  | bare => rfl
  | wrap inner wraps apart ih =>
      rw [← Nat.add_assoc, wraps.exists_write_iff apart (inner.ignoresKey ignores), ih]

/-- Inside of arrays and maps the value is written exactly if it is without them. -/
theorem written_iff (nested : st.Nested interp v k w) (ignores : st.IgnoresKey interp v)
    (room : st.LeavesRoom interp k v) : st.Written interp w ↔ st.Written interp v := by
  constructor
  · rintro ⟨d, gives⟩
    by_cases enough : k ≤ st.depth
    · have whole := gives
      rw [← Nat.sub_add_cancel enough] at whole
      rcases (nested.exists_write_iff ignores _).mp ⟨d, whole⟩ with ⟨e, inner⟩
      exact ⟨e, Site.write_mono inner (Nat.sub_le _ _) (List.nil_subset [])⟩
    · -- There would be nothing left for the value.
      have more := Site.write_mono gives (Nat.le_of_not_le enough) (List.nil_subset [])
      rw [← Nat.zero_add k] at more
      rcases (nested.exists_write_iff ignores 0).mp ⟨d, more⟩ with ⟨e, inner⟩
      cases inner
  · intro written
    rcases room written with ⟨n, le, inner⟩
    rcases (nested.exists_write_iff ignores n).mpr inner with ⟨e, outer⟩
    exact ⟨e, Site.write_mono outer le (List.nil_subset [])⟩

end Nested

/-- Whatever an exception is made from, there is no answer. -/
theorem raised_ne_ok {α β : Type} (x : Except Thrown α) (f : α → Thrown) {b : β} :
    (do throw (f (← x)) : Except Thrown β) ≠ .ok b := by
  intro gives
  rcases ok_of_bind gives with ⟨a, -, raised⟩
  cases raised

/-- A structured value has a text if something is written for it. -/
theorem structured_eq_ok_iff :
    (∃ s, Serializer.structured interp st v = .ok s)
      ↔ ∃ j, Site.write interp st.depth [] ⟨st, "", v⟩ = .ok (some j) := by
  rw [Serializer.structured]
  change (∃ s, (Site.write interp st.depth [] ⟨st, "", v⟩ >>= _) = .ok s) ↔ _
  cases Site.write interp st.depth [] ⟨st, "", v⟩ with
  | error e => exact iff_of_false (by rintro ⟨_, ⟨⟩⟩) (by rintro ⟨_, ⟨⟩⟩)
  | ok d =>
      cases d with
      | some j => exact ⟨fun _ => ⟨j, rfl⟩, fun _ => ⟨_, rfl⟩⟩
      | none =>
          refine iff_of_false ?_ (by rintro ⟨_, ⟨⟩⟩)
          rintro ⟨s, gives⟩
          exact raised_ne_ok _ _ gives

theorem hasText_structure_iff (structured : st.IsStructure r) :
    st.HasText interp (.object r)
      ↔ ∃ j, Site.write interp st.depth [] ⟨st, "", .object r⟩ = .ok (some j) := by
  rw [HasText, serialize_structure structured, ← structured_eq_ok_iff]
  cases Serializer.structured interp st (.object r) with
  | error e => exact iff_of_false (by rintro ⟨_, ⟨⟩⟩) (by rintro ⟨_, ⟨⟩⟩)
  | ok s => exact ⟨fun _ => ⟨s, rfl⟩, fun _ => ⟨s, rfl⟩⟩

/-- Inside of arrays and maps there is a text exactly if the value can be written. -/
theorem Nested.hasText_iff (nested : st.Nested interp v (k + 1) w)
    (ignores : st.IgnoresKey interp v) (room : st.LeavesRoom interp (k + 1) v) :
    st.HasText interp w ↔ st.Written interp v := by
  rw [← nested.written_iff ignores room]
  cases nested with
  | @wrap _ x r inner wraps apart =>
      rw [hasText_structure_iff wraps.isStructure, Written]
      rcases wraps.write_eq interp with ⟨path, name, around, -, same⟩
      rw [← Nat.sub_add_cancel (Site.depth_pos st), same]
      cases Site.write interp (st.depth - 1) path ⟨st, name, x⟩ with
      | error e => exact iff_of_false (by rintro ⟨_, ⟨⟩⟩) (by rintro ⟨_, ⟨⟩⟩)
      | ok d => exact ⟨fun _ => ⟨_, rfl⟩, fun _ => ⟨_, rfl⟩⟩

/-! ### By itself -/

/-- Values that have no objects in them, objects as they are made that have texts of their
    own, and all other objects. -/
inductive Usual (st : Store) : Value → Prop
  | simple {v : Value} (simple : v.refs = []) : Usual st v
  | date {r : Ref} (instant : Option Instant) {integrity : Integrity}
      (there : st.get r = .bare (.date instant) integrity) : Usual st (.object r)
  | url {r : Ref} (href : String) {integrity : Integrity}
      (there : st.get r = .bare (.url href) integrity) : Usual st (.object r)
  | boxed {r : Ref} (v : Value)
      (simple : v.wrapper = .string ∨ v.wrapper = .number ∨ v.wrapper = .boolean)
      {integrity : Integrity} (there : st.get r = .bare (.boxed v) integrity) : Usual st (.object r)
  | octets {r : Ref} (c : OctetClass) (w : Window UInt8)
      (array : (Family.octets c).isA (.octets .uint8Array) = true) {integrity : Integrity}
      (there : st.get r = .bare (.octets c w) integrity) : Usual st (.object r)
  | other {r : Ref} (apart : ∀ g ∈ Family.spoken, st.inherits r g = false) : Usual st (.object r)

/-- Values without a text by themselves that can have one inside of others: there is nothing
    to write for them, or they are invalid dates, or functions. -/
inductive Mute (interp : Interpretation) (st : Store) : Value → Prop
  | nothing {v : Value} {st' : Store}
      (offers : Site.contribution interp ⟨st, "", v⟩ = .ok (st', .nothing)) : Mute interp st v
  | date {r : Ref} {integrity : Integrity} (there : st.get r = .bare (.date none) integrity) :
      Mute interp st (.object r)
  | function {r : Ref} (callable : (st.get r).isFunction = true) : Mute interp st (.object r)

/-- An array of bytes that is no buffer. -/
def IsPlainBytes (st : Store) (v : Value) : Prop :=
  ∃ r w integrity, v = .object r ∧ st.get r = .bare (.octets .uint8Array w) integrity

/-- Where nothing is contributed, nothing is written, and the other way round. -/
theorem write_eq_none_iff :
    Site.write interp st.depth [] ⟨st, "", v⟩ = .ok none
      ↔ ∃ st', Site.contribution interp ⟨st, "", v⟩ = .ok (st', .nothing) := by
  rw [← Nat.sub_add_cancel (Site.depth_pos st), Site.write_succ]
  constructor
  · intro gives
    rcases ok_of_bind gives with ⟨⟨st', content⟩, offers, gives⟩
    cases content with
    | nothing => exact ⟨st', offers⟩
    | leaf j => cases gives
    | items owner values =>
        rcases ok_of_bind gives with ⟨_, -, gives⟩
        rcases ok_of_bind gives with ⟨_, -, gives⟩
        cases gives
    | members owner fields =>
        rcases ok_of_bind gives with ⟨_, -, gives⟩
        rcases ok_of_bind gives with ⟨_, -, gives⟩
        cases gives
  · rintro ⟨st', offers⟩
    rw [offers]
    rfl

/-- A value that shows a document has it written. -/
theorem written_of_done {j : Json} (contributes : st.Contributes interp "" v)
    (shown : st.view interp v = .ok (.done (some j))) :
    Site.write interp st.depth [] ⟨st, "", v⟩ = .ok (some j) := by
  rw [← Nat.sub_add_cancel (Site.depth_pos st), Site.write_succ]
  cases contributes with
  | refused e here refused =>
      rw [shown] at refused
      cases refused
  | offered content here data offered =>
      rw [shown] at offered
      change Site.contribution interp ⟨st, "", v⟩ = _ at here
      rw [here]
      cases content with
      | nothing => cases offered
      | leaf i =>
          cases offered
          rfl
      | items owner values => cases offered
      | members owner fields => cases offered

/-- What is treated the same by itself and inside of others. -/
theorem hasText_iff_of_leaf {t : String} {j : Json}
    (text : Serializer.serialize interp st v = .ok (.existing (.text t)))
    (written : Site.write interp st.depth [] ⟨st, "", v⟩ = .ok (some j))
    (fine : ¬ st.Mute interp v) :
    st.HasText interp v ↔ (st.Written interp v ∧ ¬ st.Mute interp v) ∨ st.IsPlainBytes v :=
  ⟨fun _ => .inl ⟨⟨_, written⟩, fine⟩, fun _ => ⟨t, text⟩⟩

/-- An object is not mute if it is no function and no date, and if something is written
    for it. -/
theorem not_mute {j : Json}
    (written : Site.write interp st.depth [] ⟨st, "", .object r⟩ = .ok (some j))
    (noDate : ∀ integrity, st.get r ≠ .bare (.date none) integrity)
    (object : (st.get r).isFunction = false) : ¬ st.Mute interp (.object r) := by
  intro mute
  cases mute with
  | nothing offers =>
      rw [write_eq_none_iff.mpr ⟨_, offers⟩] at written
      cases written
  | date there => exact noDate _ there
  | function callable =>
      rw [object] at callable
      cases callable

/-- A new object of a built-in kind that is no function and no invalid date is treated the
    same by itself and inside of others if it shows a document and has a text. -/
theorem hasText_iff_of_bare {b : Body} {integrity : Integrity} {t : String} {j : Json}
    (there : st.get r = .bare b integrity) (noDate : b ≠ .date none)
    (object : (Object.bare b integrity).isFunction = false)
    (contributes : st.Contributes interp "" (.object r))
    (shown : st.view interp (.object r) = .ok (.done (some j)))
    (text : Serializer.serialize interp st (.object r) = .ok (.existing (.text t))) :
    st.HasText interp (.object r)
      ↔ (st.Written interp (.object r) ∧ ¬ st.Mute interp (.object r))
        ∨ st.IsPlainBytes (.object r) := by
  have written := written_of_done contributes shown
  refine hasText_iff_of_leaf text written (not_mute written (fun integrity' there' => ?_) ?_)
  · exact noDate (congrArg Object.body (there.symm.trans there'))
  · rw [there]
    exact object

theorem hasText_iff_simple (simple : v.refs = []) :
    st.HasText interp v ↔ (st.Written interp v ∧ ¬ st.Mute interp v) ∨ st.IsPlainBytes v := by
  have noBytes : ¬ st.IsPlainBytes v := by
    rintro ⟨r, w, integrity, rfl, -⟩
    cases simple
  have noMute : (∀ st', Site.contribution interp ⟨st, "", v⟩ ≠ .ok (st', .nothing)) →
      ¬ st.Mute interp v := by
    intro something mute
    cases mute with
    | nothing offers => exact something _ offers
    | date _ => cases simple
    | function _ => cases simple
  -- A leaf is written at a depth of one, and every store is at least that deep.
  have leaf : ∀ j : Json, Site.contribution interp ⟨st, "", v⟩ = .ok (st, .leaf j) →
      Site.write interp st.depth [] ⟨st, "", v⟩ = .ok (some j) := by
    intro j offers
    rw [← Nat.sub_add_cancel (Site.depth_pos st), Site.write_succ, offers]
    rfl
  cases v with
  | object r => cases simple
  | undefined =>
      refine ⟨?_, ?_⟩
      · rintro ⟨t, gives⟩
        cases gives
      · rintro (⟨-, speaks⟩ | bytes)
        · exact absurd (.nothing rfl) speaks
        · exact absurd bytes noBytes
  | symbol label =>
      refine ⟨?_, ?_⟩
      · rintro ⟨t, gives⟩
        cases gives
      · rintro (⟨⟨d, gives⟩, -⟩ | bytes)
        · rw [← Nat.sub_add_cancel (Site.depth_pos st), Site.write_succ] at gives
          cases gives
        · exact absurd bytes noBytes
  | null =>
      have written : Site.write interp st.depth [] ⟨st, "", .null⟩ = .ok (some .null) :=
        leaf _ rfl
      rcases structured_eq_ok_iff.mpr ⟨_, written⟩ with ⟨s, gives⟩
      refine hasText_iff_of_leaf (t := s) ?_ written (noMute fun _ => by rintro ⟨⟩)
      rw [Serializer.serialize, gives]
      rfl
  | boolean b => exact hasText_iff_of_leaf rfl (leaf _ rfl) (noMute fun _ => by rintro ⟨⟩)
  | number n => exact hasText_iff_of_leaf rfl (leaf _ rfl) (noMute fun _ => by rintro ⟨⟩)
  | bigint n => exact hasText_iff_of_leaf rfl (leaf _ rfl) (noMute fun _ => by rintro ⟨⟩)
  | text s => exact hasText_iff_of_leaf rfl (leaf _ rfl) (noMute fun _ => by rintro ⟨⟩)

/-! ### Other objects -/

section

variable (apart : ∀ g ∈ Family.spoken, st.inherits r g = false)

include apart

theorem noWrapper_of_apart : Serializer.isWrapper st r = false := by
  rw [Serializer.isWrapper, apart .string (by decide), apart .number (by decide),
    apart .boolean (by decide)]
  rfl

theorem canonical?_of_apart : Serializer.canonical? interp st r = .ok none := by
  rw [Serializer.canonical?, apart .date (by decide), noWrapper_of_apart apart,
    apart .url (by decide)]
  rfl

/-- What is not written as JSON by itself is refused inside of others. -/
theorem refused_of_unstructured (unstructured : Serializer.isStructured interp st r ≠ .ok true)
    (st' : Store) (content : Content) :
    Site.contribution interp ⟨st, "", .object r⟩ ≠ .ok (st', content) := by
  intro offers
  have noArray : ∀ elements, (st.get r).body ≠ .array elements := by
    intro elements body
    exact unstructured (by rw [Serializer.isStructured, body])
  have asked : Serializer.isStructured interp st r
      = if st.inherits r .map || st.inherits r .set || (st.get r).isPlain then .ok true
        else Serializer.hasJsonMethod interp st r := by
    rw [Serializer.isStructured]
    split
    · next elements body => exact absurd body (noArray elements)
    · rfl
  rw [asked] at unstructured
  -- What is left of being structured is a method for JSON, which is looked for in both places.
  by_cases kind : (st.inherits r .map || st.inherits r .set || (st.get r).isPlain) = true
  · exact unstructured (if_pos kind)
  · rw [if_neg kind, Serializer.hasJsonMethod] at unstructured
    rw [Site.contribution, contribution, prepare] at offers
    cases found : st.method? interp r "toJSON" with
    | error e =>
        rw [found] at offers
        cases offers
    | ok e =>
        rcases e with ⟨inner, callee⟩
        rw [found] at offers unstructured
        cases callee with
        | some callee => exact unstructured rfl
        | none =>
            -- The object stands for itself, and the policy has no use for it.
            change Serializer.strict interp st (.object r) = _ at offers
            simp only [Bool.or_eq_true, not_or, Bool.not_eq_true] at kind
            simp only [Serializer.strict, kind, noWrapper_of_apart apart, Bool.or_self,
              Bool.false_eq_true, if_false] at offers
            split at offers
            · exact raised_ne_ok _ _ offers
            · next elements body => exact noArray elements body
            · exact raised_ne_ok _ _ offers

theorem hasText_iff_other : st.HasText interp (.object r)
    ↔ (st.Written interp (.object r) ∧ ¬ st.Mute interp (.object r))
      ∨ st.IsPlainBytes (.object r) := by
  have noBytes : ¬ st.IsPlainBytes (.object r) := by
    rintro ⟨q, w, integrity, same, there⟩
    cases same
    have bytes := apart (.octets .uint8Array) (by decide)
    rw [inherits_of_bare there] at bytes
    cases bytes
  rw [or_iff_left noBytes]
  by_cases callable : (st.get r).isFunction = true
  · refine ⟨?_, fun fine => absurd (.function callable) fine.2⟩
    rintro ⟨t, gives⟩
    rw [Serializer.serialize, if_pos callable] at gives
    exact absurd gives (raised_ne_ok _ _)
  · have object := Bool.eq_false_iff.mpr callable
    have text : Serializer.objectText interp st r
        = (Serializer.isStructured interp st r >>= fun b =>
        if b then Serializer.structured interp st (.object r)
        else do throw (Serializer.notSerializable (← st.typeName interp (.object r)))) := by
      rw [Serializer.objectText, apart (.octets .uint8Array) (by decide)]
      rfl
    have hasText : st.HasText interp (.object r)
        ↔ ∃ s, Serializer.objectText interp st r = .ok s := by
      rw [HasText, Serializer.serialize, if_neg callable, canonical?_of_apart apart]
      change (∃ t, (Serializer.objectText interp st r >>= _) = _) ↔ _
      cases Serializer.objectText interp st r with
      | error e => exact iff_of_false (by rintro ⟨_, ⟨⟩⟩) (by rintro ⟨_, ⟨⟩⟩)
      | ok s => exact ⟨fun _ => ⟨s, rfl⟩, fun _ => ⟨s, rfl⟩⟩
    rw [hasText, text]
    constructor
    · rintro ⟨s, gives⟩
      rcases ok_of_bind gives with ⟨b, structured, gives⟩
      cases b with
      | false =>
          exact absurd gives (raised_ne_ok _ _)
      | true =>
          rcases structured_eq_ok_iff.mp ⟨s, gives⟩ with ⟨j, written⟩
          refine ⟨⟨_, written⟩, not_mute written (fun integrity there => ?_) object⟩
          have date := apart .date (by decide)
          rw [inherits_of_bare there] at date
          cases date
    · rintro ⟨⟨d, written⟩, speaks⟩
      cases d with
      | none =>
          -- A method for JSON may give nothing, and then there is no text by itself.
          rcases write_eq_none_iff.mp written with ⟨st', offers⟩
          exact absurd (.nothing offers) speaks
      | some j =>
          have structured : Serializer.isStructured interp st r = .ok true := by
            by_contra unstructured
            rw [← Nat.sub_add_cancel (Site.depth_pos st), Site.write_succ] at written
            rcases ok_of_bind written with ⟨⟨st', content⟩, offers, -⟩
            exact refused_of_unstructured apart unstructured st' content offers
          rcases structured_eq_ok_iff.mpr ⟨j, written⟩ with ⟨s, gives⟩
          exact ⟨s, by rw [structured]; exact gives⟩

end

/-- By itself a value has a text if it has one inside of others, except for what is mute, and
    an array of bytes has one in any case. -/
theorem Usual.hasText_iff (usual : st.Usual v) :
    st.HasText interp v ↔ (st.Written interp v ∧ ¬ st.Mute interp v) ∨ st.IsPlainBytes v := by
  cases usual with
  | simple simple => exact hasText_iff_simple simple
  | other apart => exact hasText_iff_other apart
  | @date r instant integrity there =>
      cases instant with
      | some t =>
          have shown : st.view interp (.object r) = .ok (.done (some (.text t.text))) := by
            rw [view, there]
            rfl
          exact hasText_iff_of_bare there (by simp) rfl (contributes_date there) shown
            (serialize_date there)
      | none =>
          -- A date that is no instant is mute: it has a document, but no text.
          refine ⟨?_, ?_⟩
          · rintro ⟨t, gives⟩
            rw [serialize_date there] at gives
            cases gives
          · rintro (⟨-, speaks⟩ | ⟨q, w, integrity', same, there'⟩)
            · exact absurd (.date there) speaks
            · cases same
              cases congrArg Object.body (there.symm.trans there')
  | @url r href integrity there =>
      have shown : st.view interp (.object r) = .ok (.done (some (.text href))) := by
        rw [view, there]
        rfl
      exact hasText_iff_of_bare there (by simp) rfl (contribution_eq (.url href there)) shown
        (serialize_url there)
  | @boxed r v simple integrity there =>
      have shown : ∃ j, st.view interp (.object r) = .ok (.done (some j)) := by
        rw [view, there]
        cases v with
        | text s => exact ⟨_, rfl⟩
        | number n => exact ⟨_, rfl⟩
        | boolean b => exact ⟨_, rfl⟩
        | _ => rcases simple with h | h | h <;> cases h
      rcases shown with ⟨j, shown⟩
      exact hasText_iff_of_bare there (by simp) rfl (contributes_boxed simple there) shown
        (serialize_boxed simple there)
  | @octets r c w array integrity there =>
      by_cases buffer : c = .buffer
      · subst buffer
        have shown : st.view interp (.object r) = .ok (.done (some (bufferDocument w))) := by
          rw [view, there]
          rfl
        exact hasText_iff_of_bare there (by simp) rfl (contributes_octets there) shown
          (serialize_octets array there)
      · have plain : c = .uint8Array := by
          cases c with
          | uint8Array => rfl
          | buffer => exact absurd rfl buffer
          | _ => cases array
        subst plain
        exact ⟨fun _ => .inr ⟨r, w, integrity, rfl, there⟩, fun _ =>
          ⟨_, serialize_octets array there⟩⟩

/-- Inside of others an array of bytes that is no buffer is refused. -/
theorem not_written_of_plainBytes (bytes : st.IsPlainBytes v) : ¬ st.Written interp v := by
  rcases bytes with ⟨r, w, integrity, rfl, there⟩
  have contributes : st.Contributes interp "" (.object r) := contributes_octets there
  rintro ⟨d, gives⟩
  rw [← Nat.sub_add_cancel (Site.depth_pos st), Site.write_succ] at gives
  cases contributes with
  | refused e here _ =>
      change Site.contribution interp ⟨st, "", .object r⟩ = _ at here
      rw [here] at gives
      cases gives
  | offered content _ _ shown =>
      simp only [view, there, Object.body_bare] at shown
      exact raised_ne_ok _ _ shown

/-! ### Data -/

section

variable {S : Set Ref}

/-- The method for JSON that a new object of a built-in kind has is a native one, which makes
    nothing of the key. -/
theorem ignoresKey_bare {b : Body} {integrity : Integrity} (there : st.get r = .bare b integrity)
    (own : (Object.bare b integrity).bodyProperty? "toJSON" = none)
    (state : (Object.bare b integrity).ownNative? (.text "toJSON") = none) :
    st.IgnoresKey interp (.object r) := by
  intro key
  rw [prepare, prepare, method?, find?_bare there own state, Family.find?]
  cases b.family.native? "toJSON" with
  | none => rfl
  | some found =>
      rcases found with ⟨native, g⟩
      cases native with
      | method m f => cases m <;> rfl
      | _ => rfl

/-- Data is the same under each key. -/
theorem RegularOn.ignoresKey (on : st.RegularOn S) (covered : View.Over S v) :
    st.IgnoresKey interp v := by
  have lacking : ∀ {r : Ref}, st.LacksJson r → st.IgnoresKey interp (.object r) := by
    intro r lacks key
    rw [prepare_of_lacks lacks, prepare_of_lacks lacks]
  cases v with
  | object r =>
      cases on.regular r (covered r List.mem_cons_self) with
      | record _ _ _ lacks => exact lacking lacks
      | derived _ _ _ lacks => exact lacking lacks
      | array elements there => exact ignoresKey_bare there rfl rfl
      | map entries there => exact ignoresKey_bare there rfl rfl
      | set elements there => exact ignoresKey_bare there rfl rfl
      | date instant there => exact ignoresKey_bare there rfl rfl
      | pattern p lastIndex there => exact ignoresKey_bare there rfl rfl
      | url href there => exact ignoresKey_bare there rfl rfl
      | boxed u simple there =>
          cases u with
          | object q => rcases simple with h | h | h <;> cases h
          | _ => exact ignoresKey_bare there rfl rfl
      | octets c w there => exact ignoresKey_bare there rfl rfl
      | function _ lacks => exact lacking lacks
  | _ => exact fun key => rfl

/-- What is inside of data is data in the same store. -/
theorem RegularOn.over_of_inside (on : st.RegularOn S) {s t : Site} (store : s.store = st)
    (covered : View.Over S s.value) (inside : Site.Inside interp s t) :
    t.store = st ∧ View.Over S t.value := by
  rcases s with ⟨st', key, u⟩
  obtain rfl : st' = st := store
  have contributes : st'.Contributes interp key u := on.contributes covered
  cases contributes with
  | refused e here _ =>
      change Site.contribution interp ⟨st', key, u⟩ = _ at here
      cases inside with
      | item offers _ => cases here.symm.trans offers
      | member offers _ _ => cases here.symm.trans offers
  | offered content here data shown =>
      change Site.contribution interp ⟨st', key, u⟩ = _ at here
      cases inside with
      | item offers there =>
          cases here.symm.trans offers
          exact ⟨rfl, on.closed_view covered ⟨_, _, _, shown, List.mem_of_getElem? there⟩⟩
      | @member _ _ _ fields name slot x offers mem reads =>
          cases here.symm.trans offers
          obtain ⟨y, rfl⟩ : ∃ y, slot = .data y := data _ _ rfl _ mem
          have field : (name, y) ∈ fields.filterMap fun e => e.2.value?.map fun v => (e.1, v) :=
            List.mem_filterMap.mpr ⟨_, mem, rfl⟩
          have shows : (st'.view interp).Shows u y :=
            ⟨_, _, _, shown, List.mem_map_of_mem field⟩
          cases reads
          exact ⟨rfl, on.closed_view covered shows⟩

/-- What is not among the data is not met in it. -/
theorem RegularOn.isApart (on : st.RegularOn S) (covered : View.Over S v) (new : r ∉ S) :
    st.IsApart interp v r := by
  intro s way
  have here : s.store = st ∧ View.Over S s.value := by
    induction way with
    | refl => exact ⟨rfl, covered⟩
    | tail _ inside ih => exact on.over_of_inside ih.1 ih.2 inside
  rcases s with ⟨base, key, u⟩
  rcases here with ⟨same, covers⟩
  obtain rfl : base = st := same
  rintro ⟨st', content, offers, owner⟩
  have contributes : base.Contributes interp key u := on.contributes covers
  cases contributes with
  | refused e here _ => cases here.symm.trans offers
  | offered content' here _ shown =>
      cases here.symm.trans offers
      cases u with
      | object q =>
          have same : r = q := by
            cases content with
            | nothing => cases owner
            | leaf j => cases owner
            | items owner' values => exact (parts_of_view shown).1 r owner
            | members owner' fields => exact (parts_of_view shown).1 r owner
          exact new (same ▸ covers q List.mem_cons_self)
      | _ =>
          cases content with
          | nothing => cases owner
          | leaf j => cases owner
          | items owner' values => cases shown
          | members owner' fields => cases shown

/-- Data leaves room for as many arrays and maps as there are objects. -/
theorem RegularOn.leavesRoom (on : st.RegularOn S)
    (inside : ∀ r ∈ S, r.index < st.objects.size) (covered : View.Over S v)
    (few : k ≤ st.objects.size) : st.LeavesRoom interp k v := by
  rintro ⟨d, gives⟩
  have assembled : (st.view interp).assemble st.depth [] v = .ok d :=
    (encode_eq on st.depth [] "" covered).symm.trans gives
  rcases View.exists_document (on.grounded inside) covered (Nat.lt_succ_self _) fun w met =>
    View.exists_facet_of_ok assembled met with ⟨e, short⟩
  refine ⟨st.objects.size + 1, ?_, e, (encode_eq on _ [] "" covered).trans short⟩
  rw [depth, Nat.mul_add, Nat.add_mul]
  omega

end

/-! ### Both -/

/-- Whether there is a text inside of arrays and maps does not depend on how many of them
    there are and which. By itself a value has one as well unless it is mute, and an array of
    bytes that is no buffer has one only by itself. -/
theorem nested_acceptance (interp : Interpretation) (ignores : st.IgnoresKey interp v)
    (nested : st.Nested interp v (k + 1) w) (room : st.LeavesRoom interp (k + 1) v) :
    (∀ {l : Nat} {u : Value}, st.Nested interp v (l + 1) u → st.LeavesRoom interp (l + 1) v →
        (st.HasText interp w ↔ st.HasText interp u))
      ∧ (st.Usual v → (st.HasText interp v
        ↔ (st.HasText interp w ∧ ¬ st.Mute interp v) ∨ st.IsPlainBytes v))
      ∧ (st.IsPlainBytes v → ¬ st.HasText interp w) := by
  have inside := nested.hasText_iff ignores room
  rw [inside]
  exact ⟨fun other room' => (other.hasText_iff ignores room').symm, Usual.hasText_iff,
    not_written_of_plainBytes⟩

section

/-- An object with a method for JSON, and an array and a map that hold it; an array of bytes,
    an array that holds it, and a map that holds that. -/
private def crates : Store :=
  ⟨Store.initial.objects ++ #[
    { prototype := .family .function, body := .function (.constant (.text "m")) },
    { Object.ofBody .record with fields := [(.text "toJSON", { slot := .data (.object ⟨2⟩) })] },
    Object.ofBody (.array [some (.object ⟨3⟩)]),
    Object.ofBody (.map [(.text "k", .object ⟨3⟩)]),
    Object.ofBody (.octets .uint8Array (.whole [66, 67])),
    Object.ofBody (.array [some (.object ⟨6⟩)]),
    Object.ofBody (.map [(.text "k", .object ⟨7⟩)])]⟩

private theorem crates_isApart {r : Ref} : crates.IsApart .standard (.object ⟨3⟩) r := by
  intro s way meets
  have leaf : Site.contribution .standard ⟨crates, "", .object ⟨3⟩⟩
      = .ok (crates, .leaf (.text "m")) := rfl
  cases way.cases_head with
  | inl here =>
      subst here
      rcases meets with ⟨st, content, offers, owner⟩
      cases leaf.symm.trans offers
      cases owner
  | inr there =>
      rcases there with ⟨t, inside, -⟩
      cases inside with
      | item offers _ => cases leaf.symm.trans offers
      | member offers _ _ => cases leaf.symm.trans offers

private theorem crates_regularOn_bytes : crates.RegularOn {⟨6⟩} where
  regular r mem := mem ▸ .octets .uint8Array _ rfl
  closed r mem w child := by
    cases mem
    cases child

private theorem crates_regularOn_list : crates.RegularOn {⟨6⟩, ⟨7⟩} where
  regular r mem := by
    rcases mem with rfl | rfl
    · exact .octets .uint8Array _ rfl
    · exact .array _ rfl
  closed r mem w child := by
    rcases mem with rfl | rfl
    · cases child
    · cases List.mem_singleton.mp child
      exact fun q here => .inl (List.mem_singleton.mp here)

/-- The object has a text by itself and inside of others, and the array of bytes only by
    itself. -/
theorem nested_acceptance_of_crates :
    let hasText (r : Ref) := crates.HasText .standard (.object r)
    (hasText ⟨3⟩ ∧ hasText ⟨4⟩ ∧ hasText ⟨5⟩) ∧ hasText ⟨6⟩ ∧ ¬ hasText ⟨7⟩ ∧ ¬ hasText ⟨8⟩ := by
  intro hasText
  have ignores : crates.IgnoresKey .standard (.object ⟨3⟩) := fun _ => rfl
  have room : crates.LeavesRoom .standard 1 (.object ⟨3⟩) := fun _ =>
    ⟨1, by decide, some (.text "m"), rfl⟩
  have list : crates.Nested .standard (.object ⟨3⟩) 1 (.object ⟨4⟩) :=
    .wrap .bare (.array rfl) crates_isApart
  have map : crates.Nested .standard (.object ⟨3⟩) 1 (.object ⟨5⟩) :=
    .wrap .bare (.map "k" rfl) crates_isApart
  have object := nested_acceptance .standard ignores list room
  have usual : crates.Usual (.object ⟨3⟩) := .other (by decide)
  have inside : hasText ⟨3⟩ := ⟨"\"m\"", by decide +kernel⟩
  have speaks : ¬ crates.IsPlainBytes (.object ⟨3⟩) := by
    rintro ⟨r, w, integrity, same, there⟩
    cases same
    cases congrArg Object.body there
  have listed := (((object.2.1 usual).mp inside).resolve_right speaks).1
  have alone : View.Over {⟨6⟩} (.object ⟨6⟩) := fun q here => List.mem_singleton.mp here
  have listing : View.Over {⟨6⟩, ⟨7⟩} (.object ⟨7⟩) := fun q here =>
    .inr (List.mem_singleton.mp here)
  have once : crates.Nested .standard (.object ⟨6⟩) 1 (.object ⟨7⟩) :=
    .wrap .bare (.array rfl) (crates_regularOn_bytes.isApart alone (by decide))
  have twice : crates.Nested .standard (.object ⟨6⟩) 2 (.object ⟨8⟩) :=
    .wrap once (.map "k" rfl) (crates_regularOn_list.isApart listing (by decide))
  have left : ∀ k ≤ crates.objects.size, crates.LeavesRoom .standard k (.object ⟨6⟩) :=
    fun k few => crates_regularOn_bytes.leavesRoom (by rintro r rfl; decide) alone few
  have bytes := nested_acceptance .standard (crates_regularOn_bytes.ignoresKey alone) once
    (left 1 (by decide))
  have plain : crates.IsPlainBytes (.object ⟨6⟩) := ⟨⟨6⟩, _, {}, rfl, rfl⟩
  have refused := bytes.2.2 plain
  exact ⟨⟨inside, listed, (object.1 map room).mp listed⟩,
    (bytes.2.1 (.octets .uint8Array _ rfl rfl)).mpr (.inr plain), refused,
    fun held => refused ((bytes.1 twice (left 2 (by decide))).mpr held)⟩

end

end Store

end Stencil
