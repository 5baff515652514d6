import Stencil.Proofs.GivenDefaults

/-!
# Bytes as Defaults

Arrays of bytes render the same as defaults, by themselves and inside of other values.

By itself an array of bytes is written as the text that it says. It does not matter
for that whether it is a buffer, which its copy never is. Inside of other values it
matters: bytes are refused there, except for a buffer, which has a method for JSON.
So a buffer is left out of what is said about values that have bytes in them.

Such values are made of plain objects and collections, and hold no functions. That is
enough for nothing to be called when they are written, whatever the names of their
properties are: what is found under a name is either built in or something that the
object holds.

## Main definitions

* `Store.Bundled`: Plain objects, collections, and arrays of bytes.
* `Store.IsBundle`: Values that are made of them.
* `Store.ShowsBytes`: An array of bytes by itself.

## Theorems

* `Store.BundledOn.faithfulOn`: Nothing is called for such values.
* `Store.ShowsBytes.copy`: The copy of an array of bytes shows the same.
* `Template.bytes_as_given`: Bytes as a default, and given directly.
* `Template.bytes_not_as_given`: Where they differ.
-/

namespace Stencil

namespace Store

/-- Plain objects that compute nothing, collections, and arrays of bytes that are no
    buffers. -/
inductive Bundled (st : Store) (r : Ref) : Prop
  | record (body : (st.get r).body = .record) (plain : (st.get r).isPlain = true)
      (data : ∀ e ∈ (st.get r).fields, ∃ v, e.2.slot = .data v)
  | array (elements : List (Option Value)) {integrity : Integrity}
      (there : st.get r = .bare (.array elements) integrity)
  | map (entries : List (Value × Value)) (distinct : Distinct (entries.map Prod.fst))
      {integrity : Integrity} (there : st.get r = .bare (.map entries) integrity)
  | set (elements : List Value) (distinct : Distinct elements) {integrity : Integrity}
      (there : st.get r = .bare (.set elements) integrity)
  | octets (w : Window UInt8) {integrity : Integrity}
      (there : st.get r = .bare (.octets .uint8Array w) integrity)

/-- Such objects at the addresses of a set that what they hold is in. -/
structure BundledOn (st : Store) (S : Set Ref) : Prop where
  bundled : ∀ r ∈ S, st.Bundled r
  inside : ∀ r ∈ S, r.index < st.objects.size
  closed : ∀ r ∈ S, ∀ q ∈ (st.get r).held, q ∈ S

/-- Values made of arrays, plain objects, maps and sets, over simple values and arrays
    of bytes. -/
def IsBundle (st : Store) (v : Value) : Prop :=
  ∃ S, st.BundledOn S ∧ View.Over S v

/-- An array of bytes, be it a buffer or not, that shows some of what it is a view
    of. -/
def ShowsBytes (st : Store) (v : Value) (bytes : List UInt8) : Prop :=
  ∃ r c w integrity, v = .object r ∧ (Family.octets c).isA (.octets .uint8Array) = true
    ∧ st.get r = .bare (.octets c w) integrity ∧ w.visible = bytes

variable {interp : Interpretation} {st st' : Store} {r : Ref} {v : Value} {S : Set Ref}

/-! ### Nothing is called -/

theorem Bundled.isFunction (bundled : st.Bundled r) : (st.get r).isFunction = false := by
  cases bundled with
  | record body _ _ => rw [Object.isFunction, body]
  | _ => simp only [*, Object.isFunction, Object.body_bare]

/-- They derive from nothing but what is built in. -/
theorem Bundled.direct (bundled : st.Bundled r) : st.Direct r := by
  cases bundled with
  | record body plain data =>
      refine ⟨fun t same => (nomatch body.symm.trans same), data, ?_⟩
      rcases Object.isPlain_iff.mp plain with root | none
      · exact .inr ⟨_, root⟩
      · exact .inl none
  | array _ there => exact .of_bare there nofun
  | map _ _ there => exact .of_bare there nofun
  | set _ _ there => exact .of_bare there nofun
  | octets _ there => exact .of_bare there nofun

namespace BundledOn

variable (on : st.BundledOn S)

include on

theorem lacksJson (hr : r ∈ S) (plain : (st.get r).isPlain = true) : st.LacksJson r :=
  (on.bundled r hr).direct.lacksJson plain fun q hq =>
    (on.bundled q (on.closed r hr q hq)).isFunction

theorem namesType (hr : r ∈ S) : st.NamesType r :=
  (on.bundled r hr).direct.namesType fun q hq => (on.bundled q (on.closed r hr q hq)).direct

/-- Nothing is called for them. -/
theorem faithfulOn : st.FaithfulOn S where
  faithful r hr := by
    cases on.bundled r hr with
    | record body plain data =>
        refine .record body ?_ (fun _ => data) (on.lacksJson hr plain) (on.namesType hr)
        rcases Object.isPlain_iff.mp plain with root | none
        · exact .root root
        · exact .none none
    | array elements there => exact .array elements there
    | map entries distinct there => exact .map entries distinct there
    | set elements distinct there => exact .set elements distinct there
    | octets w there => exact .octets .uint8Array w nofun there
  inside := on.inside
  closed r hr _ := on.closed r hr

end BundledOn

/-! ### Arrays of bytes -/

section

variable {bytes : List UInt8}

namespace ShowsBytes

theorem templateRef?_eq_none (shows : st.ShowsBytes v bytes) : st.templateRef? v = none := by
  rcases shows with ⟨r, c, w, integrity, rfl, -, there, -⟩
  rw [templateRef?, inherits_of_bare there]
  cases c <;> rfl

theorem serialize_eq (shows : st.ShowsBytes v bytes) :
    Serializer.serialize interp st v = .ok (.existing (.text (Serializer.octetText bytes))) := by
  rcases shows with ⟨r, c, w, integrity, rfl, array, there, rfl⟩
  exact serialize_octets array there

/-- A template inserts the same for all arrays that show the same. -/
theorem insertion_eq {u : Value} {t : Template} (shows : st.ShowsBytes v bytes)
    (shows' : st'.ShowsBytes u bytes) (untouched : st.Untouched) (untouched' : st'.Untouched)
    (standard : t.IsStandard) (key : String) :
    t.insertion interp st' key u = t.insertion interp st key v := by
  have text : t.serialize interp st v = .ok (.existing (.text (Serializer.octetText bytes))) :=
    (standard.serialize_eq interp st v).trans shows.serialize_eq
  have text' : t.serialize interp st' u = .ok (.existing (.text (Serializer.octetText bytes))) :=
    (standard.serialize_eq interp st' u).trans shows'.serialize_eq
  rw [Template.insertion_eq untouched, Template.insertion_eq untouched', Template.converted,
    Template.converted, shows.templateRef?_eq_none, shows'.templateRef?_eq_none]
  refine congrArg _ ?_
  rw [Template.resultAt_write_eq_ok_iff.mpr text, Template.resultAt_write_eq_ok_iff.mpr text']

/-- An array is no template, so it shows the same after a template was given a
    default. -/
theorem putDefault {q : Ref} {t : Template} {key : String} {u : Value}
    (shows : st.ShowsBytes v bytes) (held : st.template? q = some t) :
    (st.putDefault q key u).ShowsBytes v bytes := by
  rcases shows with ⟨r, c, w, integrity, rfl, array, there, visible⟩
  have apart : r ≠ q := by
    rintro rfl
    rw [template?, there] at held
    cases held
  exact ⟨r, c, w, integrity, rfl, array, (get_putDefault_ne held apart).trans there, visible⟩

/-- The copy of an array of bytes shows the same. It is no buffer any more. -/
theorem copy (interp : Interpretation) (intact : st.Intact) (shows : st.ShowsBytes v bytes) :
    ∃ st' u, st.copy interp v = .ok (st', u) ∧ st.Extends st' ∧ st'.Untouched
      ∧ st'.ShowsBytes u bytes := by
  rcases shows with ⟨r, c, w, integrity, rfl, array, there, rfl⟩
  have object : (st.get r).isFunction = false := by rw [there]; rfl
  have inside : r.index < st.objects.size := by
    by_contra outside
    rw [get_of_size_le (Nat.le_of_not_lt outside)] at there
    cases congrArg Object.body there
  have on : st.ClonesOn {r} := by
    refine ⟨fun q hq => ?_, fun q hq => ?_, fun q hq p hp => ?_⟩
    · exact hq ▸ .octets c w there
    · exact hq ▸ inside
    · rw [Set.mem_singleton_iff.mp hq, there] at hp
      cases hp
  rcases copy_clones interp on (v := .object r) fun q hq => .inl (List.mem_singleton.mp hq) with
    ⟨state, gives, sound, formed, settled⟩
  have known : r ∈ state.known := by
    rcases settled r List.mem_cons_self with known | function
    · exact known
    · rw [object] at function
      cases function
  have get_eq := (formed _ (Copying.mem_copies_target known)).get_eq
  rw [there] at get_eq
  refine ⟨state.store, _, gives, sound.grown, untouched_of_copies intact on sound formed, ?_⟩
  by_cases buffer : c = .buffer
  · rw [buffer] at get_eq
    exact ⟨_, .uint8Array, w, {}, rfl, rfl, get_eq, rfl⟩
  · have kept : (Object.bare (.octets c w) integrity).settled = .bare (.octets c w) {} := by
      refine Object.settled_of_body (fun w' same => ?_) rfl
      cases same
      exact buffer rfl
    rw [kept] at get_eq
    exact ⟨_, c, w, {}, rfl, array, get_eq, rfl⟩

/-- Arrays of bytes are inserted as their copies are. -/
theorem reproduces (interp : Interpretation) (intact : st.Intact)
    (shows : st.ShowsBytes v bytes) : Template.Reproduces interp st v := by
  rcases shows.copy interp intact with ⟨st', u, copies, grown, untouched, shows'⟩
  refine ⟨shows.templateRef?_eq_none, st', u, copies, grown, untouched, fun held standard => ?_⟩
  have held' := grown.template? held
  exact shows.insertion_eq (shows'.putDefault held') intact.untouched
    (untouched.putDefault held') standard _

end ShowsBytes

end

end Store

namespace Template

variable {st : Store} {v : Value}

/-- A template renders with bytes as a default as it does with the bytes, by themselves
    or inside of other values, as long as the other values are inserted as before. -/
theorem bytes_as_given (interp : Interpretation) (what : String) (intact : st.Intact)
    (data : st.IsBundle v ∨ ∃ bytes, st.ShowsBytes v bytes) {r d : Ref} {t : Template}
    {key : String} {w w' : Value} {supplied supplied' : List (String × Value)}
    (held : st.template? r = some t) (standard : t.IsStandard) (declared : key ∈ t.placeholders)
    (there : st.get d = .plain [(key, v)]) (inside : st.Holds w) (offered : Offers st w supplied)
    (offered' : Offers st w' supplied') (adds : Store.AddsEntry key v supplied supplied') :
    let later := (askSetDefault interp what r (.object d)).storeAfter st
    (∀ name ∈ t.placeholders, name ≠ key → ∀ x, t.valueFor? supplied name = some x →
      st.Avoids r x ∨ t.insertion interp later name x = t.insertion interp st name x) →
    (askSetDefault interp what r (.object d)).resultAt st = .ok .undefined
      ∧ (render interp what r w).resultAt later = (render interp what r w').resultAt st := by
  intro later others
  have reproduces : Reproduces interp st v := by
    rcases data with ⟨S, on, covered⟩ | ⟨bytes, shows⟩
    · exact reproduces_of_faithful interp intact ⟨S, on.faithfulOn, covered⟩
    · exact shows.reproduces interp intact
  exact setDefault_then_render what intact reproduces held standard declared there inside offered
    offered' adds others

section

/-- A function that tells when it is called. -/
private def ticking : Interpretation := .ofCalls fun st _ _ _ =>
  .ok (.existing (.text (indexName st.objects.size)))

/-- A template with a default. -/
private def dish : Template :=
  ofCut "" (.placed [] "k" (.placed [] "x" (.last []))) (by decide) [("x", .text "q")]

/-- The template, a buffer and another view of the same bytes, each with an array
    around it, and objects to give to the template. -/
private def tray : Store :=
  ⟨Store.initial.objects ++ #[Object.ofBody (.template dish),
    Object.ofBody (.octets .buffer ⟨[65, 66, 67], 1, 2, by decide⟩),
    Object.ofBody (.octets .uint8Array ⟨[65, 66, 67], 1, 2, by decide⟩),
    Object.ofBody (.array [some (.object ⟨3⟩)]), Object.ofBody (.array [some (.object ⟨4⟩)]),
    Object.plain [("k", .object ⟨3⟩)], Object.plain [("k", .object ⟨4⟩)],
    Object.plain [("k", .object ⟨5⟩)], Object.plain [("k", .object ⟨6⟩)], Object.plain [],
    Object.plain [("x", .object ⟨2⟩)], Object.plain [("x", .object ⟨2⟩), ("k", .object ⟨4⟩)],
    { Object.plain [] with fields := [(.text "x", { slot := .accessor (some ⟨1⟩) none })] },
    Object.plain [("x", .text "16"), ("k", .object ⟨4⟩)]]⟩

private theorem tray_bundle : tray.IsBundle (.object ⟨6⟩) := by
  have inside : ∀ r ∈ ([⟨4⟩, ⟨6⟩] : List Ref), r.index < tray.objects.size := by decide
  have closed : ∀ r ∈ ([⟨4⟩, ⟨6⟩] : List Ref), ∀ q ∈ (tray.get r).held,
      q ∈ ([⟨4⟩, ⟨6⟩] : List Ref) := by decide
  refine ⟨{r | r ∈ ([⟨4⟩, ⟨6⟩] : List Ref)}, ⟨fun r hr => ?_, inside, closed⟩, ?_⟩
  · have two : r = ⟨4⟩ ∨ r = ⟨6⟩ := by simpa using hr
    rcases two with rfl | rfl
    · exact .octets _ rfl
    · exact .array _ rfl
  · intro r hr
    rw [List.mem_singleton.mp hr]
    exact List.mem_cons_of_mem _ List.mem_cons_self

/-- A buffer has the text that it shows, and bytes in an array are refused. -/
theorem bytes_as_given_of_views :
    let interp := Interpretation.standard
    let stored (d : Ref) := (render interp "this" ⟨2⟩ .undefined).resultAt
      ((askSetDefault interp "this" ⟨2⟩ (.object d)).storeAfter tray)
    tray.Intact ∧ tray.ShowsBytes (.object ⟨3⟩) [66, 67] ∧ stored ⟨7⟩ = .ok (.text "BCq")
      ∧ tray.IsBundle (.object ⟨6⟩) ∧ stored ⟨10⟩ = .error (.template (.serialization "k" "Array"
        (.plain .typeError "Object of type Uint8Array is not JSON serializable") "")) := by
  intro interp stored
  have intact : tray.Intact := by decide
  have shows : tray.ShowsBytes (.object ⟨3⟩) [66, 67] := ⟨_, .buffer, _, {}, rfl, rfl, rfl, rfl⟩
  -- What is inserted besides is a default that is a text.
  have others : ∀ name ∈ dish.placeholders, name ≠ "k" → ∀ x, dish.valueFor? [] name = some x →
      tray.Avoids ⟨2⟩ x := by
    intro name hn other x found
    have two : name = "k" ∨ name = "x" := by simpa using show name ∈ ["k", "x"] from hn
    rcases two with rfl | rfl
    · exact absurd rfl other
    · cases found
      exact .data (Store.isFaithful_of_simple rfl)
  have ofBuffer := bytes_as_given interp "this" (r := ⟨2⟩) (d := ⟨7⟩) (t := dish) (w := .undefined)
    intact (.inr ⟨_, shows⟩) rfl ⟨rfl, rfl⟩ (by decide) rfl (by decide) (.inr ⟨rfl, rfl⟩)
    (.inl (by decide) : Offers tray (.object ⟨7⟩) [("k", .object ⟨3⟩)]) ⟨by decide, by decide⟩
    fun name hn other x found => .inl (others name hn other x found)
  have ofBundle := bytes_as_given interp "this" (r := ⟨2⟩) (d := ⟨10⟩) (t := dish)
    (w := .undefined) intact (.inl tray_bundle) rfl ⟨rfl, rfl⟩ (by decide) rfl (by decide)
    (.inr ⟨rfl, rfl⟩) (.inl (by decide) : Offers tray (.object ⟨10⟩) [("k", .object ⟨6⟩)])
    ⟨by decide, by decide⟩ fun name hn other x found => .inl (others name hn other x found)
  refine ⟨intact, shows, ofBuffer.2.trans ?_, tray_bundle, ofBundle.2.trans ?_⟩
  all_goals decide +kernel

/-- A template that is given to itself has the new default there as well, and what an
    object computes may tell an earlier time from a later one. The copy of a buffer
    that is in an array is refused, since it is none. -/
theorem bytes_not_as_given :
    let stored (interp : Interpretation) (d w : Ref) :=
      (render interp "this" ⟨2⟩ (.object w)).resultAt
        ((askSetDefault interp "this" ⟨2⟩ (.object d)).storeAfter tray)
    let given (interp : Interpretation) (w : Ref) :=
      (render interp "this" ⟨2⟩ (.object w)).resultAt tray
    tray.Intact
      ∧ (stored .standard ⟨8⟩ ⟨12⟩ = .ok (.text "BCBCq")
        ∧ given .standard ⟨13⟩ = .error (.template (.missingValues ["k"] "")))
      ∧ (tray.supplied ticking (.object ⟨14⟩) = .ok (tray, [("x", .text "16")])
        ∧ stored ticking ⟨8⟩ ⟨14⟩ = .ok (.text "BC17") ∧ given ticking ⟨15⟩ = .ok (.text "BC16"))
      ∧ (stored .standard ⟨9⟩ ⟨11⟩ = .error (.template (.serialization "k" "Array"
          (.plain .typeError "Object of type Uint8Array is not JSON serializable") ""))
        ∧ given .standard ⟨9⟩
          = .ok (.text "[\x7b\"type\":\"Buffer\",\"data\":[66,67]\x7d]q")) := by
  intro stored given
  refine ⟨by decide, ⟨?_, ?_⟩, ⟨rfl, ?_, ?_⟩, ?_, ?_⟩
  all_goals decide +kernel

end

end Template

end Stencil
