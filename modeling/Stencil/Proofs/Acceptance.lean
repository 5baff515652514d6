import Stencil.Proofs.Facets
import Stencil.Proofs.KeyOrder

/-!
# Which Structures Are Accepted

When a structured value has a text.

Refusing is decided while the value is written, one level at a time: maps and
sets are turned into members and items on each visit, and only arrays and plain
objects are known again when they are met inside themselves. Seen from the graph
of objects none of that shows. A structured value is accepted exactly if nothing
can be reached from it that is refused as such, which are functions, symbols,
instances of classes, and maps with a key that has no text, and if nothing that
can be reached leads back to itself, on whatever objects the way goes. Objects
that are shared are no reason to refuse anything.

What is reached counts the elements of arrays and sets, the values of maps, and
the enumerable properties under texts. The keys of a map are not written, so what
they lead to does not matter. Keys that coincide as texts hide the values of each
other, and a hidden value is not written either; `DistinctNames` excludes that.

## Main definitions

* `Value.name?`: The name that a key of a map is written as.
* `Store.Leads`: What a value is written with.
* `Store.Refused`: Values that are refused as such.
* `Store.Acceptable`: Nothing refused and no way back can be reached.
* `Store.IsStructure`: Arrays, plain objects, maps and sets.

## Theorems

* `Store.mapMembers_eq`: The members of a map.
* `Store.exists_facet_iff`: What is refused.
* `Store.serialize_acceptance`: When a structured value has a text.
-/

namespace Stencil

/-- The name that a key of a map is written as. -/
def Value.name? : Value → Option String
  | text s => some s
  | number n => some n.text
  | boolean b => some (if b then "true" else "false")
  | _ => none

/-- The named entries of a map. -/
def namedEntries (entries : List (Value × Value)) : List (String × Value) :=
  entries.filterMap fun e => e.1.name?.map fun name => (name, e.2)

namespace Store

/-- One value is written with another one. -/
def Leads (st : Store) (v w : Value) : Prop :=
  ∃ r, v = .object r ∧ w ∈ (st.get r).children

/-- Values that are refused wherever they are met inside a structured value. -/
inductive Refused (st : Store) : Value → Prop
  | symbol (label : String) : Refused st (.symbol label)
  | function {r : Ref} (callable : (st.get r).isFunction = true) : Refused st (.object r)
  /-- An instance of a class, or something else that no document can be made from. -/
  | derived {r : Ref} (body : (st.get r).body.isForeign = true)
      (other : (st.get r).isPlain = false) : Refused st (.object r)
  | pattern {r : Ref} {p : Pattern} {lastIndex : Value}
      (body : (st.get r).body = .pattern p lastIndex) : Refused st (.object r)
  /-- A view of bytes that is no buffer. -/
  | octets {r : Ref} {c : OctetClass} {w : Window UInt8} (body : (st.get r).body = .octets c w)
      (other : c ≠ .buffer) : Refused st (.object r)
  /-- A map with a key that is no text, number or boolean. -/
  | key {r : Ref} {entries : List (Value × Value)} {e : Value × Value}
      (body : (st.get r).body = .map entries) (mem : e ∈ entries) (unnamed : e.1.name? = none) :
      Refused st (.object r)

/-- Nothing that can be reached is refused, and nothing leads back to itself. -/
def Acceptable (st : Store) (v : Value) : Prop :=
  ∀ w, Relation.ReflTransGen st.Leads v w →
    ¬ st.Refused w ∧ ¬ Relation.TransGen st.Leads w w

/-- The names of the entries of a map are different ones. -/
def DistinctNames (st : Store) (r : Ref) : Prop :=
  ∀ entries, (st.get r).body = .map entries → ((namedEntries entries).map Prod.fst).Nodup

/-- Arrays, plain objects, maps and sets. -/
inductive IsStructure (st : Store) (r : Ref) : Prop
  | record (body : (st.get r).body = .record) (plain : (st.get r).isPlain = true)
  | array {elements : List (Option Value)} {integrity : Integrity}
      (there : st.get r = .bare (.array elements) integrity)
  | map {entries : List (Value × Value)} {integrity : Integrity}
      (there : st.get r = .bare (.map entries) integrity)
  | set {elements : List Value} {integrity : Integrity}
      (there : st.get r = .bare (.set elements) integrity)

variable {interp : Interpretation} {st : Store} {r : Ref} {v w : Value}

/-! ### Maps -/

theorem mapKey_named {key : Value} {name : String} (named : key.name? = some name) :
    Serializer.mapKey interp st key = .ok name := by
  cases key <;> cases named <;> rfl

theorem mapKey_unnamed {key : Value} (unnamed : key.name? = none) :
    ∃ e, Serializer.mapKey interp st key = .error e := by
  have refused : ∀ x : Except Thrown String, ∃ e, (do
      let type ← x
      throw (Thrown.fault .typeError ("Map keys must be string, number or boolean, not " ++ type)) :
        Except Thrown String) = .error e := by
    intro x
    cases x with
    | error e => exact ⟨e, rfl⟩
    | ok type => exact ⟨_, rfl⟩
  cases key with
  | text s => cases unnamed
  | number n => cases unnamed
  | boolean b => cases unnamed
  | _ => exact refused _

/-- The members of a map whose keys all have names. -/
theorem mapMembers_eq {entries : List (Value × Value)}
    (named : ∀ e ∈ entries, e.1.name? ≠ none) :
    Serializer.mapMembers interp st [] entries
      = .ok (Keyed.ofList ((namedEntries entries).map Keyed.entry)) := by
  have set : ∀ (entries : List (Value × Value)) (known : Keyed Value),
      (∀ e ∈ entries, e.1.name? ≠ none) →
      Serializer.mapMembers interp st known entries
        = .ok (((namedEntries entries).map Keyed.entry).foldl
            (fun members e => Keyed.set e.1 e.2 members) known) := by
    intro entries
    induction entries with
    | nil => exact fun _ _ => rfl
    | cons e entries ih =>
        intro known named
        rcases Option.ne_none_iff_exists'.mp (named e List.mem_cons_self) with ⟨name, here⟩
        have first : namedEntries (e :: entries) = (name, e.2) :: namedEntries entries := by
          rw [namedEntries, List.filterMap_cons, here]
          rfl
        rw [Serializer.mapMembers, mapKey_named here, first]
        exact ih _ fun d hd => named d (List.mem_cons_of_mem e hd)
  exact set entries [] named

/-- Where names are different, the members are the entries in the order of
    properties. -/
theorem texts_members {entries : List (Value × Value)}
    (distinct : ((namedEntries entries).map Prod.fst).Nodup) :
    (Keyed.ofList ((namedEntries entries).map Keyed.entry)).texts
      = ownKeyOrder (namedEntries entries) := by
  rw [Keyed.ofList_eq distinct, Keyed.texts_entries]

/-- A map whose keys have different names shows its values in the order of
    properties. -/
theorem view_map_named {entries : List (Value × Value)} (body : (st.get r).body = .map entries)
    (named : ∀ e ∈ entries, e.1.name? ≠ none)
    (distinct : ((namedEntries entries).map Prod.fst).Nodup) :
    st.view interp (.object r) = .ok (.members none (ownKeyOrder (namedEntries entries))) := by
  rw [view_map body, mapMembers_eq named, ← texts_members distinct]
  rfl

theorem mapMembers_unnamed {entries : List (Value × Value)} {e : Value × Value} (mem : e ∈ entries)
    (unnamed : e.1.name? = none) (known : Keyed Value) :
    ∃ raised, Serializer.mapMembers interp st known entries = .error raised := by
  induction entries generalizing known with
  | nil => cases mem
  | cons d entries ih =>
      rcases List.mem_cons.mp mem with rfl | mem
      · have fails : ∃ raised, Serializer.mapKey interp st e.1 = .error raised :=
          mapKey_unnamed unnamed
        rcases fails with ⟨raised, fails⟩
        exact ⟨raised, by rw [Serializer.mapMembers, fails]; rfl⟩
      · rw [Serializer.mapMembers]
        cases Serializer.mapKey interp st d.1 with
        | error raised => exact ⟨raised, rfl⟩
        | ok name => exact ih mem _

/-! ### What is refused -/

/-- Which objects are refused, by their kinds. -/
theorem refused_object_iff : st.Refused (.object r) ↔
    match (st.get r).body with
    | .function _ | .pattern _ _ => True
    | .record | .error | .template _ | .cells _ _ | .arrayBuffer _ => (st.get r).isPlain = false
    | .octets c _ => c ≠ .buffer
    | .map entries => ∃ e ∈ entries, e.1.name? = none
    | _ => False := by
  constructor
  · intro refused
    cases refused with
    | function callable =>
        rcases Object.isFunction_iff.mp callable with ⟨p, body⟩
        rw [body]
        trivial
    | derived foreign other =>
        cases body : (st.get r).body with
        | record | error | template _ | cells _ _ | arrayBuffer _ => exact other
        | _ =>
            rw [body] at foreign
            cases foreign
    | pattern body => rw [body]; trivial
    | octets body other => rw [body]; exact other
    | key body mem unnamed => rw [body]; exact ⟨_, mem, unnamed⟩
  · intro kind
    split at kind
    · next p body => exact .function (Object.isFunction_iff.mpr ⟨p, body⟩)
    · next body => exact .pattern body
    · next body => exact .derived (by rw [body]; rfl) kind
    · next body => exact .derived (by rw [body]; rfl) kind
    · next body => exact .derived (by rw [body]; rfl) kind
    · next body => exact .derived (by rw [body]; rfl) kind
    · next body => exact .derived (by rw [body]; rfl) kind
    · next body => exact .octets body kind
    · next body =>
        rcases kind with ⟨e, mem, unnamed⟩
        exact .key body mem unnamed
    · exact kind.elim

/-- A value shows something unless it is refused. -/
theorem exists_facet_iff (regular : ∀ r ∈ v.refs, st.Regular r) :
    (∃ facet, st.view interp v = .ok facet) ↔ ¬ st.Refused v := by
  have never : ∀ {x : Except Thrown String},
      ¬ ∃ facet : Facet, (do throw (Serializer.notJson (← x))) = Except.ok facet := by
    rintro x ⟨facet, same⟩
    cases x <;> cases same
  cases v with
  | object r =>
      -- What is shown and what is refused are both told by the kind of the object.
      rw [refused_object_iff]
      cases regular r List.mem_cons_self with
      | record body plain _ _ =>
          simp only [body, plain]
          exact ⟨fun _ => by rintro ⟨⟩, fun _ => ⟨_, view_record body plain⟩⟩
      | derived foreign other _ _ =>
          rw [← refused_object_iff, view_foreign foreign other]
          exact ⟨fun some => absurd some never, fun none => absurd (.derived foreign other) none⟩
      | map entries there =>
          simp only [view, there, Object.body_bare]
          constructor
          · rintro ⟨facet, shown⟩ ⟨e, mem, unnamed⟩
            have fails : ∃ raised, Serializer.mapMembers interp st [] entries = .error raised :=
              mapMembers_unnamed mem unnamed []
            rcases fails with ⟨raised, fails⟩
            rw [fails] at shown
            cases shown
          · intro none
            rw [mapMembers_eq fun e mem unnamed => none ⟨e, mem, unnamed⟩]
            exact ⟨_, rfl⟩
      | boxed u simple there =>
          simp only [view, there, Object.body_bare]
          refine ⟨fun _ => not_false, fun _ => ?_⟩
          cases u with
          | text s => exact ⟨_, rfl⟩
          | number n => exact ⟨_, rfl⟩
          | boolean b => exact ⟨_, rfl⟩
          | _ => rcases simple with h | h | h <;> cases h
      | octets c w there =>
          simp only [view, there, Object.body_bare]
          cases c with
          | buffer => exact ⟨fun _ other => other rfl, fun _ => ⟨_, rfl⟩⟩
          | _ => exact ⟨fun some => absurd some never, fun none => absurd (by rintro ⟨⟩) none⟩
      | pattern p lastIndex there =>
          simp only [view, there, Object.body_bare]
          exact ⟨fun some => absurd some never, fun none => absurd trivial none⟩
      | function callable _ =>
          rcases Object.isFunction_iff.mp callable with ⟨p, body⟩
          simp only [view, body]
          exact ⟨fun some => absurd some never, fun none => absurd trivial none⟩
      | date instant there =>
          simp only [view, there, Object.body_bare]
          refine ⟨fun _ => not_false, fun _ => ?_⟩
          cases instant <;> exact ⟨_, rfl⟩
      | _ =>
          simp only [view, *, Object.body_bare]
          exact ⟨fun _ => not_false, fun _ => ⟨_, rfl⟩⟩
  | symbol label =>
      refine ⟨?_, fun none => absurd (.symbol label) none⟩
      rintro ⟨facet, shown⟩
      cases shown
  | _ => exact ⟨fun _ => by rintro ⟨⟩, fun _ => ⟨_, rfl⟩⟩

/-- What is written with a value that is not refused is a part that it shows. -/
theorem shows_of_leads (regular : ∀ r ∈ v.refs, st.Regular r ∧ st.DistinctNames r)
    (fine : ¬ st.Refused v) (leads : st.Leads v w) : (st.view interp).Shows v w := by
  rcases leads with ⟨r, rfl, mem⟩
  rcases regular r List.mem_cons_self with ⟨regular, distinct⟩
  rw [refused_object_iff] at fine
  rw [Object.children] at mem
  cases regular with
  | record body plain _ _ =>
      rw [body] at mem
      exact ⟨_, _, _, view_record body plain, mem⟩
  | derived foreign other _ _ =>
      rw [← refused_object_iff] at fine
      exact absurd (.derived foreign other) fine
  | array elements there =>
      have body : (st.get r).body = .array elements := by rw [there, Object.body_bare]
      rw [body] at mem
      exact ⟨_, _, _, view_array body, mem⟩
  | set elements there =>
      have body : (st.get r).body = .set elements := by rw [there, Object.body_bare]
      rw [body] at mem
      exact ⟨_, _, _, view_set body, mem⟩
  | map entries there =>
      have body : (st.get r).body = .map entries := by rw [there, Object.body_bare]
      rw [body] at mem fine
      have named : ∀ e ∈ entries, e.1.name? ≠ none :=
        fun e he unnamed => fine ⟨e, he, unnamed⟩
      refine ⟨_, _, _, view_map_named body named (distinct entries body), ?_⟩
      -- All entries have names, and these are different, so no value is lost.
      rcases List.mem_map.mp mem with ⟨e, he, rfl⟩
      rcases Option.ne_none_iff_exists'.mp (named e he) with ⟨name, here⟩
      have listed : (name, e.2) ∈ namedEntries entries :=
        List.mem_filterMap.mpr ⟨e, he, by rw [here]; rfl⟩
      exact List.mem_map_of_mem ((Keyed.ownKeyOrder_perm _).mem_iff.mpr listed)
  | date instant there =>
      rw [there] at mem
      cases mem
  | pattern p lastIndex there =>
      rw [there] at mem
      cases mem
  | url href there =>
      rw [there] at mem
      cases mem
  | boxed u simple there =>
      rw [there] at mem
      cases mem
  | octets c u there =>
      rw [there] at mem
      cases mem
  | function callable _ =>
      rcases Object.isFunction_iff.mp callable with ⟨p, body⟩
      rw [body] at fine
      exact absurd trivial fine

theorem leads_of_shows (shows : (st.view interp).Shows v w) : st.Leads v w := by
  cases v with
  | object r => exact ⟨r, rfl, mem_children shows⟩
  | _ => exact absurd shows (not_shows_simple rfl)

theorem reaches_of_shows (met : Relation.ReflTransGen (st.view interp).Shows v w) :
    Relation.ReflTransGen st.Leads v w :=
  met.lift id fun _ _ => leads_of_shows

/-- What can be reached is in every closed list of values. -/
theorem mem_of_reaches {values : List Value}
    (closed : ∀ v ∈ values, ∀ r ∈ v.refs, ∀ w ∈ (st.get r).children, w ∈ values)
    (start : v ∈ values) (reached : Relation.ReflTransGen st.Leads v w) : w ∈ values := by
  induction reached with
  | refl => exact start
  | tail _ leads ih =>
      rcases leads with ⟨r, rfl, mem⟩
      exact closed _ ih r List.mem_cons_self _ mem

/-- Where objects are only written with later ones, nothing leads back. -/
theorem not_leads_back {values : List Value}
    (later : ∀ v ∈ values, ∀ r ∈ v.refs, ∀ w ∈ (st.get r).children,
      w ∈ values ∧ ∀ q ∈ w.refs, r.index < q.index)
    (start : v ∈ values) : ¬ Relation.TransGen st.Leads v v := by
  have closed : ∀ v ∈ values, ∀ r ∈ v.refs, ∀ w ∈ (st.get r).children, w ∈ values :=
    fun v hv r hr w mem => (later v hv r hr w mem).1
  have ascends : ∀ {w : Value}, Relation.TransGen st.Leads v w →
      ∀ r ∈ v.refs, ∀ q ∈ w.refs, r.index < q.index := by
    intro w way
    induction way with
    | single leads =>
        rcases leads with ⟨p, rfl, mem⟩
        intro r hr
        rcases List.mem_singleton.mp hr with rfl
        exact (later _ start r hr _ mem).2
    | tail before leads ih =>
        rcases leads with ⟨p, rfl, mem⟩
        intro r hr q hq
        have there := mem_of_reaches closed start before.to_reflTransGen
        exact (ih r hr p List.mem_cons_self).trans
          ((later _ there p List.mem_cons_self _ mem).2 q hq)
  intro cycle
  rcases Relation.TransGen.head'_iff.mp cycle with ⟨u, ⟨r, rfl, -⟩, -⟩
  exact Nat.lt_irrefl _ (ascends cycle r List.mem_cons_self r List.mem_cons_self)

/-! ### Structured values -/

/-- A structured value is nothing that has a text of its own. -/
theorem IsStructure.inherits (structured : st.IsStructure r) {f : Family}
    (other : f ∈ [Family.date, .string, .number, .boolean, .url, .octets .uint8Array]) :
    st.inherits r f = false := by
  have apart : ∀ f ∈ [Family.date, .string, .number, .boolean, .url, .octets .uint8Array],
      Family.object.isA f = false ∧ Family.array.isA f = false ∧ Family.map.isA f = false
        ∧ Family.set.isA f = false := by decide
  rcases apart f other with ⟨object, array, map, set⟩
  cases structured with
  | record body plain =>
      rcases Object.isPlain_iff.mp plain with family | none
      · rw [inherits_of_family family, object]
      · exact inherits_of_none none
  | array there => exact (inherits_of_bare there f).trans array
  | map there => exact (inherits_of_bare there f).trans map
  | set there => exact (inherits_of_bare there f).trans set

/-- A structured value has the text of its document. -/
theorem serialize_structure (structured : st.IsStructure r) :
    Serializer.serialize interp st (.object r)
      = (Serializer.structured interp st (.object r)).map fun s => .existing (.text s) := by
  have noCanonical : Serializer.canonical? interp st r = .ok none := by
    simp only [Serializer.canonical?, Serializer.isWrapper, structured.inherits, List.mem_cons,
      true_or, or_true, Bool.false_eq_true, if_false, Bool.or_self]
  have isStructured : Serializer.isStructured interp st r = .ok true := by
    cases structured with
    | record body plain => simp only [Serializer.isStructured, body, plain, Bool.or_true, if_true]
    | array there => simp only [Serializer.isStructured, there, Object.body_bare]
    | map there =>
        have kind : st.inherits r .map = true := inherits_of_bare there .map
        simp only [Serializer.isStructured, there, Object.body_bare, kind, Bool.true_or, if_true]
    | set there =>
        have kind : st.inherits r .set = true := inherits_of_bare there .set
        simp only [Serializer.isStructured, there, Object.body_bare, kind, Bool.true_or,
          Bool.or_true, if_true]
  have noFunction : (st.get r).isFunction = false := by
    rw [Object.isFunction]
    cases structured with
    | record body _ => rw [body]
    | _ there => rw [there, Object.body_bare]
  have text : Serializer.objectText interp st r = Serializer.structured interp st (.object r) := by
    have noBytes : st.inherits r (.octets .uint8Array) = false :=
      structured.inherits (by decide)
    rw [Serializer.objectText, noBytes, isStructured]
    rfl
  simp only [Serializer.serialize, noFunction, noCanonical, text, Bool.false_eq_true, if_false]
  cases Serializer.structured interp st (.object r) <;> rfl

/-- All that can be reached from a value are regular objects, in whose maps names
    are different. -/
def IsRegular (st : Store) (v : Value) : Prop :=
  ∀ r, Relation.ReflTransGen st.Leads v (.object r) →
    r.index < st.objects.size ∧ st.Regular r ∧ st.DistinctNames r

namespace IsRegular

theorem refs (regular : st.IsRegular v) (reached : Relation.ReflTransGen st.Leads v w) :
    ∀ r ∈ w.refs, st.Regular r ∧ st.DistinctNames r := by
  intro r mem
  cases w with
  | object q =>
      rcases List.mem_singleton.mp mem with rfl
      exact (regular r reached).2
  | _ => cases mem

/-- What can be reached is a graph of its own. -/
theorem regularOn (regular : st.IsRegular v) :
    st.RegularOn {r | Relation.ReflTransGen st.Leads v (.object r)} where
  regular r reached := (regular r reached).2.1
  closed := by
    intro r reached w mem q hq
    cases w with
    | object p =>
        rcases List.mem_singleton.mp hq with rfl
        exact Relation.ReflTransGen.tail reached ⟨r, rfl, mem⟩
    | _ => cases hq

/-- Where nothing is refused on the way, what can be reached is met. -/
theorem reaches_shows (regular : st.IsRegular v)
    (fine : ∀ u, Relation.ReflTransGen (st.view interp).Shows v u → ¬ st.Refused u)
    (reached : Relation.ReflTransGen st.Leads v w) :
    Relation.ReflTransGen (st.view interp).Shows v w := by
  induction reached with
  | refl => exact .refl
  | @tail u w before leads ih =>
      exact ih.tail (shows_of_leads (regular.refs before) (fine u ih) leads)

/-- Where nothing is refused, a way over what is written is one over what is
    shown. -/
theorem way_shows (regular : st.IsRegular v)
    (fine : ∀ u, Relation.ReflTransGen st.Leads v u → ¬ st.Refused u)
    (reached : Relation.ReflTransGen st.Leads v w) {u : Value}
    (way : Relation.TransGen st.Leads w u) : Relation.TransGen (st.view interp).Shows w u := by
  induction way with
  | single leads => exact .single (shows_of_leads (regular.refs reached) (fine w reached) leads)
  | @tail x y before leads ih =>
      have there := reached.trans before.to_reflTransGen
      exact ih.tail (shows_of_leads (regular.refs there) (fine x there) leads)

end IsRegular

/-- A structured value shows parts. -/
theorem IsStructure.not_done (structured : st.IsStructure r) (d : Option Json) :
    st.view interp (.object r) ≠ .ok (.done d) := by
  cases structured with
  | record body plain => rw [view_record body plain]; exact nofun
  | array there =>
      rw [view_array (by rw [there, Object.body_bare])]
      exact nofun
  | map there =>
      rw [view_map (by rw [there, Object.body_bare])]
      intro shown
      rcases ok_of_bind shown with ⟨members, -, same⟩
      cases same
  | set there =>
      rw [view_set (by rw [there, Object.body_bare])]
      exact nofun

theorem over_reached (v : Value) :
    View.Over {r | Relation.ReflTransGen st.Leads v (.object r)} v := by
  intro r mem
  cases v with
  | object q =>
      rcases List.mem_singleton.mp mem with rfl
      exact Relation.ReflTransGen.refl
  | _ => cases mem

/-- The text of a structured value is that of the document which is put together
    from what is shown. -/
theorem serialize_eq_assemble (structured : st.IsStructure r) (regular : st.IsRegular (.object r)) :
    Serializer.serialize interp st (.object r)
      = ((st.view interp).assemble st.depth [] (.object r)).map fun document =>
        .existing (.text (String.ofList (document.getD .null).print)) := by
  have same : st.document? (Serializer.strict interp) interp (.object r)
      = (st.view interp).assemble st.depth [] (.object r) :=
    encode_eq regular.regularOn st.depth [] "" (over_reached _)
  rw [serialize_structure structured, Serializer.structured, same]
  cases gives : (st.view interp).assemble st.depth [] (.object r) with
  | error e => rfl
  | ok document =>
      rcases View.exists_of_parts structured.not_done gives with ⟨j, rfl⟩
      rfl

/-- There is a document exactly if nothing stands against it. -/
theorem exists_document_iff (regular : st.IsRegular v) :
    (∃ d, (st.view interp).assemble st.depth [] v = .ok d) ↔ st.Acceptable v := by
  constructor
  · rintro ⟨d, gives⟩
    have met : ∀ u, Relation.ReflTransGen (st.view interp).Shows v u → ¬ st.Refused u :=
      fun u met => (exists_facet_iff fun q hq => (regular.refs (reaches_of_shows met) q hq).1).mp
        (View.exists_facet_of_ok gives met).1
    have fine : ∀ u, Relation.ReflTransGen st.Leads v u → ¬ st.Refused u :=
      fun u reached => met u (regular.reaches_shows met reached)
    intro w reached
    refine ⟨fine w reached, fun cycle => ?_⟩
    -- A way back is one over what is shown, so the value would be met inside itself.
    exact (View.exists_facet_of_ok gives (regular.reaches_shows met reached)).2
      (regular.way_shows fine reached cycle)
  · intro acceptable
    have inside : ∀ q ∈ {q | Relation.ReflTransGen st.Leads v (.object q)},
        q.index < st.objects.size := fun q reached => (regular q reached).1
    have enough : st.objects.size < st.depth :=
      Nat.lt_of_lt_of_le (Nat.lt_add_of_pos_right (by decide)) (Nat.le_mul_of_pos_left _ (by omega))
    refine View.exists_document (regular.regularOn.grounded inside) (over_reached v) enough ?_
    intro u met
    rcases acceptable u (reaches_of_shows met) with ⟨fine, acyclic⟩
    refine ⟨(exists_facet_iff fun q hq =>
      (regular.refs (reaches_of_shows met) q hq).1).mpr fine, fun cycle => acyclic ?_⟩
    exact cycle.lift id fun _ _ => leads_of_shows

/-- A structured value has a text exactly if nothing that can be reached from it is
    refused or leads back to itself, and otherwise an error is raised. -/
theorem serialize_acceptance (interp : Interpretation) (structured : st.IsStructure r)
    (regular : st.IsRegular (.object r)) :
    ((∃ s, Serializer.serialize interp st (.object r) = .ok (.existing (.text s)))
        ↔ st.Acceptable (.object r))
      ∧ (¬ st.Acceptable (.object r) →
        ∃ e, Serializer.serialize interp st (.object r) = .error e) := by
  have some : (∃ d, (st.view interp).assemble st.depth [] (.object r) = .ok d)
      ↔ st.Acceptable (.object r) := exists_document_iff regular
  rw [serialize_eq_assemble structured regular]
  cases gives : (st.view interp).assemble st.depth [] (.object r) with
  | error e =>
      rw [gives] at some
      refine ⟨⟨nofun, fun acceptable => ?_⟩, fun _ => ⟨e, rfl⟩⟩
      rcases some.mpr acceptable with ⟨d, same⟩
      cases same
  | ok d =>
      have acceptable := some.mp ⟨d, gives⟩
      exact ⟨⟨fun _ => acceptable, fun _ => ⟨_, rfl⟩⟩, fun other => absurd acceptable other⟩

section

/-- A plain object that leads to an array on two ways, a map with it, and a set; and
    a set and a map that lead to each other. -/
private def pantry : Store :=
  ⟨Store.initial.objects ++ #[Object.plain [("more", .object ⟨3⟩), ("list", .object ⟨4⟩)],
    Object.ofBody (.map [(.text "x", .object ⟨4⟩), (.boolean true, .bigint 5)]),
    Object.ofBody (.array [some (.object ⟨5⟩), none]),
    Object.ofBody (.set [.text "s", .undefined]),
    Object.ofBody (.set [.object ⟨7⟩]),
    Object.ofBody (.map [(.number (Number.ofInt 1), .object ⟨6⟩)])]⟩

private theorem pantry_regular {r : Ref} (among : r ∈ [⟨2⟩, ⟨3⟩, ⟨4⟩, ⟨5⟩, ⟨6⟩, ⟨7⟩]) :
    r.index < pantry.objects.size ∧ pantry.Regular r ∧ pantry.DistinctNames r := by
  have lacks : ∀ found ∈ pantry.find? ⟨2⟩ (.text "toJSON"), False := by decide
  simp only [List.mem_cons, List.not_mem_nil, or_false] at among
  rcases among with rfl | rfl | rfl | rfl | rfl | rfl
  · refine ⟨by decide, .record rfl rfl ?_ fun found mem => (lacks found mem).elim, nofun⟩
    intro e mem
    rcases List.mem_cons.mp mem with rfl | mem
    · exact ⟨_, rfl⟩
    · rcases List.mem_singleton.mp mem with rfl
      exact ⟨_, rfl⟩
  · refine ⟨by decide, .map _ rfl, ?_⟩
    rintro entries same
    cases same
    decide
  · exact ⟨by decide, .array _ rfl, nofun⟩
  · exact ⟨by decide, .set _ rfl, nofun⟩
  · exact ⟨by decide, .set _ rfl, nofun⟩
  · refine ⟨by decide, .map _ rfl, ?_⟩
    rintro entries same
    cases same
    exact List.nodup_singleton _

/-- What the plain object leads to. -/
private def groceries : List Value :=
  [.object ⟨2⟩, .object ⟨3⟩, .object ⟨4⟩, .object ⟨5⟩, .bigint 5, .undefined, .text "s"]

private theorem groceries_acceptable {v : Value} (among : v ∈ groceries) :
    pantry.Acceptable v := by
  have shown : ∀ w ∈ groceries, ∃ facet, pantry.view Interpretation.standard w = .ok facet := by
    simp only [groceries, List.mem_cons, List.not_mem_nil, or_false]
    rintro w (rfl | rfl | rfl | rfl | rfl | rfl | rfl) <;> exact ⟨_, rfl⟩
  have known : ∀ v ∈ groceries, ∀ r ∈ v.refs, r ∈ [(⟨2⟩ : Ref), ⟨3⟩, ⟨4⟩, ⟨5⟩, ⟨6⟩, ⟨7⟩] := by
    decide
  intro w met
  have here : w ∈ groceries := mem_of_reaches (by decide) among met
  exact ⟨(exists_facet_iff fun r hr => (pantry_regular (known w here r hr)).2.1).mp (shown w here),
    not_leads_back (by decide) here⟩

/-- An array that is shared is no reason to refuse a value, and a set and a map that
    lead to each other are. -/
theorem serialize_acceptance_of_pantry :
    let interp := Interpretation.standard
    (pantry.IsRegular (.object ⟨2⟩)
        ∧ ∃ s, Serializer.serialize interp pantry (.object ⟨2⟩) = .ok (.existing (.text s)))
      ∧ pantry.IsRegular (.object ⟨6⟩)
        ∧ ∃ e, Serializer.serialize interp pantry (.object ⟨6⟩) = .error e := by
  intro interp
  have known : ∀ (values : List Value) {v : Value},
      (∀ v ∈ values, ∀ r ∈ v.refs, r ∈ [(⟨2⟩ : Ref), ⟨3⟩, ⟨4⟩, ⟨5⟩, ⟨6⟩, ⟨7⟩]
        ∧ ∀ w ∈ (pantry.get r).children, w ∈ values) →
      v ∈ values → pantry.IsRegular v := fun _ _ closed start r reached =>
    pantry_regular (closed _ (mem_of_reaches (fun v hv r hr => (closed v hv r hr).2) start reached)
      r List.mem_cons_self).1
  have bread : pantry.IsRegular (.object ⟨2⟩) := known groceries (by decide) (by decide)
  have round : pantry.IsRegular (.object ⟨6⟩) :=
    known [.object ⟨6⟩, .object ⟨7⟩] (by decide) (by decide)
  refine ⟨⟨bread, (serialize_acceptance interp (.record rfl rfl) bread).1.mpr
    (groceries_acceptable (by decide))⟩, round,
    (serialize_acceptance interp (.set rfl) round).2 fun acceptable => ?_⟩
  have way : ∀ r q : Ref, .object q ∈ (pantry.get r).children →
      pantry.Leads (.object r) (.object q) := fun r q mem => ⟨r, rfl, mem⟩
  exact (acceptable _ .refl).2
    (.tail (.single (way ⟨6⟩ ⟨7⟩ (by decide))) (way ⟨7⟩ ⟨6⟩ (by decide)))

end

end Store

end Stencil
