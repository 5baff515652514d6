import Mathlib.Logic.Relation
import Stencil.Proofs.Acceptance

/-!
# Where Values Are Written

What the document of a value contains, and what it depends on, for all values and
whatever is called for them.

A value that is written is told its key and may put another one in its place, and
getters may be called for its members. So a value inside of it is written in a store
that may have grown, and a `Site` says in which, and under which key. What is inside
of a site does not depend on the allowance, nor on the objects around it. These two
can only stand against a document, which they do if the allowance runs out, or if an
object that is around would be written again. So a document stays the same with more
allowance, and also inside of other objects than before, unless those are written
inside of it.

## Main definitions

* `Json.Holds`: The items and members of a document.
* `Site`, `Site.write`, `Site.Writes`: A value that is written.
* `Site.Inside`: The sites directly inside of another.
* `Site.Meets`: Where the contents of an object are written.
* `Site.Allows`: Objects that may be around a site.

## Theorems

* `Site.write_later`: More allowance, and other objects around.
* `Site.write_unique`: A site has one document.
* `Site.holds_of_inside`: What is inside is contained in the document.
-/

namespace Stencil

/-- One document is an item or a member of another. -/
inductive Json.Holds : Json → Json → Prop
  | item {items : List Json} {j : Json} (mem : j ∈ items) : Holds (.array items) j
  | member {members : List (String × Json)} {name : String} {j : Json}
      (mem : (name, j) ∈ members) : Holds (.object members) j

namespace Content

/-- The object that what is contributed belongs to. -/
def owner? : Content → Option Ref
  | items owner _ | members owner _ => owner
  | _ => none

/-- What getters of members are called on. -/
def receiver : Option Ref → Value
  | some r => .object r
  | none => .undefined

end Content

/-- A value that is written under a key. -/
structure Site where
  store : Store
  key : String
  value : Value

namespace Site

/-- What is contributed there. -/
def contribution (interp : Interpretation) (s : Site) : Except Thrown (Store × Content) :=
  s.store.contribution (Serializer.strict interp) interp s.key s.value

/-- The document that is written there, with an allowance and inside of some objects. -/
def write (interp : Interpretation) (n : Nat) (path : List Ref) (s : Site) :
    Except Thrown (Option Json) :=
  s.store.encode (Serializer.strict interp) interp n path s.key s.value

/-- A document is written there, given enough allowance. -/
def Writes (interp : Interpretation) (s : Site) (d : Option Json) : Prop :=
  ∃ n path, s.write interp n path = .ok d

/-- A site is directly inside of another. -/
inductive Inside (interp : Interpretation) (s : Site) : Site → Prop
  | item {st : Store} {owner : Option Ref} {values : List Value} {i : Nat} {v : Value}
      (offers : s.contribution interp = .ok (st, .items owner values))
      (there : values[i]? = some v) : Inside interp s ⟨st, indexName i, v⟩
  | member {st st' : Store} {owner : Option Ref} {fields : List (String × Slot)} {name : String}
      {slot : Slot} {v : Value} (offers : s.contribution interp = .ok (st, .members owner fields))
      (mem : (name, slot) ∈ fields)
      (reads : st.readSlot interp (Content.receiver owner) slot = .ok (st', v)) :
      Inside interp s ⟨st', name, v⟩

/-- The contents of an object are written there. -/
def Meets (interp : Interpretation) (s : Site) (r : Ref) : Prop :=
  ∃ st content, s.contribution interp = .ok (st, content) ∧ content.owner? = some r

variable {interp : Interpretation} {s t : Site} {n m : Nat} {path outer : List Ref}
  {d e : Option Json}

theorem write_succ (n : Nat) (path : List Ref) (s : Site) :
    s.write interp (n + 1) path = s.contribution interp >>= fun e =>
      e.2.encode (Serializer.strict interp) interp n path e.1 :=
  Store.encode_succ _ n path

/-- What is written for members. -/
def writeSlot (interp : Interpretation) (n : Nat) (path : List Ref) (owner : Option Ref)
    (st : Store) (name : String) (slot : Slot) : Except Thrown (Option Json) := do
  let (st, v) ← st.readSlot interp (Content.receiver owner) slot
  Site.write interp n path ⟨st, name, v⟩

theorem encode_members (n : Nat) (path : List Ref) (st : Store) (owner : Option Ref)
    (fields : List (String × Slot)) :
    Content.encode (Serializer.strict interp) interp n path st (.members owner fields)
      = Store.enter path owner >>= fun inner =>
        Store.encodeMembers (writeSlot interp n inner owner st) fields >>= fun members =>
          .ok (some (.object members)) := by
  cases owner <;> rfl

/-- There is some allowance for every document. -/
theorem depth_pos (st : Store) : 0 < st.depth :=
  Nat.mul_pos (Nat.succ_pos _) (Nat.succ_pos _)

/-! ### Items and members -/

section

variable {encode encode' : String → Value → Except Thrown (Option Json)}
  {encodeSlot encodeSlot' : String → Slot → Except Thrown (Option Json)} {values : List Value}
  {fields : List (String × Slot)} {items : List Json} {members : List (String × Json)}

/-- Where items have documents, these are what the array is made of. -/
theorem item_of_encodeItems {i : Nat} (gives : Store.encodeItems encode i values = .ok items)
    {k : Nat} {v : Value} (there : values[k]? = some v) :
    ∃ d, encode (indexName (i + k)) v = .ok d ∧ items[k]? = some (d.getD .null) := by
  induction values generalizing i k items with
  | nil => cases there
  | cons w values ih =>
      rcases ok_of_bind gives with ⟨d, first, gives⟩
      rcases ok_of_bind gives with ⟨rest, others, same⟩
      cases same
      cases k with
      | zero =>
          cases there
          exact ⟨d, first, rfl⟩
      | succ k =>
          rcases ih others there with ⟨d, here, listed⟩
          exact ⟨d, by rwa [Nat.add_right_comm] at here, listed⟩

/-- Items that have the same documents make the same array. -/
theorem encodeItems_of {i : Nat} (gives : Store.encodeItems encode i values = .ok items)
    (same : ∀ k v, values[k]? = some v → ∀ d, encode (indexName (i + k)) v = .ok d →
      encode' (indexName (i + k)) v = .ok d) : Store.encodeItems encode' i values = .ok items := by
  induction values generalizing i items with
  | nil => exact gives
  | cons w values ih =>
      rcases ok_of_bind gives with ⟨d, first, gives⟩
      rcases ok_of_bind gives with ⟨rest, others, made⟩
      cases made
      have here : encode' (indexName i) w = .ok d := same 0 w rfl d first
      have later : Store.encodeItems encode' (i + 1) values = .ok rest :=
        ih others fun k v there d gives => by
          have there' : (w :: values)[k + 1]? = some v := there
          have gives' : encode (indexName (i + (k + 1))) v = .ok d := by
            rwa [← Nat.add_assoc, Nat.add_right_comm]
          have := same (k + 1) v there' d gives'
          rwa [← Nat.add_assoc, Nat.add_right_comm] at this
      rw [Store.encodeItems, here, later]
      rfl

/-- Where members have documents, these are what the object is made of. -/
theorem member_of_encodeMembers (gives : Store.encodeMembers encodeSlot fields = .ok members)
    {name : String} {slot : Slot} (mem : (name, slot) ∈ fields) :
    ∃ d, encodeSlot name slot = .ok d ∧ ∀ j ∈ d, (name, j) ∈ members := by
  induction fields generalizing members with
  | nil => cases mem
  | cons e fields ih =>
      rcases e with ⟨known, other⟩
      rcases ok_of_bind gives with ⟨d, first, gives⟩
      rcases ok_of_bind gives with ⟨rest, others, made⟩
      rcases List.mem_cons.mp mem with same | mem
      · cases same
        refine ⟨d, first, fun j hj => ?_⟩
        cases hj
        cases made
        exact List.mem_cons_self
      · rcases ih others mem with ⟨d', here, listed⟩
        refine ⟨d', here, fun j hj => ?_⟩
        cases d <;> cases made
        · exact listed j hj
        · exact List.mem_cons_of_mem _ (listed j hj)

/-- Members that have the same documents make the same object. -/
theorem encodeMembers_of (gives : Store.encodeMembers encodeSlot fields = .ok members)
    (same : ∀ name slot, (name, slot) ∈ fields → ∀ d, encodeSlot name slot = .ok d →
      encodeSlot' name slot = .ok d) : Store.encodeMembers encodeSlot' fields = .ok members := by
  induction fields generalizing members with
  | nil => exact gives
  | cons e fields ih =>
      rcases e with ⟨name, slot⟩
      rcases ok_of_bind gives with ⟨d, first, gives⟩
      rcases ok_of_bind gives with ⟨rest, others, made⟩
      have here := same name slot List.mem_cons_self d first
      have later := ih others fun name slot mem =>
        same name slot (List.mem_cons_of_mem _ mem)
      rw [Store.encodeMembers, here, later]
      exact made

end

/-! ### Documents -/

/-- Objects that may be around a site without harm: they are around it otherwise too, or
    their contents are not written inside of it. -/
def Allows (interp : Interpretation) (s : Site) (path outer : List Ref) : Prop :=
  ∀ q ∈ outer, q ∈ path ∨ ∀ t, Relation.ReflTransGen (Inside interp) s t → ¬ t.Meets interp q

theorem Allows.inside (allows : s.Allows interp path outer) (inside : Inside interp s t) :
    t.Allows interp path outer :=
  fun q hq => (allows q hq).imp id fun none u way => none u (.head inside way)

/-- The object whose contents are written at a site is met there, so it is not among those
    around it already, and it can be put around what is inside. -/
theorem Allows.enter (allows : s.Allows interp path outer) {st : Store} {content : Content}
    {inner : List Ref} (offers : s.contribution interp = .ok (st, content))
    (entered : Store.enter path content.owner? = .ok inner) :
    ∃ inner', Store.enter outer content.owner? = .ok inner'
      ∧ ∀ t, Inside interp s t → t.Allows interp inner inner' := by
  rcases View.enter_eq_ok entered with ⟨none, rfl⟩ | ⟨r, owned, absent, rfl⟩
  · exact ⟨outer, by rw [none]; rfl, fun t inside => allows.inside inside⟩
  · have absent' : r ∉ outer := by
      intro mem
      rcases allows r mem with mem | none
      · exact absent mem
      · exact none s .refl ⟨st, content, offers, owned⟩
    refine ⟨r :: outer, by rw [owned, Store.enter, if_neg absent'], fun t inside q hq => ?_⟩
    rcases List.mem_cons.mp hq with rfl | hq
    · exact .inl List.mem_cons_self
    · exact (allows.inside inside q hq).imp (List.mem_cons_of_mem _) id

/-- A document stays with more allowance, and inside of other objects that are not met
    in it. -/
theorem write_later (gives : s.write interp n path = .ok d) (le : n ≤ m)
    (allows : s.Allows interp path outer) : s.write interp m outer = .ok d := by
  -- By the allowance, since what is inside is written with less of it and inside of more objects.
  induction n generalizing s m path outer d with
  | zero => cases gives
  | succ n ih =>
      rcases Nat.exists_eq_add_of_le' (Nat.le_trans (Nat.succ_le_succ (Nat.zero_le n)) le) with
        ⟨m, rfl⟩
      rw [write_succ] at gives ⊢
      rcases ok_of_bind gives with ⟨⟨st, content⟩, offers, gives⟩
      rw [offers]
      change content.encode _ _ _ _ _ = _
      cases content with
      | nothing => exact gives
      | leaf j => exact gives
      | items owner values =>
          rcases ok_of_bind gives with ⟨inner, entered, gives⟩
          rcases ok_of_bind gives with ⟨items, each, made⟩
          rcases allows.enter offers entered with ⟨inner', entered', around⟩
          have each' : Store.encodeItems
              (Store.encode (Serializer.strict interp) interp m st inner') 0 values = .ok items :=
            encodeItems_of each fun k v there d gives => by
              have inside : Inside interp s ⟨st, indexName (0 + k), v⟩ := by
                rw [Nat.zero_add]
                exact .item offers there
              exact ih (s := ⟨st, indexName (0 + k), v⟩) gives (Nat.le_of_succ_le_succ le)
                (around _ inside)
          change Store.enter outer owner = _ at entered'
          rw [Content.encode, entered']
          change Store.encodeItems _ 0 values >>= _ = _
          rw [each']
          exact made
      | members owner fields =>
          rw [encode_members] at gives ⊢
          rcases ok_of_bind gives with ⟨inner, entered, gives⟩
          rcases ok_of_bind gives with ⟨members, each, made⟩
          rcases allows.enter offers entered with ⟨inner', entered', around⟩
          have each' : Store.encodeMembers (writeSlot interp m inner' owner st) fields
              = .ok members :=
            encodeMembers_of each fun name slot mem d gives => by
              rcases ok_of_bind gives with ⟨⟨st', v⟩, reads, gives⟩
              rw [writeSlot, reads]
              exact ih gives (Nat.le_of_succ_le_succ le) (around _ (.member offers mem reads))
          change Store.enter outer owner = _ at entered'
          rw [entered']
          change Store.encodeMembers _ fields >>= _ = _
          rw [each']
          exact made

/-- Inside of fewer objects a document stays. -/
theorem write_mono (gives : s.write interp n path = .ok d) (le : n ≤ m) (sub : outer ⊆ path) :
    s.write interp m outer = .ok d :=
  write_later gives le fun _ hq => .inl (sub hq)

/-- There is one document at a site, whatever is around it. -/
theorem write_unique (gives : s.write interp n path = .ok d)
    (gives' : s.write interp m outer = .ok e) : d = e := by
  -- Both are the document with the larger allowance and nothing around.
  have here := write_mono gives (Nat.le_max_left n m) (List.nil_subset path)
  have there := write_mono gives' (Nat.le_max_right n m) (List.nil_subset outer)
  rw [here] at there
  exact Except.ok.inj there

/-- The document of what is directly inside is an item or a member. -/
theorem holds_of_inside_one (gives : s.write interp n path = .ok d) (inside : Inside interp s t) :
    ∃ j, d = some j ∧ ∃ m inner e, t.write interp m inner = .ok e ∧ ∀ i ∈ e, j.Holds i := by
  cases n with
  | zero => cases gives
  | succ n =>
      rw [write_succ] at gives
      cases inside with
      | @item st owner values i v offers there =>
          rw [offers] at gives
          change Content.encode _ _ n path st (.items owner values) = _ at gives
          rcases ok_of_bind gives with ⟨inner, -, gives⟩
          rcases ok_of_bind gives with ⟨items, each, made⟩
          rcases item_of_encodeItems each there with ⟨e, here, listed⟩
          rw [Nat.zero_add] at here
          cases made
          refine ⟨_, rfl, n, inner, e, here, fun i hi => .item ?_⟩
          cases hi
          exact List.mem_of_getElem? listed
      | @member st _ owner fields _ _ _ offers mem reads =>
          rw [offers] at gives
          change Content.encode _ _ n path st (.members owner fields) = _ at gives
          rw [encode_members] at gives
          rcases ok_of_bind gives with ⟨inner, -, gives⟩
          rcases ok_of_bind gives with ⟨members, each, made⟩
          rcases member_of_encodeMembers each mem with ⟨e, here, listed⟩
          rw [writeSlot, reads] at here
          cases made
          exact ⟨_, rfl, n, inner, e, here, fun i hi => .member (listed i hi)⟩

/-- What is inside has a document of its own, which is contained in the whole. -/
theorem holds_of_inside (gives : s.write interp n path = .ok d)
    (inside : Relation.ReflTransGen (Inside interp) s t) :
    ∃ m inner e, t.write interp m inner = .ok e
      ∧ ∀ i ∈ e, ∃ j, d = some j ∧ Relation.ReflTransGen Json.Holds j i := by
  induction inside with
  | refl => exact ⟨n, path, d, gives, fun i hi => ⟨i, hi, .refl⟩⟩
  | @tail u t _ last ih =>
      rcases ih with ⟨m, inner, e, here, contained⟩
      rcases holds_of_inside_one here last with ⟨j, rfl, m', inner', e', there, holds⟩
      rcases contained j rfl with ⟨whole, same, way⟩
      exact ⟨m', inner', e', there, fun i hi => ⟨whole, same, way.tail (holds i hi)⟩⟩

end Site

end Stencil
