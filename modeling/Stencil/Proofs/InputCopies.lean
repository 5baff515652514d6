import Stencil.Proofs.GraphCopies

/-!
# Copies of What Callers Pass

A deep copy of plain data has nothing in common with what it was made from.

Callers have plain data in more forms than storing leaves it in: elements of an
array may be missing, objects may be frozen, and nothing is said about the keys
of a map. So a copy need not have the same content. But what matters when
somebody writes to the original afterwards is only where the copy is, and all
of it is new: `copy_input` says that everything that was added is plain data
which refers to nothing but what was added.

This is shown of whatever a copy that succeeds comes to. At all times, the
copies known so far are at new addresses. Between two times, the objects that
were added are finished, while those that are still being filled were added
before.

## Main definitions

* `Object.IsInput`, `Store.IsInput`: Plain data, as callers have it.
* `Store.added`: The addresses that a store has more than another one.
* `Copying.Fresh`, `Copying.Adds`: What holds at one time, and between two.

## Theorems

* `Object.IsInput.withParts`: Plain data that is filled with other values.
* `Store.shell_input`: The shell of plain data holds nothing else.
* `Store.copy_input`: A copy of plain data is new.
-/

namespace Stencil

/-- Plain data as callers have it: records of values, and arrays, maps, sets and
    dates without any properties of their own. -/
inductive Object.IsInput : Object → Prop
  | record (o : Object) (body : o.body = .record) (plain : o.isPlain = true)
      (data : ∀ e ∈ o.fields, ∃ v, e.2.slot = .data v) : IsInput o
  /-- Elements may be missing. -/
  | array (elements : List (Option Value)) (integrity : Integrity) :
      IsInput (bare (.array elements) integrity)
  | map (entries : List (Value × Value)) (integrity : Integrity) :
      IsInput (bare (.map entries) integrity)
  | set (elements : List Value) (integrity : Integrity) : IsInput (bare (.set elements) integrity)
  | date (instant : Option Instant) (integrity : Integrity) :
      IsInput (bare (.date instant) integrity)

/-- A bare object under other addresses is bare. -/
theorem Object.rename_bare {f : Ref → Ref} {b : Body} {integrity : Integrity}
    (family : (b.rename f).family = b.family) :
    (bare b integrity).rename f = bare (b.rename f) integrity := by
  simp only [rename, bare, ofBody, Prototype.rename, List.map_nil, family]

/-! ### What collections are filled with -/

theorem Value.refs_asKey (v : Value) : v.asKey.refs = v.refs := by
  cases v <;> rfl

/-- A map with an entry set refers to what it did, and to the key and the value. -/
theorem mem_refs_setEntry {key v : Value} {entries : List (Value × Value)} {q : Ref}
    (mem : q ∈ (Body.map (setEntry key v entries)).refs) :
    q ∈ key.refs ∨ q ∈ v.refs ∨ q ∈ (Body.map entries).refs := by
  -- The key may be there already, and then its value is replaced.
  induction entries with
  | nil =>
      rcases List.mem_flatMap.mp mem with ⟨e, he, hq⟩
      rcases List.mem_singleton.mp he with rfl
      rcases List.mem_append.mp hq with here | here
      · exact .inl (Value.refs_asKey key ▸ here)
      · exact .inr (.inl here)
  | cons e entries ih =>
      have first : (Body.map (e :: entries)).refs
          = (e.1.refs ++ e.2.refs) ++ (Body.map entries).refs := rfl
      rw [setEntry] at mem
      rw [first]
      split at mem
      · rcases List.mem_append.mp mem with here | rest
        · rcases List.mem_append.mp here with known | new
          · exact .inr (.inr (List.mem_append_left _ (List.mem_append_left _ known)))
          · exact .inr (.inl new)
        · exact .inr (.inr (List.mem_append_right _ rest))
      · rcases List.mem_append.mp mem with here | rest
        · exact .inr (.inr (List.mem_append_left _ here))
        · rcases ih rest with new | new | old
          · exact .inl new
          · exact .inr (.inl new)
          · exact .inr (.inr (List.mem_append_right _ old))

/-- A map that is filled with pairs refers to nothing else. -/
theorem mem_refs_entriesOf {pairs : List (Value × Value)} {q : Ref}
    (mem : q ∈ (Body.map (entriesOf pairs)).refs) : ∃ e ∈ pairs, q ∈ e.1.refs ++ e.2.refs := by
  -- For the induction, the map that is filled need not be empty.
  have filled : ∀ (pairs known : List (Value × Value)),
      q ∈ (Body.map (pairs.foldl (fun entries e => setEntry e.1 e.2 entries) known)).refs →
      (∃ e ∈ pairs, q ∈ e.1.refs ++ e.2.refs) ∨ q ∈ (Body.map known).refs := by
    intro pairs
    induction pairs with
    | nil => exact fun known mem => .inr mem
    | cons e pairs ih =>
        intro known mem
        rcases ih _ mem with ⟨d, hd, hq⟩ | set
        · exact .inl ⟨d, List.mem_cons_of_mem _ hd, hq⟩
        · rcases mem_refs_setEntry set with new | new | old
          · exact .inl ⟨e, List.mem_cons_self, List.mem_append_left _ new⟩
          · exact .inl ⟨e, List.mem_cons_self, List.mem_append_right _ new⟩
          · exact .inr old
  rcases filled pairs [] mem with some | none
  · exact some
  · cases none

theorem mem_of_mem_pairUp {vs : List Value} {e : Value × Value} (mem : e ∈ pairUp vs) :
    e.1 ∈ vs ∧ e.2 ∈ vs := by
  induction vs using pairUp.induct with
  | case1 k v vs ih =>
      rw [pairUp] at mem
      rcases List.mem_cons.mp mem with rfl | mem
      · exact ⟨List.mem_cons_self, List.mem_cons_of_mem _ List.mem_cons_self⟩
      · have rest := ih mem
        exact ⟨List.mem_cons_of_mem _ (List.mem_cons_of_mem _ rest.1),
          List.mem_cons_of_mem _ (List.mem_cons_of_mem _ rest.2)⟩
  | case2 vs few =>
      rw [pairUp] at mem
      · cases mem
      · exact few

/-- A set that is filled with values refers to nothing else. -/
theorem mem_refs_elementsOf {vs : List Value} {q : Ref}
    (mem : q ∈ (Body.set (elementsOf vs)).refs) : ∃ v ∈ vs, q ∈ v.refs := by
  have filled : ∀ vs known : List Value,
      q ∈ (Body.set (vs.foldl (fun elements v => addElement v elements) known)).refs →
      (∃ v ∈ vs, q ∈ v.refs) ∨ q ∈ (Body.set known).refs := by
    intro vs
    induction vs with
    | nil => exact fun known mem => .inr mem
    | cons v vs ih =>
        intro known mem
        rcases ih _ mem with ⟨w, hw, hq⟩ | added
        · exact .inl ⟨w, List.mem_cons_of_mem _ hw, hq⟩
        · change q ∈ (Body.set (addElement v known)).refs at added
          rw [addElement] at added
          split at added
          · exact .inr added
          · rcases List.mem_flatMap.mp added with ⟨w, hw, hq⟩
            rcases List.mem_append.mp hw with old | new
            · exact .inr (List.mem_flatMap.mpr ⟨w, old, hq⟩)
            · rw [List.mem_singleton.mp new, Value.refs_asKey] at hq
              exact .inl ⟨v, List.mem_cons_self, hq⟩
  rcases filled vs [] mem with some | none
  · exact some
  · cases none

/-- Properties that hold values hold others after they were filled with enough of
    them. -/
theorem Keyed.data_withParts {fields : Keyed Property}
    (data : ∀ e ∈ fields, ∃ v, e.2.slot = .data v) {vs : List Value}
    (enough : fields.parts.length ≤ vs.length) :
    ∀ e ∈ (Keyed.withParts fields vs).1, ∃ v ∈ vs, e.2.slot = .data v := by
  induction fields generalizing vs with
  | nil => exact fun _ mem => absurd mem List.not_mem_nil
  | cons e fields ih =>
      rcases e with ⟨key, p⟩
      rcases data _ List.mem_cons_self with ⟨old, slot⟩
      have slot : p.slot = .data old := slot
      have parts : Keyed.parts ((key, p) :: fields) = old :: Keyed.parts fields := by
        change p.parts ++ Keyed.parts fields = _
        rw [Property.parts, slot]
        rfl
      rw [parts, List.length_cons] at enough
      cases vs with
      | nil => cases enough
      | cons v vs =>
          have filled : p.withParts (v :: vs) = ({ p with slot := .data v }, vs) := by
            simp only [Property.withParts, slot]
          intro d hd
          rw [Keyed.withParts, filled] at hd
          rcases List.mem_cons.mp hd with rfl | hd
          · exact ⟨v, List.mem_cons_self, rfl⟩
          · have more := fun e he => data e (List.mem_cons_of_mem _ he)
            rcases ih more (Nat.le_of_succ_le_succ enough) d hd with ⟨w, hw, same⟩
            exact ⟨w, List.mem_cons_of_mem _ hw, same⟩

/-! ### Plain data -/

namespace Object

/-- What an object holds is among what it refers to. -/
theorem mem_refs_of_mem_held {o : Object} {q : Ref} (mem : q ∈ o.held) : q ∈ o.refs := by
  -- What is held is what properties and the body refer to. An object also refers to its
  -- prototype, and to what computes properties.
  rw [held_eq] at mem
  rcases List.mem_append.mp mem with field | body
  · rcases List.mem_flatMap.mp field with ⟨v, hv, hq⟩
    rcases List.mem_flatMap.mp hv with ⟨e, he, part⟩
    refine List.mem_append_left _ (List.mem_append_right _ (List.mem_flatMap.mpr ⟨e, he, ?_⟩))
    change v ∈ e.2.parts at part
    rw [Property.parts] at part
    split at part
    · next w slot =>
        rw [List.mem_singleton.mp part] at hq
        rw [slot]
        exact hq
    · cases part
  · refine List.mem_append_right _ ?_
    cases kind : o.body with
    | array elements =>
        rw [kind, Body.parts, List.flatMap_map] at body
        exact body
    | map entries =>
        rw [kind] at body
        rcases List.mem_flatMap.mp body with ⟨v, hv, hq⟩
        rcases List.mem_flatMap.mp hv with ⟨e, he, part⟩
        refine List.mem_flatMap.mpr ⟨e, he, ?_⟩
        rcases List.mem_cons.mp part with rfl | part
        · exact List.mem_append_left _ hq
        · rcases List.mem_singleton.mp part with rfl
          exact List.mem_append_right _ hq
    | set elements =>
        rw [kind] at body
        exact body
    | template t =>
        rw [kind, Body.parts, List.flatMap_cons, List.flatMap_map] at body
        exact List.mem_append_right _ body
    | _ =>
        rw [kind] at body
        cases body

namespace IsInput

variable {o : Object}

theorem isFunction (input : o.IsInput) : o.isFunction = false := by
  rw [Object.isFunction]
  cases input with
  | record _ body _ _ => rw [body]
  | _ => rfl

theorem noTemplate (input : o.IsInput) (t : Template) : o.body ≠ .template t := by
  cases input with
  | record _ body _ _ => exact fun same => nomatch body.symm.trans same
  | _ => exact nofun

/-- Nothing stands between plain data and its family. -/
theorem prototype (input : o.IsInput) : o.prototype = .none
    ∨ ∃ f, o.prototype = .family f ∧ f.isA (.template .prompt) = false := by
  cases input with
  | record _ _ plain _ =>
      rcases isPlain_iff.mp plain with family | none
      · exact .inr ⟨_, family, rfl⟩
      · exact .inl none
  | array elements integrity => exact .inr ⟨.array, rfl, rfl⟩
  | map entries integrity => exact .inr ⟨.map, rfl, rfl⟩
  | set elements integrity => exact .inr ⟨.set, rfl, rfl⟩
  | date instant integrity => exact .inr ⟨.date, rfl, rfl⟩

/-- Plain data that is filled with as many values as it holds is plain data, and
    refers to nothing but these values. -/
theorem withParts (input : o.IsInput) {vs : List Value} (length : vs.length = o.parts.length) :
    (o.withParts vs).IsInput ∧ ∀ q ∈ (o.withParts vs).refs, ∃ v ∈ vs, q ∈ v.refs := by
  cases input with
  | record _ body plain data =>
      -- A record has no parts besides its properties, so all values go there.
      have enough : o.fields.parts.length ≤ vs.length := by
        rw [length, parts, List.length_append]
        exact Nat.le_add_right _ _
      have filled := Keyed.data_withParts data enough
      have empty : (o.withParts vs).body = .record := by
        simp only [Object.withParts, body, Body.withParts]
      refine ⟨.record _ empty plain fun e he => ?_, fun q hq => ?_⟩
      · rcases filled e he with ⟨v, -, slot⟩
        exact ⟨v, slot⟩
      · rw [refs, empty] at hq
        rcases List.mem_append.mp hq with hq | none
        · rcases List.mem_append.mp hq with above | field
          · change q ∈ o.prototype.refs at above
            rcases isPlain_iff.mp plain with family | none
            · rw [family] at above
              cases above
            · rw [none] at above
              cases above
          · rcases List.mem_flatMap.mp field with ⟨e, he, hq⟩
            rcases filled e he with ⟨v, hv, slot⟩
            rw [slot] at hq
            exact ⟨v, hv, hq⟩
        · cases none
  | array elements integrity =>
      refine ⟨.array (vs.map some) integrity, fun q hq => ?_⟩
      change q ∈ (Body.array (vs.map some)).refs at hq
      rw [Body.refs, List.flatMap_map] at hq
      exact List.mem_flatMap.mp hq
  | map entries integrity =>
      refine ⟨.map (entriesOf (pairUp vs)) integrity, fun q hq => ?_⟩
      rcases mem_refs_entriesOf hq with ⟨e, he, hq⟩
      have pair := mem_of_mem_pairUp he
      rcases List.mem_append.mp hq with hq | hq
      · exact ⟨e.1, pair.1, hq⟩
      · exact ⟨e.2, pair.2, hq⟩
  | set elements integrity =>
      exact ⟨.set (elementsOf vs) integrity, fun q hq => mem_refs_elementsOf hq⟩
  | date instant integrity =>
      exact ⟨.date instant integrity, fun q hq => absurd hq List.not_mem_nil⟩

end IsInput

end Object

namespace Store

/-- Plain data at the addresses of a closed set. -/
structure InputOn (st : Store) (S : Set Ref) : Prop where
  input : ∀ r ∈ S, (st.get r).IsInput
  closed : ∀ r ∈ S, ∀ q ∈ (st.get r).refs, q ∈ S
  inside : ∀ r ∈ S, r.index < st.objects.size

/-- A value that is plain data, and all that can be reached from it. -/
def IsInput (st : Store) (v : Value) : Prop :=
  ∃ S, st.InputOn S ∧ ∀ q ∈ v.refs, q ∈ S

/-- The addresses that a store has more than another one. -/
def added (st st' : Store) : Set Ref :=
  {q | st.objects.size ≤ q.index ∧ q.index < st'.objects.size}

variable {interp : Interpretation} {st st' : Store} {r : Ref} {v w : Value} {S : Set Ref}

/-- Plain data counts as no template. -/
theorem not_inherits_of_isInput (input : (st.get r).IsInput) :
    st.inherits r (.template .prompt) = false := by
  rcases input.prototype with none | ⟨f, family, other⟩
  · exact inherits_of_none none
  · rw [inherits_of_family family, other]

theorem IsInput.templateRef?_eq_none (input : st.IsInput v) : st.templateRef? v = none := by
  rcases input with ⟨S, on, reached⟩
  cases v with
  | object r =>
      rw [templateRef?, not_inherits_of_isInput (on.input r (reached r List.mem_cons_self))]
      rfl
  | _ => rfl

/-- An object of plain data that refers to no other. -/
theorem isInput_of_leaf (inside : r.index < st.objects.size) (input : (st.get r).IsInput)
    (leaf : (st.get r).refs = []) : st.IsInput (.object r) := by
  refine ⟨{r}, ⟨?_, ?_, ?_⟩, fun q hq => List.mem_singleton.mp hq⟩
  · rintro _ rfl
    exact input
  · rintro _ rfl q hq
    rw [leaf] at hq
    cases hq
  · rintro _ rfl
    exact inside

/-- Plain data remains so where its objects stay. -/
theorem InputOn.of_same (on : st.InputOn S) (size_le : st.objects.size ≤ st'.objects.size)
    (same : ∀ r ∈ S, st'.get r = st.get r) : st'.InputOn S where
  input r hr := same r hr ▸ on.input r hr
  closed r hr := same r hr ▸ on.closed r hr
  inside r hr := Nat.lt_of_lt_of_le (on.inside r hr) size_le

/-! ### Shells -/

/-- The shell of plain data is plain data that holds nothing but what the object
    refers to, and finding it changes nothing. -/
theorem shell_input (input : (st.get r).IsInput) {shell : Shell}
    (h : st.shell interp r = .ok (st', shell)) :
    st' = st ∧ ∃ o : Object, shell = .object o ∧ o.IsInput
      ∧ ∀ v ∈ o.parts, ∀ q ∈ v.refs, q ∈ (st.get r).refs := by
  generalize there : st.get r = o at input
  cases input with
  | record _ body plain data =>
      -- Records of values can be copied whatever else is said of them.
      have copyable : st.Copyable r := by
        refine .record (there ▸ body) ?_
        rcases Object.isPlain_iff.mp plain with family | none
        · exact .family (there ▸ family) rfl
        · exact .none (there ▸ none)
      rw [shell_eq copyable, there] at h
      cases h
      refine ⟨rfl, o.unlocked, rfl, .record _ body plain data, fun v hv q hq => ?_⟩
      exact Object.mem_refs_of_mem_held (List.mem_flatMap.mpr ⟨v, hv, hq⟩)
  | array elements integrity =>
      rw [shell_array (genuine_of_bare there), visit_holes there] at h
      cases h
      refine ⟨rfl, _, rfl, .array _ {}, fun v hv q hq => ?_⟩
      rcases List.mem_map.mp hv with ⟨given, hgiven, rfl⟩
      rcases List.mem_map.mp hgiven with ⟨w, hw, rfl⟩
      rcases List.mem_map.mp hw with ⟨element, mem, rfl⟩
      -- Where an element is missing nothing is found, which refers to nothing.
      cases element with
      | none => cases hq
      | some w => exact List.mem_flatMap.mpr ⟨some w, mem, hq⟩
  | map entries integrity =>
      rw [shell_map (genuine_of_bare there)] at h
      cases h
      refine ⟨rfl, _, rfl, .map entries {}, fun v hv q hq => ?_⟩
      exact Object.mem_refs_of_mem_held (o := .bare (.map entries) integrity)
        (List.mem_flatMap.mpr ⟨v, hv, hq⟩)
  | set elements integrity =>
      rw [shell_set (genuine_of_bare there)] at h
      cases h
      refine ⟨rfl, _, rfl, .set elements {}, fun v hv q hq => ?_⟩
      exact List.mem_flatMap.mpr ⟨v, hv, hq⟩
  | date instant integrity =>
      rw [shell_date (genuine_of_bare there)] at h
      rcases ok_of_bind h with ⟨told, -, same⟩
      cases same
      exact ⟨rfl, _, rfl, .date told {}, fun v hv => nomatch hv⟩

end Store

/-! ### Copying -/

namespace Copying

/-- The copies known at some time are at addresses that were added. -/
structure Fresh (base : Store) (state : Copying) : Prop where
  grown : base.Extends state.store
  copies : ∀ e ∈ state.copies, e.2 ∈ base.added state.store

/-- Between two times, what was added is plain data that refers to what was added
    since the start, and so are some addresses. -/
structure Adds (base : Store) (state state' : Copying) (refs : List Ref) : Prop where
  fresh : Fresh base state'
  grown : state.store.Extends state'.store
  finished : ∀ r ∈ state.store.added state'.store,
    (state'.store.get r).IsInput ∧ ∀ q ∈ (state'.store.get r).refs, q ∈ base.added state'.store
  held : ∀ q ∈ refs, q ∈ base.added state'.store

variable {interp : Interpretation} {base : Store} {S : Set Ref} {state state' state'' : Copying}
  {refs refs' : List Ref} {v w : Value}

theorem Adds.refl (fresh : Fresh base state) (held : ∀ q ∈ refs, q ∈ base.added state.store) :
    Adds base state state refs where
  fresh := fresh
  grown := .refl _
  finished _ hr := absurd hr.2 (Nat.not_lt_of_le hr.1)
  held := held

theorem Adds.trans (first : Adds base state state' refs) (second : Adds base state' state'' refs') :
    Adds base state state'' (refs ++ refs') where
  fresh := second.fresh
  grown := first.grown.trans second.grown
  finished r hr := by
    by_cases early : r.index < state'.store.objects.size
    · rcases first.finished r ⟨hr.1, early⟩ with ⟨input, among⟩
      rw [second.grown.get_eq r early]
      refine ⟨input, fun q hq => ?_⟩
      exact ⟨(among q hq).1, Nat.lt_of_lt_of_le (among q hq).2 second.grown.size_le⟩
    · exact second.finished r ⟨Nat.le_of_not_lt early, hr.2⟩
  held q hq := by
    rcases List.mem_append.mp hq with here | there
    · have early := first.held q here
      exact ⟨early.1, Nat.lt_of_lt_of_le early.2 second.grown.size_le⟩
    · exact second.held q there

/-- Copying values one after the other adds plain data, if copying each does. -/
theorem adds_each {copy : Copying → Value → Except Thrown (Copying × Value)}
    (adds : ∀ {state state' : Copying} {v w : Value}, Fresh base state → (∀ q ∈ v.refs, q ∈ S) →
      copy state v = .ok (state', w) → Adds base state state' w.refs)
    (fresh : Fresh base state) {vs ws : List Value} (reached : ∀ v ∈ vs, ∀ q ∈ v.refs, q ∈ S)
    (h : each copy state vs = .ok (state', ws)) :
    Adds base state state' (ws.flatMap Value.refs) ∧ ws.length = vs.length := by
  -- The copies of the first values are known when the rest is copied.
  induction vs generalizing state ws with
  | nil =>
      cases h
      exact ⟨.refl fresh fun _ mem => absurd mem List.not_mem_nil, rfl⟩
  | cons v vs ih =>
      rcases ok_of_bind h with ⟨⟨first, w⟩, copied, next⟩
      rcases ok_of_bind next with ⟨⟨last, rest⟩, others, same⟩
      cases same
      have here := adds fresh (reached v List.mem_cons_self) copied
      rcases ih here.fresh (fun u hu => reached u (List.mem_cons_of_mem _ hu)) others with
        ⟨there, length⟩
      refine ⟨here.trans there, ?_⟩
      rw [List.length_cons, List.length_cons, length]

/-- The shell is finished once it was filled with copies of what it holds. -/
theorem adds_filled (fresh : Fresh base state) {o : Object} {r : Ref} {vs : List Value}
    (input : (o.withParts vs).IsInput)
    (among : ∀ q ∈ (o.withParts vs).refs, ∃ v ∈ vs, q ∈ v.refs)
    (adds : Adds base
      { store := state.store.push o, copies := (r, state.store.next) :: state.copies } state'
      (vs.flatMap Value.refs)) :
    Adds base state
      { state' with store := state'.store.write state.store.next (o.withParts vs) }
      [state.store.next] := by
  have size : (state'.store.write state.store.next (o.withParts vs)).objects.size
      = state'.store.objects.size := Store.size_write
  have inside : state.store.next.index < state'.store.objects.size :=
    Nat.lt_of_lt_of_le (Store.index_next_lt state.store o) adds.grown.size_le
  have grown : state.store.Extends (state'.store.write state.store.next (o.withParts vs)) :=
    ((Store.extends_push state.store o).trans adds.grown).write (Nat.le_refl _) _
  refine ⟨⟨fresh.grown.trans grown, fun e he => ?_⟩, grown, fun q hq => ?_, fun q hq => ?_⟩
  · rw [Store.added, size]
    exact adds.fresh.copies e he
  · rw [Store.added, size] at hq
    rw [Store.added, size]
    by_cases same : q = state.store.next
    · rw [same, Store.get_write_self inside]
      refine ⟨input, fun p hp => ?_⟩
      rcases among p hp with ⟨v, hv, hp⟩
      exact adds.held p (List.mem_flatMap.mpr ⟨v, hv, hp⟩)
    · rw [Store.get_write_ne same]
      -- Whatever is not the shell was added after it.
      refine adds.finished q ⟨?_, hq.2⟩
      rw [Store.size_push]
      have apart : q.index ≠ state.store.objects.size := fun h => same (Ref.eq_of_index h)
      have above : state.store.objects.size ≤ q.index := hq.1
      omega
  · rw [List.mem_singleton.mp hq, Store.added, size]
    exact ⟨fresh.grown.size_le, inside⟩

/-- Copying plain data adds plain data. -/
theorem adds_value (on : base.InputOn S) {bound : Nat} (fresh : Fresh base state)
    (reached : ∀ q ∈ v.refs, q ∈ S) (h : value interp bound state v = .ok (state', w)) :
    Adds base state state' w.refs := by
  -- By induction on the bound of depth. The shell is known before what it holds is
  -- copied, so that an object can contain itself.
  induction bound generalizing state state' v w with
  | zero => cases h
  | succ bound ih =>
      cases v with
      | object r =>
          have hr := reached r List.mem_cons_self
          have there : state.store.get r = base.get r := fresh.grown.get_eq r (on.inside r hr)
          have input : (state.store.get r).IsInput := there ▸ on.input r hr
          cases Store.copyOf_value h with
          | function callable =>
              rw [input.isFunction] at callable
              cases callable
          | known object found =>
              refine .refl fresh fun q hq => ?_
              rw [List.mem_singleton.mp hq]
              exact fresh.copies _ (mem_of_lookup found)
          | finished object found =>
              rcases Store.shell_input input found with ⟨-, o, same, -⟩
              cases same
          | @filled st o filled vs object found copied =>
              rcases Store.shell_input input found with ⟨rfl, _, same, kind, among⟩
              cases same
              have start : Fresh base
                  { store := state.store.push o
                    copies := (r, state.store.next) :: state.copies } := by
                refine ⟨fresh.grown.trans (Store.extends_push _ o), fun e he => ?_⟩
                rw [Store.added, Store.size_push]
                rcases List.mem_cons.mp he with rfl | he
                · exact ⟨fresh.grown.size_le, Nat.lt_succ_self _⟩
                · have range := fresh.copies e he
                  exact ⟨range.1, Nat.lt_succ_of_lt range.2⟩
              have held : ∀ v ∈ o.parts, ∀ q ∈ v.refs, q ∈ S :=
                fun v hv q hq => on.closed r hr q (there ▸ among v hv q hq)
              rcases adds_each (fun f m h => ih f m h) start held copied with ⟨adds, length⟩
              rcases kind.withParts length with ⟨input', among'⟩
              exact adds_filled fresh input' among' adds
      | _ =>
          cases h
          exact .refl fresh fun q hq => absurd hq List.not_mem_nil

end Copying

namespace Store

variable {interp : Interpretation} {st st' : Store} {v w : Value}

/-- A copy of plain data is new: all that was added is plain data that refers to
    what was added, and the copy is among it. -/
theorem copy_input (input : st.IsInput v) (copied : st.copy interp v = .ok (st', w)) :
    st'.InputOn (st.added st') ∧ ∀ q ∈ w.refs, q ∈ st.added st' := by
  rcases input with ⟨S, on, reached⟩
  rcases ok_of_bind copied with ⟨⟨state, copy⟩, made, same⟩
  cases same
  have start : Copying.Fresh st { store := st } :=
    ⟨.refl st, fun _ mem => absurd mem List.not_mem_nil⟩
  have adds := Copying.adds_value on start reached made
  refine ⟨⟨fun r hr => (adds.finished r hr).1, fun r hr => (adds.finished r hr).2, ?_⟩, adds.held⟩
  exact fun r hr => hr.2

end Store

end Stencil
