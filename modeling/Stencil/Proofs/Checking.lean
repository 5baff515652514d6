import Stencil.Proofs.KeyOrder
import Stencil.Routine

/-!
# What a Check Lets Pass

What the results ask of the library that checks objects, and that it can be had.

`Interpretation.Checks` is what the library documents: a plain object that has what a
shape asks for, and nothing else, passes, and its values are given back. It says
nothing of objects with something wrong, and nothing of the words for that. The results
that need to know what passes take it as a premise.

The check that programs run with has the property. That takes a proof, because it looks
at more than the shape: it looks for a method `then`, which a plain object could have,
and it lists the keys of the object, which are not in the order in which they were set
if there are indices among them.

## Main definitions

* `Store.Meets`: An object with what a shape asks for.
* `Interpretation.Checks`: What the library documents.

## Theorems

* `Object.own?_plain`, `Object.enumerable_plain`: The properties of a plain object.
* `Shape.check_of_meets`: Objects with what a shape asks for pass.
* `Interpretation.checks_ofCalls`: The library can be as documented.
-/

namespace Stencil

/-! ### Plain objects -/

theorem Keyed.get?_texts {α β : Type} (f : α → β) (pairs : List (String × α)) (name : String) :
    Keyed.get? (pairs.map fun e => (Key.text e.1, f e.2)) (.text name)
      = (pairs.lookup name).map f := by
  induction pairs with
  | nil => rfl
  | cons e pairs ih =>
      rcases e with ⟨known, a⟩
      rw [Keyed.get?] at ih ⊢
      rw [List.map_cons, List.lookup_cons, List.lookup_cons]
      by_cases here : name = known
      · subst here
        rw [beq_self_eq_true, beq_self_eq_true]
        rfl
      · have other : Key.text name ≠ .text known := fun same => here (Key.text.inj same)
        rw [beq_eq_false_iff_ne.mpr other, beq_eq_false_iff_ne.mpr here]
        exact ih

namespace Object

variable {fields : List (String × Value)} (distinct : (fields.map Prod.fst).Nodup)

include distinct

/-- The properties of a plain object are in the order of properties. -/
theorem fields_plain :
    (plain fields).fields
      = (ownKeyOrder fields).map fun e => (Key.text e.1, { slot := .data e.2 }) := by
  let held : Value → Property := fun v => { slot := .data v }
  have names : ((fields.map fun e => (e.1, held e.2)).map Prod.fst).Nodup := by
    rw [List.map_map]
    exact distinct
  have listed : (plain fields).fields
      = Keyed.ofList ((fields.map fun e => (e.1, held e.2)).map Keyed.entry) := by
    rw [List.map_map]
    rfl
  rw [listed, Keyed.ofList_eq names, Keyed.ownKeyOrder_map held, List.map_map]
  rfl

/-- A plain object has the properties that it was given. -/
theorem own?_plain (name : String) :
    (plain fields).own? (.text name) = (fields.lookup name).map fun v => { slot := .data v } := by
  have perm := Keyed.ownKeyOrder_perm fields
  have found : (plain fields).fields.get? (.text name)
      = (fields.lookup name).map fun v => { slot := .data v } := by
    rw [fields_plain distinct, Keyed.get?_texts (fun v => ({ slot := .data v } : Property)),
      lookup_eq_of_perm ((perm.map Prod.fst).nodup_iff.mpr distinct) perm]
  have nothingElse : (plain fields).bodyProperty? name = none := by
    rw [bodyProperty?, Option.map_eq_none_iff, usualProperty?]
    split
    · rfl
    · split_ifs <;> rfl
  rw [own?, found]
  cases fields.lookup name with
  | none => exact nothingElse
  | some v => rfl

/-- All properties of a plain object can be enumerated. -/
theorem enumerable_plain :
    (plain fields).enumerable = (ownKeyOrder fields).map fun e => (e.1, .data e.2) := by
  have entries : (plain fields).fields
      = ((ownKeyOrder fields).map fun e => (e.1, { slot := .data e.2 })).map Keyed.entry := by
    rw [fields_plain distinct, List.map_map]
    rfl
  have noElements : (plain fields).indexed = [] := rfl
  rw [enumerable, noElements, entries, Keyed.texts_entries, List.filterMap_map, List.zipIdx_nil,
    List.filterMap_nil, List.nil_append]
  exact congrFun List.filterMap_eq_map _

end Object

/-! ### The library -/

/-- An object has, under different names, what a shape asks for and nothing else, and
    there is no more to its values than that: an object among them is a function. -/
structure Store.Meets (st : Store) (shape : Shape) (fields : List (String × Value)) : Prop where
  accepted : List.Forall₂ (fun wanted e => wanted.1 = e.1 ∧ wanted.2.accepts st e.2 = true)
    shape fields
  distinct : (fields.map Prod.fst).Nodup
  /-- These names have a meaning of their own. -/
  usual : ∀ e ∈ fields, e.1 ≠ "__proto__" ∧ e.1 ≠ "then"
  flat : ∀ e ∈ fields, ∀ q ∈ e.2.refs, (st.get q).isFunction = true

/-- The library does what it documents: a plain object with what a shape asks for
    passes, and its values are given back. -/
def Interpretation.Checks (interp : Interpretation) : Prop :=
  ∀ (st : Store) (shape : Shape) (fields : List (String × Value)) (r : Ref),
    st.get r = Object.plain fields → st.Meets shape fields →
      ∃ data, interp.check st shape (.object r) = .ok { outcome := .ok data }
        ∧ ∀ name, data.lookup name = fields.lookup name

namespace Checking

variable (interp : Interpretation) {st : Store} {r : Ref} {fields : List (String × Value)}

/-- Whatever is no object but a function has a kind. -/
theorem exists_kindName {v : Value} (flat : ∀ q ∈ v.refs, (st.get q).isFunction = true) :
    ∃ kind, kindName interp st v = .ok kind := by
  cases v with
  | object q =>
      rcases Object.isFunction_iff.mp (flat q List.mem_cons_self) with ⟨p, body⟩
      exact ⟨"function", by rw [kindName, body]⟩
  | number n => cases n <;> exact ⟨_, rfl⟩
  | _ => exact ⟨_, rfl⟩

/-- An accepted value has no issue. -/
theorem issue?_of_accepts {name : String} {schema : Schema} {v : Value}
    (flat : ∀ q ∈ v.refs, (st.get q).isFunction = true) (accepted : schema.accepts st v = true) :
    issue? interp st name schema v = .ok none := by
  rcases exists_kindName interp flat with ⟨kind, known⟩
  rw [issue?, known, accepted]
  rfl

section

variable (there : st.get r = Object.plain fields) (distinct : (fields.map Prod.fst).Nodup)

include there distinct

theorem read_of_mem {name : String} {v : Value} (mem : (name, v) ∈ fields) :
    st.read interp r (.text name) = .ok (st, v) := by
  have own : (st.get r).own? (.text name) = some { slot := .data v } := by
    rw [there, Object.own?_plain distinct, lookup_of_mem distinct mem, Option.map_some]
  have found : st.find? r (.text name) = some (.property { slot := .data v } r) := by
    rw [Store.find?, Store.findWithin, own]
  rw [Store.read, Store.readWithin, found]
  rfl

/-- A plain object that has no method for it cannot be waited for, so its kind is that
    of objects. -/
theorem kindName_plain (noThen : "then" ∉ fields.map Prod.fst) :
    kindName interp st (.object r) = .ok "object" := by
  have next : (st.get r).prototype = .family .object := by rw [there]; rfl
  have family (f : Family) : st.inherits r f = Family.object.isA f := by
    rw [Store.inherits, Store.rootFamily?, Store.rootFamilyWithin, next]
  have missing : st.read interp r (.text "then") = .ok (st, .undefined) := by
    have absent : (Object.plain fields).own? (.text "then") = none := by
      rw [Object.own?_plain distinct, lookup_eq_none_iff_keys.mpr noThen, Option.map_none]
    have nowhere : st.find? r (.text "then") = none := by
      rw [Store.find?, Store.findWithin, there, absent]
      rfl
    rw [Store.read, Store.readWithin, nowhere]
  have waits : isAwaitable interp st r = .ok false := by
    rw [isAwaitable, missing]
    rfl
  simp only [kindName, there]
  change (isAwaitable interp st r >>= _) = _
  rw [waits]
  simp only [bind, Except.bind, Bool.false_eq_true, if_false, family]
  rfl

/-- A plain object has no names but its own. -/
theorem mem_of_enumerableNames {bound : Nat} {name : String}
    (mem : name ∈ enumerableNames st (bound + 1) [] r) : name ∈ fields.map Prod.fst := by
  have exposed : st.expose r = st := by rw [Store.expose, there]; rfl
  have inherited : (Object.plain fields).prototype = .family .object := rfl
  have listed : (Object.plain fields).enumerable.map Prod.fst
      = (ownKeyOrder fields).map Prod.fst := by
    rw [Object.enumerable_plain distinct, List.map_map]
    rfl
  rw [enumerableNames, exposed, there, listed] at mem
  simp only [inherited] at mem
  rcases List.mem_append.mp mem with own | inherited
  · exact ((Keyed.ownKeyOrder_perm fields).map Prod.fst).subset (List.mem_filter.mp own).1
  · exact absurd (List.mem_filter.mp inherited).1 List.not_mem_nil

/-- The properties are read in turn, and none of them has an issue. -/
theorem readEach_of_accepted (flat : ∀ e ∈ fields, ∀ q ∈ e.2.refs, (st.get q).isFunction = true)
    {wanted : Shape} {rest : List (String × Value)}
    (accepted : List.Forall₂ (fun wanted e => wanted.1 = e.1 ∧ wanted.2.accepts st e.2 = true)
      wanted rest) (among : ∀ e ∈ rest, e ∈ fields) :
    readEach interp r st wanted = .ok (st, [], rest) := by
  induction accepted with
  | nil => rfl
  | @cons s e wanted rest first _ ih =>
      rcases s with ⟨name, schema⟩
      rcases e with ⟨key, v⟩
      rcases first with ⟨rfl, accepts⟩
      have here := among _ List.mem_cons_self
      have gives : readEach interp r st wanted = .ok (st, [], rest) :=
        ih fun e he => among e (List.mem_cons_of_mem _ he)
      have passes : issue? interp st name schema v = .ok none :=
        issue?_of_accepts interp (flat _ here) accepts
      simp only [readEach, read_of_mem interp there distinct here, bind, Except.bind, passes, gives]
      rfl

end

end Checking

/-- An object with what a shape asks for passes. -/
theorem Shape.check_of_meets (interp : Interpretation) {st : Store} {shape : Shape}
    {fields : List (String × Value)} {r : Ref} (there : st.get r = Object.plain fields)
    (meets : st.Meets shape fields) :
    shape.check interp st (.object r) = .ok { outcome := .ok fields } := by
  have noThen : "then" ∉ fields.map Prod.fst := by
    intro mem
    rcases List.mem_map.mp mem with ⟨e, he, name⟩
    exact (meets.usual e he).2 name
  have kind : Checking.kindName interp st (.object r) = .ok "object" :=
    Checking.kindName_plain interp there meets.distinct noThen
  have read := Checking.readEach_of_accepted interp there meets.distinct meets.flat
    meets.accepted fun e he => he
  have known : (Checking.enumerableNames st (st.objects.size + 1) [] r).filter
      (fun key => (shape.lookup key).isNone) = [] := by
    refine List.filter_eq_nil_iff.mpr fun name mem absent => ?_
    have own := Checking.mem_of_enumerableNames there meets.distinct mem
    rw [← keys_forall₂ (fun _ _ same => same.1) meets.accepted] at own
    exact lookup_eq_none_iff_keys.mp (Option.isNone_iff_eq_none.mp absent) own
  have whole : Checking.checkObject interp st shape r = .ok { outcome := .ok fields } := by
    have made : st.objects.toList.drop st.objects.size = [] := by simp
    rw [Checking.checkObject, known, read]
    simp only [bind, Except.bind, Checking.unknownIssue, made]
    rfl
  rw [Shape.check, kind]
  exact whole

/-- The library can be as documented: it is, when a program runs. -/
theorem Interpretation.checks_ofCalls
    (call : Store → Procedure → Value → Value → Except Thrown Answer) :
    (Interpretation.ofCalls call).Checks :=
  fun _ _ fields _ there meets => ⟨fields, Shape.check_of_meets _ there meets, fun _ => rfl⟩

theorem Interpretation.checks_standard : Interpretation.standard.Checks :=
  checks_ofCalls _

end Stencil
