import Stencil.Proofs.Outcome
import Stencil.Template.Render

/-!
# What Templates Are Given and What They Write

The two ways in which a template looks at values.

A template takes the entries of an object and writes a text for each value.
Both are actions, and both can call functions; but an object of plain data
properties gives its entries without a call, and writing a value only reads the
store. So neither changes anything, and each has a result at a store.

Writing succeeds in one case only: the serializer gives a text. Everything else
ends in an error, and normally in one that names the key. It is another one if
the error itself cannot be put together, because the type of the value or the
message of what was caught cannot be read.

## Main definitions

* `Object.HoldsData`, `Store.Supplies`: Objects of data properties and what
  they supply.
* `Store.Untouched`: Nobody has reached into any template.

## Theorems

* `Store.supplied_eq`: What an object of data supplies.
* `Template.resultAt_write_eq_ok_iff`: When a value is written.
* `Template.resultAt_write_given`, `Template.resultAt_write_raised`: The error
  when it is not.
* `Template.steady_write`: Writing changes nothing.
-/

namespace Stencil

/-! ### What is supplied -/

/-- The value that a slot holds, if it computes none. -/
def Slot.value? : Slot → Option Value
  | data v => some v
  | accessor _ _ => none

namespace Object

/-- The enumerable properties of an object under texts that hold a value, with
    it. -/
def dataEntries (o : Object) : List (String × Value) :=
  o.enumerable.filterMap fun e => e.2.value?.map fun v => (e.1, v)

/-- An object whose enumerable properties hold values and compute none. -/
structure HoldsData (o : Object) : Prop where
  data : ∀ e ∈ o.enumerable, ∃ v, e.2 = .data v
  noTemplate : ∀ t, o.body ≠ .template t

theorem holdsData_iff {o : Object} : o.HoldsData
    ↔ (∀ e ∈ o.enumerable, e.2.value?.isSome = true)
      ∧ (match o.body with | .template _ => false | _ => true) = true := by
  constructor
  · rintro ⟨data, noTemplate⟩
    constructor
    · intro e mem
      rcases data e mem with ⟨v, same⟩
      rw [same]
      rfl
    · split
      · next t body => exact absurd body (noTemplate t)
      · rfl
  · rintro ⟨data, noTemplate⟩
    constructor
    · intro e mem
      have some := data e mem
      cases slot : e.2 with
      | data v => exact ⟨v, rfl⟩
      | accessor getter setter =>
          rw [slot] at some
          cases some
    · intro t body
      rw [body] at noTemplate
      cases noTemplate

instance (o : Object) : Decidable o.HoldsData :=
  decidable_of_iff _ holdsData_iff.symm

end Object

namespace Store

/-- An object of data supplies its entries, except for those that are
    undefined. -/
def Supplies (st : Store) (values : Value) (supplied : List (String × Value)) : Prop :=
  ∃ r, values = .object r ∧ (st.get r).HoldsData
    ∧ supplied = (st.get r).dataEntries.filter fun (_, v) => v ≠ .undefined

/-- Nobody has reached into any template. -/
def Untouched (st : Store) : Prop :=
  ∀ r, st.inherits r (.template .prompt) = true → ∃ t, st.template? r = some t

variable {interp : Interpretation} {st : Store}

theorem readAll_data {r : Ref} {slots : List (String × Slot)}
    (data : ∀ e ∈ slots, ∃ v, e.2 = .data v) :
    readAll interp r st slots
      = .ok (st, slots.filterMap fun e => e.2.value?.map fun v => (e.1, v)) := by
  induction slots with
  | nil => rfl
  | cons e more ih =>
      rcases e with ⟨name, slot⟩
      rcases data (name, slot) List.mem_cons_self with ⟨v, rfl⟩
      have rest := ih fun e he => data e (List.mem_cons_of_mem _ he)
      simp only [readAll, readSlot, rest, bind, Except.bind, pure, Except.pure,
        List.filterMap_cons, Slot.value?, Option.map_some]

/-- An object of data supplies what it says, and reading it changes nothing. -/
theorem supplied_eq (interp : Interpretation) {values : Value} {supplied : List (String × Value)}
    (h : st.Supplies values supplied) : st.supplied interp values = .ok (st, supplied) := by
  rcases h with ⟨r, rfl, holds, rfl⟩
  have closed : st.expose r = st := by
    rw [expose]
    split
    · next t body => exact absurd body (holds.noTemplate t)
    · rfl
  simp only [Store.supplied, entries, closed, readAll_data holds.data, bind, Except.bind, pure,
    Except.pure, Object.dataEntries]

/-- The templates that nobody has reached into are all there are. -/
theorem Untouched.template {v : Value} {r : Ref} (h : st.Untouched)
    (isTemplate : st.templateRef? v = some r) : ∃ t, st.template? r = some t := by
  cases v with
  | object q =>
      by_cases inherits : st.inherits q (.template .prompt) = true
      · rw [templateRef?, if_pos inherits, Option.some.injEq] at isTemplate
        exact h r (isTemplate ▸ inherits)
      · rw [templateRef?, if_neg inherits] at isTemplate
        cases isTemplate
  | _ => cases isTemplate

theorem get_of_size_le {r : Ref} (outside : st.objects.size ≤ r.index) : st.get r = default := by
  rw [get, Array.getElem?_eq_none outside]
  rfl

/-- Where nothing was allocated, there is no template. -/
theorem untouched_iff : st.Untouched ↔ ∀ i < st.objects.size,
    st.inherits ⟨i⟩ (.template .prompt) = true → (st.template? ⟨i⟩).isSome = true := by
  constructor
  · intro h i _ inherits
    exact Option.isSome_iff_exists.mpr (h ⟨i⟩ inherits)
  · intro h r inherits
    by_cases inside : r.index < st.objects.size
    · exact Option.isSome_iff_exists.mp (h r.index inside inherits)
    · -- An address beyond the store is read as a plain object.
      have plain : (st.get r).prototype = .family .object := by
        rw [get_of_size_le (Nat.le_of_not_lt inside)]
        rfl
      rw [Store.inherits, rootFamily?, rootFamilyWithin, plain] at inherits
      cases inherits

instance : Decidable st.Untouched :=
  decidable_of_iff _ untouched_iff.symm

end Store

namespace Template

variable {interp : Interpretation} {st : Store}

/-! ### Checking keys -/

section

variable {α : Type} {f : Unit → Action α} {t : Template} {keys : List String}

theorem resultAt_bind_checkKeys_known (known : t.unknownKeys keys = []) :
    (Action.checked (t.checkKeys keys) >>= f).resultAt st = (f ()).resultAt st := by
  rw [checkKeys, if_pos known]
  rfl

theorem storeAfter_bind_checkKeys_known (known : t.unknownKeys keys = []) :
    (Action.checked (t.checkKeys keys) >>= f).storeAfter st = (f ()).storeAfter st := by
  rw [checkKeys, if_pos known]
  rfl

theorem resultAt_bind_checkKeys_unknown (unknown : t.unknownKeys keys ≠ []) :
    (Action.checked (t.checkKeys keys) >>= f).resultAt st
      = .error (.template (.invalidKeys (t.unknownKeys keys) t.placeholders t.name)) := by
  rw [checkKeys, if_neg unknown]
  rfl

end

/-! ### Writing a value -/

/-- The error of the value for a key: one that names the key, unless the type of
    the value or what was caught cannot be read. -/
theorem resultAt_refuse (t : Template) (key : String) (v : Value) (c : Caught) :
    (t.refuse interp key v c).resultAt st =
      .error (match st.typeName interp v, st.causeOf interp c with
        | .ok type, .ok cause => .template (.serialization key type cause t.name)
        | .ok _, .error raised => .thrown raised
        | .error raised, _ => .thrown raised) := by
  rw [refuse]
  cases hv : st.typeName interp v with
  | error raised =>
      refine Action.resultAt_bind_looking_error ?_
      rw [hv]
      rfl
  | ok type =>
      cases hc : st.causeOf interp c with
      | error raised =>
          refine Action.resultAt_bind_looking_error ?_
          rw [hv, hc]
          rfl
      | ok cause =>
          refine Action.resultAt_bind_looking_ok ?_
          rw [hv, hc]
          rfl

/-- A value that the serializer gives something else for than a text is refused
    with an error that names the key. -/
theorem resultAt_write_given {t : Template} {key type kind : String} {v : Value} {answer : Answer}
    (given : t.serialize interp st v = .ok answer) (noText : ∀ s, answer ≠ .existing (.text s))
    (typed : (answer.settle st).1.typeName interp (answer.settle st).2 = .ok type)
    (kinded : (answer.settle st).1.typeName interp v = .ok kind) :
    (t.write interp key v).resultAt st = .error (.template (.serialization key kind
      (.plain .typeError (Template.noText type)) t.name)) := by
  rw [write, Action.resultAt_bind_asking, given]
  split
  · next text same => exact absurd (Except.ok.inj same) (noText text)
  · next other _ same =>
      rw [← Except.ok.inj same, Action.settling, Action.resultAt_bind_adding,
        Action.resultAt_bind_looking_ok typed, resultAt_refuse, kinded]
      rfl
  · next same => cases same

/-- A value on which the serializer raises something is refused with an error
    that names the key, unless what was caught cannot be read. -/
theorem resultAt_write_raised {t : Template} {key kind : String} {v : Value} {raised : Thrown}
    {c : Caught} (failed : t.serialize interp st v = .error raised)
    (caught : st.caught interp raised = .ok c) (kinded : st.typeName interp v = .ok kind) :
    (t.write interp key v).resultAt st =
      .error (match st.causeOf interp c with
        | .ok cause => .template (.serialization key kind cause t.name)
        | .error other => .thrown other) := by
  rw [write, Action.resultAt_bind_asking, failed]
  rw [Action.resultAt_bind_looking_ok caught, report, Action.resultAt_bind_report, resultAt_refuse,
    kinded]
  cases st.causeOf interp c with
  | ok cause => rfl
  | error other => rfl

/-- Refusing a value never gives a text. -/
theorem resultAt_refuse_ne_ok (t : Template) (key s : String) (v : Value) (c : Caught) :
    (t.refuse interp key v c).resultAt st ≠ .ok s := by
  rw [resultAt_refuse]
  exact fun h => nomatch h

/-- What a template writes for a value is the text that its serializer gives,
    and it writes nothing otherwise. -/
theorem resultAt_write_eq_ok_iff {t : Template} {key s : String} {v : Value} :
    (t.write interp key v).resultAt st = .ok s
      ↔ t.serialize interp st v = .ok (.existing (.text s)) := by
  rw [write, Action.resultAt_bind_asking]
  constructor
  · intro h
    split at h
    · next text given =>
        rw [Action.resultAt_pure, Except.ok.injEq] at h
        rw [given, h]
    · next answer _ given =>
        rw [Action.settling, Action.resultAt_bind_adding] at h
        cases type : (answer.settle st).1.typeName interp (answer.settle st).2 with
        | error raised =>
            rw [Action.resultAt_bind_looking_error type] at h
            cases h
        | ok name =>
            rw [Action.resultAt_bind_looking_ok type] at h
            exact absurd h (resultAt_refuse_ne_ok t key s v _)
    · next raised given =>
        cases caught : st.caught interp raised with
        | error other =>
            rw [Action.resultAt_bind_looking_error caught] at h
            cases h
        | ok c =>
            rw [Action.resultAt_bind_looking_ok caught, report, Action.resultAt_bind_report] at h
            exact absurd h (resultAt_refuse_ne_ok t key s v c)
  · intro h
    rw [h]
    rfl

/-- Writing a value changes nothing. -/
theorem steady_write (t : Template) (key : String) (v : Value) :
    (t.write interp key v).Steady st := by
  intro s h
  rw [resultAt_write_eq_ok_iff] at h
  rw [write, Action.storeAfter_bind_asking, h]
  rfl

end Template

end Stencil
