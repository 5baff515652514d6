import Stencil.Proofs.ByContent
import Stencil.Proofs.GivenDefaults
import Stencil.Proofs.Relocation
import Stencil.Proofs.Unchanged

/-!
# The Default Serializer Goes by Content

What the default serializer writes depends on the content of values alone.

Several results ask this of a serializer, as a serializer of a caller's own may look
at anything. For the default one it can be proved. Plain data is no problem wherever
it is: all that it leads to is plain data again, and nothing is called for that. Any
value at all is too much to ask for, as a value may have a method for JSON, and what
that gives is not up to its content. So here the store has to be one for whose objects
nothing is called. This is so for the objects that a store starts with and for
templates, and it stays so as the store grows.

## Theorems

* `Store.InputOn.candid`: Nothing is called for plain data.
* `Store.Regular.candid`: Nor for what has a text, or is made into a document.
* `Store.candid_function`, `Store.candid_template`, `Store.candid_logger`: Nor for what
  a store starts with, and for templates.
* `Template.IsStandard.writesContent`: Plain data is written by its content.
* `Template.IsStandard.byContent`: All values are, where nothing is called.
-/

namespace Stencil

/-- An object without properties of its own under some names has nothing else there. -/
theorem Object.own?_unnamed {o : Object} {name : String} (mem : name ∈ ["constructor", "toJSON"])
    (unnamed : o.fields.get? (.text name) = none) :
    o.own? (.text name) = none ∧ o.ownNative? (.text name) = none := by
  have facts : IsOutward name ∧ name ≠ "name" ∧ name ≠ "source" ∧ Template.partOf? name = none := by
    simp only [List.mem_cons, List.not_mem_nil, or_false] at mem
    rcases mem with rfl | rfl
    · exact ⟨isOutward_of_mem (by decide), by decide, by decide, by decide⟩
    · exact ⟨isOutward_of_mem (by decide), by decide, by decide, by decide⟩
  rcases facts with ⟨outward, noName, noSource, noPart⟩
  by_cases template : ∃ t, o.body = .template t
  · -- A template has its name and its source, and its state.
    rcases template with ⟨t, body⟩
    have none : o.bodyProperty? name = Option.none := by
      simp only [bodyProperty?, Option.map_eq_none_iff, usualProperty?, outward.noIndex,
        outward.noLength, length?, body, noName, noSource, if_false]
    constructor
    · unfold own?
      rw [unnamed]
      exact none
    · unfold ownNative?
      rw [body]
      simp only [noPart, Option.map_none]
  · rcases own?_outward outward fun t body => template ⟨t, body⟩ with ⟨own, state⟩
    exact ⟨own.trans unnamed, state⟩

namespace Store

variable {st : Store} {r : Ref} {S : Set Ref}

/-! ### Plain data -/

theorem direct_of_isInput (input : (st.get r).IsInput) : st.Direct r := by
  refine ⟨input.noTemplate, ?_, ?_⟩
  · generalize st.get r = o at input
    cases input with
    | record _ _ _ data => exact data
    | _ => exact nofun
  · exact input.prototype.imp id fun ⟨g, family, _⟩ => ⟨g, family⟩

/-- Nothing is called for plain data. -/
theorem InputOn.candid (on : st.InputOn S) (hr : r ∈ S) : st.Candid r := by
  have held : ∀ q ∈ (st.get r).held, q ∈ S :=
    fun q hq => on.closed r hr q (Object.mem_refs_of_mem_held hq)
  have direct : st.Direct r := direct_of_isInput (on.input r hr)
  refine ⟨?_, fun _ => direct.namesType fun q hq => direct_of_isInput (on.input q (held q hq))⟩
  have input := on.input r hr
  generalize there : st.get r = o at input
  cases input with
  | record _ body plain data =>
      rw [← there] at body plain data
      have lacks : st.LacksJson r :=
        direct.lacksJson plain fun q hq => (on.input q (held q hq)).isFunction
      refine ⟨.record body plain data lacks, fun _ => ?_⟩
      rcases Object.isPlain_iff.mp plain with root | none
      · rw [inherits_of_family root]
        rfl
      · exact inherits_of_none none
  | array elements integrity => exact (Regular.array elements there).calm (by rw [there]; rfl)
  | map entries integrity => exact (Regular.map entries there).calm (by rw [there]; rfl)
  | set elements integrity => exact (Regular.set elements there).calm (by rw [there]; rfl)
  | date instant integrity => exact (Regular.date instant there).calm (by rw [there]; rfl)

/-! ### What there is besides -/

/-- Nothing is called for bare objects that have a text or that documents are made from. -/
theorem Regular.candid {b : Body} {integrity : Integrity} (regular : st.Regular r)
    (there : st.get r = .bare b integrity) (known : b.isForeign = false) : st.Candid r := by
  refine ⟨regular.calm (by rw [there]; exact known), fun _ => namesType_bare there ?_⟩
  intro t body
  rw [there] at body
  cases body
  cases known

theorem candid_function {p : Procedure} (there : st.get r = Object.ofBody (.function p)) :
    st.Candid r := by
  have bare : st.get r = .bare (.function p) {} := there
  have lacks : st.LacksJson r := lacksJson_bare bare rfl rfl rfl
  exact (Regular.function (by rw [there]; rfl) lacks).candid bare rfl

/-- Nothing is called for what is built in but has no text, and whose properties give it
    none. -/
theorem candid_of_native {g : Family} (family : (st.get r).prototype = .family g)
    (foreign : (st.get r).body.isForeign = true)
    (other : g ≠ .object ∧ g.hasOwnCopies = false ∧ g.isA (.octets .uint8Array) = false)
    (noMethod : g.native? "toJSON" = none)
    (unnamed : ∀ name ∈ ["constructor", "toJSON"], (st.get r).fields.get? (.text name) = none) :
    st.Candid r := by
  have found : ∀ name ∈ ["constructor", "toJSON"],
      st.find? r (.text name) = g.find? (.text name) := by
    intro name mem
    have none : (st.get r).own? (.text name) = none ∧ (st.get r).ownNative? (.text name) = none :=
      Object.own?_unnamed mem (unnamed name mem)
    rw [find?, findWithin, none.1, none.2]
    simp only [family]
  have lacks : st.LacksJson r := by
    intro at_ mem
    rw [found "toJSON" (by decide), Family.find?, noMethod] at mem
    cases mem
  have plain : (st.get r).isPlain = false := by
    simp [Object.isPlain, family, other.1]
  refine ⟨⟨.derived foreign plain (.family family other.2.1) lacks, fun _ => ?_⟩, fun _ => ?_⟩
  · rw [inherits_of_family family]
    exact other.2.2
  · intro p holder here
    rw [found "constructor" (by decide)] at here
    rcases Option.map_eq_some_iff.mp here with ⟨_, _, same⟩
    cases same

theorem candid_template {t : Template} (there : st.get r = Object.ofBody (.template t)) :
    st.Candid r := by
  refine candid_of_native (g := .template t.variant) ?_ ?_ ⟨nofun, ?_, ?_⟩ ?_ ?_
  · rw [there]
    rfl
  · rw [there]
    rfl
  · cases t.variant <;> rfl
  · cases t.variant <;> rfl
  · cases t.variant <;> rfl
  · rw [there]
    exact fun _ _ => rfl

theorem candid_logger {level label parent : Value}
    (there : st.get r = Object.logger level label parent) : st.Candid r := by
  refine candid_of_native (g := .logger) (by rw [there]; rfl) (by rw [there]; rfl)
    ⟨nofun, rfl, rfl⟩ rfl fun name mem => ?_
  rw [there]
  simp only [List.mem_cons, List.not_mem_nil, or_false] at mem
  rcases mem with rfl | rfl <;> rfl

end Store

namespace Template

open Store (Matches)

variable {interp : Interpretation} {st : Store} {t : Template}

/-- The default serializer writes plain data by its content. -/
theorem IsStandard.writesContent (standard : t.IsStandard) (free : Set Ref) :
    t.WritesContent interp st free := by
  rintro st' key v _ size_le - ⟨T, on, inside⟩ ⟨f, S, matched, reached, rfl⟩
  -- What is reached both ways is plain data, and has the same content.
  have both : Matches f (S ∩ T) st st' := {
    injective := matched.injective.mono Set.inter_subset_left
    closed := fun r hr q hq => ⟨matched.closed r hr.1 q hq, on.closed r hr.2 q hq⟩
    inside := fun r hr => matched.inside r hr.1
    target := fun r hr => matched.target r hr.1
    get_eq := fun r hr => matched.get_eq r hr.1 }
  have alike : Store.Resemblance interp f (S ∩ T) st st' :=
    both.resemblance size_le fun r hr => on.candid hr.2
  have covered : View.Over (S ∩ T) v := fun q hq => ⟨reached q hq, inside q hq⟩
  refine write_eq ?_ ?_ (alike.typeName_eq covered)
  · rw [standard.serialize_eq, standard.serialize_eq, alike.serialize_eq covered]
  · rw [standard.serialize_eq]
    exact alike.serialize_cases covered

/-- The default serializer writes all values by their content, where nothing is called for
    any object. -/
theorem IsStandard.byContent (standard : t.IsStandard)
    (candid : ∀ r, r.index < st.objects.size → st.Candid r) : t.ByContent interp st := by
  rintro st' v _ grown ⟨f, S, matched, reached, rfl⟩ s
  have alike : Store.Resemblance interp f S st st' :=
    matched.resemblance grown.size_le fun r hr => candid r (matched.inside r hr)
  rw [standard.serialize_eq, standard.serialize_eq, alike.serialize_eq reached]

/-- Two templates, an array that holds one of them, and a default that is that array. -/
private def binder : Store :=
  ⟨Store.initial.objects ++ #[Object.ofBody (.template (ofCut "" (.last []) (by decide) [])),
    Object.ofBody (.array [some (.object ⟨2⟩), none]),
    Object.ofBody (.template (ofCut "" (.last []) (by decide) [("a", .object ⟨3⟩)]))]⟩

example : ∀ r t, binder.template? r = some t → t.ByContent .standard binder := by
  intro r t held
  have standard : ∀ i < 5, ∀ t, binder.template? ⟨i⟩ = some t → t.variant = .prompt
      ∧ t.serializer = none := by decide
  have inside := Store.index_lt_of_template? held
  rcases standard r.index inside t held with ⟨variant, serializer⟩
  refine IsStandard.byContent ⟨variant, serializer⟩ fun q hq => ?_
  have each : ∀ i < 5, binder.Candid ⟨i⟩ := by
    intro i hi
    interval_cases i
    · exact Store.candid_logger rfl
    · exact Store.candid_function rfl
    · exact Store.candid_template rfl
    · have there : binder.get ⟨3⟩ = .bare (.array [some (.object ⟨2⟩), none]) {} := rfl
      exact (Store.Regular.array _ there).candid there rfl
    · exact Store.candid_template rfl
  exact each q.index hq

end Template

end Stencil
