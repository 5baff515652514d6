import Stencil.Proofs.DataDefaults
import Stencil.Proofs.SameTexts

/-!
# Copies Are Likenesses

What was copied is represented by its copy, and what was not by itself.

A deep copy of a faithful value puts new objects in the places of those that the
value leads to, so the copy is written as the value is. What is lost on the way
does not show: places that are missing in an array are written like undefined
ones, and patterns are refused wherever they start.

A value that is not copied is still there after something was copied and stored.
As long as it does not lead to the object that was changed, it stands for itself.

## Main definitions

* `Store.IsFaithful`: Values for which nothing is called.

## Theorems

* `Store.copy_likeness`: A copy is a likeness of what was copied.
* `Store.likeness_self`: What did not change is a likeness of itself.
* `Store.untouched_of_copies`: Copying adds no templates.
* `Store.Untouched.templateRef?_eq_none`: Which values are no templates.
-/

namespace Stencil

/-! ### In the place of an object -/

namespace Object

theorem prototype_settled {o : Object} (other : ∀ w, o.body ≠ .octets .buffer w) :
    o.settled.prototype = o.prototype := by
  rw [settled_of_ne other]
  rfl

theorem settled_rename_settled (f : Ref → Ref) (b : Body) :
    (b.settled.rename f).settled = b.settled.rename f := by
  cases b with
  | array elements =>
      rw [Body.settled, Body.rename, Body.settled, List.map_map, List.map_map, List.map_map]
      rfl
  | function p => cases p <;> rfl
  | _ => rfl

/-- What a copy is filled with stands for the object. -/
theorem standsFor_settled (f : Ref → Ref) {o : Object} (other : ∀ w, o.body ≠ .octets .buffer w) :
    o.StandsFor f (o.settled.carry f) := by
  rw [settled_of_ne other]
  exact ⟨rfl, rfl, settled_rename_settled f o.body⟩

/-- An object stands for itself. -/
theorem standsFor_self (o : Object) : o.StandsFor id o := by
  have fields : (o.fields.map fun e => (e.1, e.2.carry id)) = o.fields := by
    refine List.map_id'' (fun e => ?_) _
    rcases e with ⟨key, ⟨_, slot⟩⟩
    cases slot with
    | data v => rw [Property.carry, Slot.carry, Value.rename_id]
    | accessor getter setter => rfl
  exact ⟨rfl, fields.symm, (Body.rename_id _).symm⟩

end Object

namespace Store

/-- Values for which nothing is called when they are copied or written. -/
def IsFaithful (st : Store) (v : Value) : Prop :=
  ∃ S, st.FaithfulOn S ∧ View.Over S v

variable {interp : Interpretation} {st st' : Store} {r q : Ref} {S : Set Ref} {v w : Value}

theorem isFaithful_of_simple (simple : v.refs = []) : st.IsFaithful v := by
  refine ⟨∅, ⟨fun r hr => hr.elim, fun r hr => hr.elim, fun r hr => hr.elim⟩, fun r hr => ?_⟩
  rw [simple] at hr
  cases hr

theorem Faithful.clonable (faithful : st.Faithful r) (object : (st.get r).isFunction = false) :
    st.Clonable r := by
  cases faithful with
  | record body descends _ _ _ => exact .record body descends.ordinary
  | array elements there => exact .array elements there
  | map entries distinct there => exact .map entries distinct there
  | set elements distinct there => exact .set elements distinct there
  | date instant within there => exact .date instant within there
  | pattern p l normal there => exact .pattern p l normal there
  | url href normal there => exact .url href normal there
  | boxed v simple there => exact .boxed v simple there
  | octets c w _ there => exact .octets c w there
  | function callable _ =>
      rw [object] at callable
      cases callable

/-- What is copied is no buffer. -/
theorem Faithful.noBuffer (faithful : st.Faithful r) (w : Window UInt8) :
    (st.get r).body ≠ .octets .buffer w := by
  cases faithful with
  | record body _ _ _ _ => rw [body]; exact nofun
  | octets c w' other there =>
      rw [there, Object.body_bare]
      intro same
      cases same
      exact other rfl
  | function callable _ =>
      intro body
      rw [Object.isFunction, body] at callable
      cases callable
  | _ => simp only [*, Object.body_bare, ne_eq, reduceCtorEq, not_false_eq_true]

theorem FaithfulOn.clones (on : st.FaithfulOn S) :
    st.ClonesOn {r | r ∈ S ∧ (st.get r).isFunction = false} where
  clonable r hr := (on.faithful r hr.1).clonable hr.2
  inside r hr := on.inside r hr.1
  closed r hr q hq := by
    by_cases function : (st.get q).isFunction = true
    · exact .inr function
    · exact .inl ⟨on.closed r hr.1 hr.2 q hq, Bool.eq_false_iff.mpr function⟩

/-! ### Copies -/

/-- A copy is a likeness of what was copied. -/
theorem copy_likeness (interp : Interpretation) (closed : st.Closed) (on : st.FaithfulOn S)
    (covered : View.Over S v) :
    ∃ (state : Copying) (T : Set Ref), st.copy interp v = .ok (state.store, v.rename state.target)
      ∧ Copying.Sound st {r | r ∈ S ∧ (st.get r).isFunction = false} state
      ∧ (∀ e ∈ state.copies, Copying.Formed st state e)
      ∧ View.Over T v ∧ Likeness state.target T st state.store := by
  have clones := on.clones
  have reached : ∀ q ∈ v.refs, q ∈ {r | r ∈ S ∧ (st.get r).isFunction = false}
      ∨ (st.get q).isFunction = true := by
    intro q hq
    by_cases function : (st.get q).isFunction = true
    · exact .inr function
    · exact .inl ⟨covered q hq, Bool.eq_false_iff.mpr function⟩
  rcases copy_clones interp clones reached with ⟨state, gives, sound, formed, settled⟩
  -- Only what was met has a copy.
  refine ⟨state, {r | r ∈ S ∧ Copying.Settled st state r}, gives, sound, formed,
    fun q hq => ⟨covered q hq, settled q hq⟩, ?_⟩
  have known : ∀ {r}, Copying.Settled st state r → (st.get r).isFunction = false →
      r ∈ state.known := by
    intro r settled object
    rcases settled with known | function
    · exact known
    · rw [object] at function
      cases function
  have functions : ∀ r, (st.get r).isFunction = true → state.target r = r :=
    fun r function => sound.target_of_function clones.object function
  refine ⟨⟨fun r hr => on.faithful r hr.1, fun r hr => on.inside r hr.1, ?_⟩, closed,
    sound.grown.sameLookups, (sound.injOn_settled clones.object).mono fun r hr => hr.2,
    fun r _ function => functions r function, ?_, ?_⟩
  · intro r hr object q hq
    refine ⟨on.closed r hr.1 object q hq, ?_⟩
    exact (formed _ (Copying.mem_copies_target (known hr.2 object))).settled q hq
  · intro r hr object
    rw [(formed _ (Copying.mem_copies_target (known hr.2 object))).get_eq]
    exact Object.standsFor_settled _ (on.faithful r hr.1).noBuffer
  · intro r hr
    by_cases function : (st.get r).isFunction = true
    · rw [functions r function]
      exact Nat.lt_of_lt_of_le (on.inside r hr.1) sound.grown.size_le
    · have object := Bool.eq_false_iff.mpr function
      exact (sound.fresh _ (Copying.mem_copies_target (known hr.2 object))).2

/-- What did not change is a likeness of itself. -/
theorem likeness_self (closed : st.Closed) (on : st.FaithfulOn S) (lookups : st.SameLookups st')
    (same : ∀ r ∈ S, st'.get r = st.get r) : Likeness id S st st' where
  on := on
  closed := closed
  lookups := lookups
  injective := Set.injOn_id S
  functions _ _ _ := rfl
  objects r hr _ := by
    rw [id, same r hr]
    exact (st.get r).standsFor_self
  inside r hr := Nat.lt_of_lt_of_le (on.inside r hr) lookups.size_le

/-! ### Templates -/

/-- What is cloned is no template. -/
theorem Clonable.template? (clonable : st.Clonable r) : st.template? r = none := by
  rw [Store.template?]
  cases clonable with
  | record body _ => rw [body]
  | _ => simp only [*, Object.body_bare]

/-- What derives from the same prototype is of the same families. -/
theorem SameLookups.inherits_of_prototype (h : st.SameLookups st') (closed : st.Closed)
    (inside : r.index < st.objects.size)
    (same : (st'.get q).prototype = (st.get r).prototype) (g : Family) :
    st'.inherits q g = st.inherits r g := by
  have root : st'.rootFamily? q = st.rootFamily? r := by
    rw [rootFamily?, rootFamily?, rootFamilyWithin, rootFamilyWithin, same]
    cases next : (st.get r).prototype with
    | object p =>
        have there := closed.prototype inside next
        have follows := st.followsPrototypes_rootFamilyWithin
        have here : st.rootFamilyWithin st.objects.size p = st.rootFamily? p :=
          (follows.of_size_le closed there (Nat.le_succ _)).symm
        have more : st'.rootFamilyWithin st'.objects.size p
            = st.rootFamilyWithin st'.objects.size p := h.rootFamilyWithin_eq closed there _
        simp only [here, more, follows.of_size_le closed there h.size_le]
    | _ => rfl
  rw [inherits, inherits, root]

/-- Copying adds no templates. -/
theorem untouched_of_copies {state : Copying} (intact : st.Intact) (on : st.ClonesOn S)
    (sound : Copying.Sound st S state) (formed : ∀ e ∈ state.copies, Copying.Formed st state e) :
    state.store.Untouched := by
  have lookups := sound.grown.sameLookups
  refine untouched_iff.mpr fun i inside inherits => ?_
  by_cases old : i < st.objects.size
  · rw [lookups.inherits_eq intact.closed old] at inherits
    rw [sound.grown.template?_eq old]
    exact Option.isSome_iff_exists.mpr (intact.untouched ⟨i⟩ inherits)
  · -- What is new is a copy, and has the prototype of what it was made from.
    rcases List.mem_map.mp (sound.complete ⟨i⟩ (Nat.le_of_not_lt old) inside) with ⟨e, he, same⟩
    have hr := sound.sources e.1 (List.mem_map_of_mem he)
    have get_eq : state.store.get ⟨i⟩ = (st.get e.1).settled.carry state.target :=
      same ▸ (formed e he).get_eq
    have none : st.inherits e.1 (.template .prompt) = false := by
      refine Bool.eq_false_iff.mpr fun template => ?_
      rcases intact.untouched e.1 template with ⟨t, there⟩
      rw [(on.clonable e.1 hr).template?] at there
      cases there
    by_cases buffer : ∃ w, (st.get e.1).body = .octets .buffer w
    · rcases buffer with ⟨w, body⟩
      have family : (state.store.get ⟨i⟩).prototype = .family (.octets .uint8Array) := by
        rw [get_eq]
        simp only [Object.carry, Object.settled, body]
        rfl
      rw [inherits_of_family family] at inherits
      cases inherits
    · have prototype : (state.store.get ⟨i⟩).prototype = (st.get e.1).prototype := by
        rw [get_eq]
        exact Object.prototype_settled fun w body => buffer ⟨w, body⟩
      rw [lookups.inherits_of_prototype intact.closed (on.inside e.1 hr) prototype,
        none] at inherits
      cases inherits

theorem Faithful.template? (faithful : st.Faithful r) : st.template? r = none := by
  rw [Store.template?]
  split
  · next t body => exact absurd body (faithful.noTemplate t)
  · rfl

/-- Values that are not made as templates are none. -/
theorem Untouched.templateRef?_eq_none (untouched : st.Untouched)
    (noTemplate : ∀ r ∈ v.refs, ∀ t, (st.get r).body ≠ .template t) :
    st.templateRef? v = none := by
  cases v with
  | object r =>
      rw [templateRef?, if_neg]
      intro template
      rcases untouched r template with ⟨t, there⟩
      exact noTemplate r List.mem_cons_self t (body_of_template? there)
  | _ => rfl

end Store

end Stencil
