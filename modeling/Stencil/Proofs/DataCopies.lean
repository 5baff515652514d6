import Stencil.Proofs.GraphCopies

/-!
# Copies of Data

Copying data succeeds and keeps the content.

Plain data, as storing leaves it, is among what can be copied. It refers to
nothing but what it holds, and it holds no functions, so putting the copies of
what it holds in the place of that is renaming it, and the copy of data is data
with the same content.

## Theorems

* `Object.IsData.refs_eq`: Data refers to what it holds.
* `Object.IsData.carry_eq`: Holding other addresses is renaming.
* `Store.copyable_of_isData`: Data can be copied.
* `Store.copy_data`: A copy of data has the same content.
-/

namespace Stencil

namespace Object

variable {f : Ref → Ref} {o : Object}

/-- Data refers to what it holds and to nothing else. -/
theorem IsData.refs_eq (data : o.IsData) : o.refs = o.held := by
  rw [held_eq]
  cases data with
  | record _ body plain _ data =>
      -- A plain object has no prototype of its own, and its properties compute nothing.
      have above : o.prototype.refs = [] := by
        rcases isPlain_iff.mp plain with family | none
        · rw [family]
          rfl
        · rw [none]
          rfl
      have fields : o.fields.flatMap (fun e => e.2.slot.refs)
          = o.fields.parts.flatMap Value.refs := by
        rw [Keyed.parts, List.flatMap_assoc]
        refine List.flatMap_congr fun e he => ?_
        rcases data e he with ⟨v, slot⟩
        have parts : e.2.parts = [v] := by rw [Property.parts, slot]
        change _ = e.2.parts.flatMap Value.refs
        rw [slot, parts]
        exact (List.append_nil v.refs).symm
      rw [refs, above, fields, body]
      rfl
  | array elements => exact (Body.Fillable.array elements).refs_eq
  | map entries distinct => exact (Body.Fillable.map entries distinct).refs_eq
  | set elements distinct => exact (Body.Fillable.set elements distinct).refs_eq
  | date instant _ => exact (Body.Fillable.date instant).refs_eq

/-- For data, holding other addresses is being renamed. -/
theorem IsData.carry_eq (data : o.IsData) : o.carry f = o.rename f := by
  cases data with
  | record _ body plain integrity data =>
      have above : o.prototype.rename f = o.prototype := by
        rcases isPlain_iff.mp plain with family | none
        · rw [family]
          rfl
        · rw [none]
          rfl
      have fields : o.fields.map (fun e => (e.1, e.2.carry f))
          = o.fields.map fun e => (e.1, e.2.rename f) := by
        refine List.map_congr_left fun e he => ?_
        rcases data e he with ⟨v, slot⟩
        rw [Property.carry, Property.rename, slot]
        rfl
      rw [carry, Object.rename, above, fields, integrity]
  | date instant _ => rfl
  | _ => rfl

end Object

namespace Store

variable {st : Store} {S : Set Ref} {v : Value} {r : Ref}

/-- Data can be copied. -/
theorem copyable_of_isData (data : (st.get r).IsData) : st.Copyable r := by
  generalize there : st.get r = o at data
  cases data with
  | record _ body plain _ _ =>
      refine .record (there ▸ body) ?_
      rcases Object.isPlain_iff.mp plain with family | none
      · exact .family (there ▸ family) rfl
      · exact .none (there ▸ none)
  | array elements => exact .array elements there
  | map entries distinct => exact .map entries distinct there
  | set elements distinct => exact .set elements distinct there
  | date instant within => exact .date instant within there

theorem DataOn.graphOn (on : st.DataOn S) : st.GraphOn S where
  copyable r hr := copyable_of_isData (on.data r hr)
  inside := on.inside
  closed r hr q hq := .inl (on.closed r hr q ((on.data r hr).refs_eq ▸ hq))

/-- A copy of data has the same content, and all that is new is data. -/
theorem copy_data (interp : Interpretation) (data : st.IsData v) :
    ∃ st' w, st.copy interp v = .ok (st', w) ∧ st.Extends st' ∧ Alike st v st' w
      ∧ ∀ r, st.objects.size ≤ r.index → r.index < st'.objects.size →
        (st'.get r).IsData ∧ ∀ q ∈ (st'.get r).refs, q.index < st'.objects.size := by
  rcases data with ⟨S, on, reached⟩
  have graph := on.graphOn
  rcases copy_graph interp graph fun q hq => .inl (reached q hq) with
    ⟨state, gives, sound, filled, settled⟩
  -- Data holds no functions, so everything that it holds has a copy.
  have known : ∀ q, q ∈ S → Copying.Settled st state q → q ∈ state.known := by
    intro q hq settled
    rcases settled with known | function
    · exact known
    · exact nomatch (graph.clones.object q hq).symm.trans function
  have held : ∀ r ∈ state.known, ∀ q ∈ (st.get r).refs, q ∈ state.known := by
    intro r hr q hq
    have source := sound.sources r hr
    refine known q (on.closed r source q hq) ?_
    rw [(on.data r source).refs_eq] at hq
    exact (filled _ (Copying.mem_copies_target hr)).settled q hq
  have get_eq : ∀ e ∈ state.copies, state.store.get e.2 = (st.get e.1).rename state.target := by
    intro e he
    have source := sound.sources e.1 (List.mem_map_of_mem he)
    rw [(filled e he).get_eq, (on.data e.1 source).carry_eq]
  have injective : Set.InjOn state.target {r | r ∈ state.known} :=
    (sound.injOn_settled graph.clones.object).mono fun r hr => .inl hr
  have matched : Matches state.target {r | r ∈ state.known} st state.store := by
    refine ⟨injective, held, fun r hr => on.inside r (sound.sources r hr), ?_, ?_⟩
    · exact fun r hr => (sound.fresh _ (Copying.mem_copies_target hr)).2
    · exact fun r hr => get_eq _ (Copying.mem_copies_target hr)
  -- The copies are all that is new, and each is what an object was renamed to.
  refine ⟨state.store, v.rename state.target, gives, sound.grown, ?_, ?_⟩
  · exact ⟨_, _, matched, fun q hq => known q (reached q hq) (settled q hq), rfl⟩
  · intro r above below
    rcases List.mem_map.mp (sound.complete r above below) with ⟨e, he, rfl⟩
    have known : e.1 ∈ state.known := List.mem_map_of_mem he
    rw [get_eq e he]
    constructor
    · refine (on.data e.1 (sound.sources e.1 known)).rename ?_
      exact injective.mono (held e.1 known)
    · intro q hq
      rw [Object.refs_rename] at hq
      rcases List.mem_map.mp hq with ⟨p, hp, rfl⟩
      exact (sound.fresh _ (Copying.mem_copies_target (held e.1 known p hp))).2

end Store

end Stencil
