import Stencil.Proofs.DeepCopies
import Stencil.Proofs.GivenDefaults
import Stencil.Proofs.Inert
import Stencil.Proofs.Trees

/-!
# What Serializers Look At

Where a store has changed, and what that has to do with what is written.

A serializer can look at everything, so anything that has changed may change the
text of a value. Most do not. A template attends to a value under a key if all that
matters is the value and what it leads to. This is asked for one value at a time,
as it is a property of the two together, and in view of some objects that may
change: other objects stay, like the prototypes of the value and what its methods
look at.

The default serializer attends to values that are no objects, and to trees. The
text of a tree is that of its document, and the document follows from the objects
of the tree alone.

## Main definitions

* `Template.Attends`: What is written for a value is up to what the value leads to.

## Theorems

* `Store.Treelike.later`, `Store.Depicts.later`: A tree is the same later on if its
  objects are.
* `Template.attends_of_simple`, `Template.attends_of_treelike`: The default serializer
  attends to what is no object, and to trees.
-/

namespace Stencil

namespace Store

variable {interp : Interpretation} {st st' : Store} {r q : Ref} {v w : Value} {d : Option Json}

/-- A plain object that is the same has no method for JSON either. -/
theorem LacksJson.later (lacks : st.LacksJson r) (closed : st.Closed) (h : st.Later st')
    (inside : r.index < st.objects.size) (plain : (st.get r).isPlain = true)
    (same : st'.get r = st.get r) : st'.LacksJson r := by
  -- The lookup goes on at a family, if it does.
  have found : st'.find? r (.text "toJSON") = st.find? r (.text "toJSON") := by
    rw [find?, findWithin, find?, findWithin, same]
    rcases Object.isPlain_iff.mp plain with next | next <;> rw [next]
  intro f mem
  rw [found] at mem
  rcases lacks f mem with ⟨p, holder, v, rfl, slot, none⟩
  refine ⟨p, holder, v, rfl, slot, ?_⟩
  cases v with
  | object q =>
      have there : q.index < st.objects.size :=
        closed.found inside mem q (by rw [slot]; exact .head _)
      rw [functionRef?, h.isFunction_eq q there]
      exact none
  | _ => rfl

/-- A piece of a tree that is the same is one. -/
theorem Piece.later (piece : st.Piece v) (closed : st.Closed) (h : st.Later st')
    (inside : ∀ r ∈ v.refs, r.index < st.objects.size)
    (same : ∀ r ∈ v.refs, st'.get r = st.get r) : st'.Piece v := by
  induction piece with
  | undefined => exact .undefined
  | null => exact .null
  | boolean b => exact .boolean b
  | number i safe => exact .number i safe
  | bigint n => exact .bigint n
  | text s => exact .text s
  | @record r body plain data lacks =>
      have here := same r List.mem_cons_self
      refine .record ?_ ?_ ?_ (lacks.later closed h (inside r List.mem_cons_self) plain here)
      all_goals rw [here]
      · exact body
      · exact plain
      · exact data
  | array elements there => exact .array elements ((same _ List.mem_cons_self).trans there)
  | map entries named distinct there =>
      exact .map entries named distinct ((same _ List.mem_cons_self).trans there)
  | set elements there => exact .set elements ((same _ List.mem_cons_self).trans there)
  | date t there => exact .date t ((same _ List.mem_cons_self).trans there)
  | url href there => exact .url href ((same _ List.mem_cons_self).trans there)
  | @boxed r v inner simple _ there ih =>
      have none : v.refs = [] := by
        cases v with
        | object q => rcases simple with h | h | h <;> cases h
        | _ => rfl
      refine .boxed v (ih ?_ ?_) simple ((same r List.mem_cons_self).trans there)
      all_goals rw [none]; exact nofun

/-- What is written with a tree was written with it before, if its objects are the
    same. -/
theorem leads_of_same (same : ∀ r, Relation.ReflTransGen st.Leads v (.object r) →
      st'.get r = st.get r) {u : Value} (reached : Relation.ReflTransGen st.Leads v u)
    (leads : st'.Leads u w) : st.Leads u w := by
  rcases leads with ⟨r, rfl, mem⟩
  exact ⟨r, rfl, same r reached ▸ mem⟩

/-- A tree is one later on, if its objects are the same. -/
theorem Treelike.later (treelike : st.Treelike v) (closed : st.Closed) (h : st.Later st')
    (same : ∀ r, Relation.ReflTransGen st.Leads v (.object r) → st'.get r = st.get r) :
    st'.Treelike v := by
  have back : ∀ {u : Value}, Relation.ReflTransGen st'.Leads v u →
      Relation.ReflTransGen st.Leads v u := by
    intro u reached
    induction reached with
    | refl => exact .refl
    | tail _ leads ih => exact ih.tail (leads_of_same same ih leads)
  intro w reached
  rcases treelike w (back reached) with ⟨piece, inside, acyclic⟩
  have whole : ∀ r ∈ w.refs, st'.get r = st.get r := by
    intro r mem
    cases w with
    | object q => exact List.mem_singleton.mp mem ▸ same q (back reached)
    | _ => cases mem
  refine ⟨piece.later closed h inside whole,
    fun r mem => Nat.lt_of_lt_of_le (inside r mem) h.size_le, fun cycle => acyclic ?_⟩
  -- A way around is over what is reached all along.
  have around : ∀ {u : Value}, Relation.TransGen st'.Leads w u →
      Relation.TransGen st.Leads w u := by
    intro u way
    induction way with
    | single leads => exact .single (leads_of_same same (back reached) leads)
    | tail _ leads ih =>
        exact ih.tail (leads_of_same same ((back reached).trans ih.to_reflTransGen) leads)
  exact around cycle

/-- The document of a tree is the same later on, if its objects are. -/
theorem Depicts.later (depicts : st.Depicts v d) (treelike : st.Treelike v)
    (same : ∀ r, Relation.ReflTransGen st.Leads v (.object r) → st'.get r = st.get r) :
    st'.Depicts v d := by
  have here : ∀ {v : Value}, (∀ r, Relation.ReflTransGen st.Leads v (.object r) →
      st'.get r = st.get r) → st'.form v = st.form v := by
    intro v same
    cases v with
    | object r => rw [Store.form, Store.form, same r .refl]
    | _ => rfl
  induction depicts with
  | leaf form => exact .leaf ((here same).trans form)
  | items form tree each ih =>
      refine .items ((here same).trans form) tree fun w mem => ?_
      have part := (treelike _ .refl).1.leads (by rw [form]; exact mem)
      exact ih w mem (fun u reached => treelike u (.head part reached))
        fun r reached => same r (.head part reached)
  | members form tree each ih =>
      refine .members ((here same).trans form) tree fun e mem => ?_
      have part := (treelike _ .refl).1.leads (by rw [form]; exact List.mem_map_of_mem mem)
      exact ih e mem (fun u reached => treelike u (.head part reached))
        fun r reached => same r (.head part reached)

/-- A structured value that is the same is one. -/
theorem IsStructure.later (structured : st.IsStructure r) (same : st'.get r = st.get r) :
    st'.IsStructure r := by
  cases structured with
  | record body plain => exact .record (by rw [same, body]) (by rw [same, plain])
  | array there => exact .array (same.trans there)
  | map there => exact .map (same.trans there)
  | set there => exact .set (same.trans there)

/-- What a tree is written with is reached from it. -/
theorem Treelike.reaches (treelike : st.Treelike v)
    (reached : Relation.ReflTransGen st.Leads v (.object r)) : st.Reaches v r := by
  have object : ∀ {q : Ref}, Relation.ReflTransGen st.Leads v (.object q) →
      (st.get q).isFunction = false := by
    intro q reached
    by_contra callable
    exact (treelike.acceptable _ reached).1 (.function (Bool.not_eq_false _ ▸ callable))
  generalize goal : Value.object r = w at reached
  induction reached generalizing r with
  | refl => exact .root goal.symm (object (goal ▸ .refl))
  | tail before leads ih =>
      rcases leads with ⟨p, rfl, mem⟩
      subst goal
      exact .step (ih rfl) (Object.children_subset_parts mem) (object (before.tail ⟨p, rfl, mem⟩))

end Store

namespace Template

variable {interp : Interpretation} {st : Store} {free : Set Ref} {t : Template}

/-- What a template writes for a value under a key is the same wherever only objects
    have changed that belong to a set and that the value does not lead to. -/
def Attends (interp : Interpretation) (st : Store) (free : Set Ref) (t : Template)
    (e : String × Value) : Prop :=
  ∀ ⦃st' : Store⦄, st.Later st' →
    (∀ q, q.index < st.objects.size → (q ∈ free → st.Reaches e.2 q) → st'.get q = st.get q) →
    (t.write interp e.1 e.2).resultAt st' = (t.write interp e.1 e.2).resultAt st

/-- The default serializer looks at nothing but the value, if that is no object. -/
theorem attends_of_simple (standard : t.IsStandard) {e : String × Value}
    (simple : e.2.refs = []) : t.Attends interp st free e := by
  rcases e with ⟨key, v⟩
  intro st' _ _
  have same : Serializer.serialize interp st' v = Serializer.serialize interp st v := by
    cases v with
    | object q => cases simple
    | _ => rfl
  have outcome : (∃ s, Serializer.serialize interp st v = .ok (.existing (.text s)))
      ∨ ∃ e, Serializer.serialize interp st v = .error e ∧ e.IsFault := by
    cases v with
    | object q => cases simple
    | undefined | symbol label => exact .inr ⟨_, rfl, _, _, rfl⟩
    | _ => exact .inl ⟨_, rfl⟩
  have typed : ∃ name, st.typeName interp v = .ok name ∧ st'.typeName interp v = .ok name := by
    cases v with
    | object q => cases simple
    | _ => exact ⟨_, rfl, rfl⟩
  rw [← standard.serialize_eq] at outcome
  exact write_eq (by rw [standard.serialize_eq, standard.serialize_eq, same]) outcome typed

/-- The default serializer looks at nothing but the objects of a tree. -/
theorem attends_of_treelike (standard : t.IsStandard) (closed : st.Closed) {r : Ref}
    (structured : st.IsStructure r) (treelike : st.Treelike (.object r)) (key : String) :
    t.Attends interp st free (key, .object r) := by
  intro st' later others
  have same : ∀ q, Relation.ReflTransGen st.Leads (.object r) (.object q) →
      st'.get q = st.get q := by
    intro q reached
    refine others q ?_ fun _ => treelike.reaches reached
    exact (treelike _ reached).2.1 q List.mem_cons_self
  rcases Store.exists_document_text interp structured treelike with ⟨j, depicts, -, text⟩
  rcases Store.exists_document_text interp (structured.later (same r .refl))
    (treelike.later closed later same) with ⟨j', depicts', -, text'⟩
  cases (depicts.later treelike same).unique depicts'
  rw [← standard.serialize_eq] at text text'
  rw [resultAt_write_eq_ok_iff.mpr text, resultAt_write_eq_ok_iff.mpr text']

end Template

end Stencil
