import Stencil.Proofs.Acceptance
import Stencil.Proofs.JsonReading

/-!
# The Trees of Structured Values

Which document a structured value is written as, and that the text tells.

`Store.Depicts` says what the document of a value is without saying how it comes
about: a recursion over the value itself, in which arrays and sets are arrays,
plain objects and maps are objects, and everything else is a leaf or nothing.
Serialization goes another way, as it puts a value for another one in place while
it walks, looks for methods, and keeps a path. On values that are made of the
kinds in question and do not contain themselves, both come to the same document.

The text of that document can be read back. So values with different documents
have different texts, whatever stores they live in.

## Main definitions

* `Form`, `Store.form`: What a value is in a tree.
* `Store.Depicts`: The document of a value.
* `Store.Piece`, `Store.Treelike`: What the values are that have a tree.

## Theorems

* `Store.Depicts.unique`: A value has one document at most.
* `Store.serialize_tree`: The text of a structured value.
-/

namespace Stencil

/-- What a value is in a tree. -/
inductive Form where
  /-- A finished document, or nothing. -/
  | leaf (document : Option Json)
  | items (values : List Value)
  | members (fields : List (String × Value))

/-- The document of a value that is no object. -/
def Value.leaf : Value → Option Json
  | null => some .null
  | boolean b => some (.boolean b)
  | number n => some (.number n)
  | bigint n => some (.text (integerText n))
  | text s => some (.text s)
  | undefined | symbol _ | object _ => none

/-- The values that something in a tree is made of. -/
def Form.values : Form → List Value
  | leaf _ => []
  | items values => values
  | members fields => fields.map Prod.snd

/-- What a form shows, with what it belongs to. -/
def Form.facet (owner : Option Ref) : Form → Facet
  | leaf document => .done document
  | items values => .items owner values
  | members fields => .members owner fields

namespace Store

/-- What a value is in a tree. Missing elements are elements that are undefined, and
    the keys of maps are names. -/
def form (st : Store) : Value → Form
  | .object r =>
    match (st.get r).body with
    | .record => .members (st.get r).dataEntries
    | .array elements => .items (elements.map fun element => element.getD .undefined)
    | .map entries => .members (ownKeyOrder (namedEntries entries))
    | .set elements => .items elements
    | .date (some t) => .leaf (some (.text t.text))
    | .url href => .leaf (some (.text href))
    | .boxed v => .leaf v.leaf
    | _ => .leaf none
  | v => .leaf v.leaf

/-- The document of a value, if it has one. An item without a document is null, and a
    member without one is left out. -/
inductive Depicts (st : Store) : Value → Option Json → Prop
  | leaf {v : Value} {document : Option Json} (form : st.form v = .leaf document) :
      Depicts st v document
  | items {v : Value} {values : List Value} (form : st.form v = .items values)
      (tree : Value → Option Json) (each : ∀ w ∈ values, Depicts st w (tree w)) :
      Depicts st v (some (.array (values.map fun w => (tree w).getD .null)))
  | members {v : Value} {fields : List (String × Value)} (form : st.form v = .members fields)
      (tree : Value → Option Json) (each : ∀ e ∈ fields, Depicts st e.2 (tree e.2)) :
      Depicts st v (some (.object (fields.filterMap fun e => (tree e.2).map fun j => (e.1, j))))

/-- The kinds of values that trees are made of. -/
inductive Piece (st : Store) : Value → Prop
  | undefined : Piece st .undefined
  | null : Piece st .null
  | boolean (b : Bool) : Piece st (.boolean b)
  /-- An integer that is a double without a doubt; there is only one zero among them. -/
  | number (i : Int) (safe : i.natAbs ≤ Number.maxSafe) : Piece st (.number (Number.ofInt i))
  | bigint (n : Int) : Piece st (.bigint n)
  | text (s : String) : Piece st (.text s)
  /-- A plain object that computes no properties and has no method for JSON. -/
  | record {r : Ref} (body : (st.get r).body = .record) (plain : (st.get r).isPlain = true)
      (data : ∀ e ∈ (st.get r).fields, ∃ v, e.2.slot = .data v) (lacks : st.LacksJson r) :
      Piece st (.object r)
  /-- Elements may be missing. -/
  | array {r : Ref} (elements : List (Option Value)) {integrity : Integrity}
      (there : st.get r = .bare (.array elements) integrity) : Piece st (.object r)
  /-- All keys are texts, numbers or booleans, with different names. -/
  | map {r : Ref} (entries : List (Value × Value)) (named : ∀ e ∈ entries, e.1.name? ≠ none)
      (distinct : ((namedEntries entries).map Prod.fst).Nodup) {integrity : Integrity}
      (there : st.get r = .bare (.map entries) integrity) : Piece st (.object r)
  | set {r : Ref} (elements : List Value) {integrity : Integrity}
      (there : st.get r = .bare (.set elements) integrity) : Piece st (.object r)
  | date {r : Ref} (t : Instant) {integrity : Integrity}
      (there : st.get r = .bare (.date (some t)) integrity) : Piece st (.object r)
  | url {r : Ref} (href : String) {integrity : Integrity}
      (there : st.get r = .bare (.url href) integrity) : Piece st (.object r)
  /-- Around a text, a boolean or an integer. -/
  | boxed {r : Ref} (v : Value) (inner : Piece st v)
      (simple : v.wrapper = .string ∨ v.wrapper = .number ∨ v.wrapper = .boolean)
      {integrity : Integrity} (there : st.get r = .bare (.boxed v) integrity) : Piece st (.object r)

/-- All that can be reached from a value is of these kinds, and nothing leads back to
    itself. -/
def Treelike (st : Store) (v : Value) : Prop :=
  ∀ w, Relation.ReflTransGen st.Leads v w →
    st.Piece w ∧ (∀ r ∈ w.refs, r.index < st.objects.size) ∧ ¬ Relation.TransGen st.Leads w w

variable {interp : Interpretation} {st : Store} {r : Ref} {v w : Value} {d : Option Json}

/-! ### Documents -/

/-- A value has one document at most. -/
theorem Depicts.unique {d' : Option Json} (depicts : st.Depicts v d) (other : st.Depicts v d') :
    d = d' := by
  induction depicts generalizing d' with
  | leaf form =>
      cases other with
      | leaf form' => exact Form.leaf.inj (form.symm.trans form')
      | items form' => cases form.symm.trans form'
      | members form' => cases form.symm.trans form'
  | @items v values form tree each ih =>
      cases other with
      | leaf form' => cases form.symm.trans form'
      | members form' => cases form.symm.trans form'
      | items form' tree' each' =>
          cases form.symm.trans form'
          refine congrArg (some ∘ Json.array) (List.map_congr_left fun w mem => ?_)
          rw [ih w mem (each' w mem)]
  | @members v fields form tree each ih =>
      cases other with
      | leaf form' => cases form.symm.trans form'
      | items form' => cases form.symm.trans form'
      | members form' tree' each' =>
          cases form.symm.trans form'
          refine congrArg (some ∘ Json.object) (List.filterMap_congr fun e mem => ?_)
          rw [ih e mem (each' e mem)]

namespace Piece

theorem regular (piece : st.Piece (.object r)) : st.Regular r ∧ st.DistinctNames r := by
  have other : ∀ {b : Body} {integrity : Integrity}, st.get r = .bare b integrity →
      (∀ entries, b ≠ .map entries) → st.DistinctNames r := by
    intro b integrity there none entries map
    rw [there] at map
    exact absurd map (none entries)
  cases piece with
  | record body plain data lacks =>
      refine ⟨.record body plain data lacks, fun entries map => ?_⟩
      cases body.symm.trans map
  | array elements there => exact ⟨.array elements there, other there nofun⟩
  | map entries named distinct there =>
      refine ⟨.map entries there, fun entries' map => ?_⟩
      rw [there] at map
      cases map
      exact distinct
  | set elements there => exact ⟨.set elements there, other there nofun⟩
  | date t there => exact ⟨.date (some t) there, other there nofun⟩
  | url href there => exact ⟨.url href there, other there nofun⟩
  | boxed v inner simple there => exact ⟨.boxed v simple there, other there nofun⟩

/-- What a piece shows is what it is in a tree. -/
theorem view_eq (piece : st.Piece v) :
    ∃ owner, st.view interp v = .ok ((st.form v).facet owner) := by
  cases piece with
  | @record r body plain data lacks =>
      exact ⟨some r, by rw [view_record body plain]; simp only [form, body]; rfl⟩
  | @array r elements _ there =>
      have body : (st.get r).body = .array elements := by rw [there, Object.body_bare]
      exact ⟨some r, by rw [view_array body]; simp only [form, body]; rfl⟩
  | @map r entries named distinct _ there =>
      have body : (st.get r).body = .map entries := by rw [there, Object.body_bare]
      exact ⟨none, by rw [view_map_named body named distinct]; simp only [form, body]; rfl⟩
  | @set r elements _ there =>
      have body : (st.get r).body = .set elements := by rw [there, Object.body_bare]
      exact ⟨none, by rw [view_set body]; simp only [form, body]; rfl⟩
  | date t there => exact ⟨none, by simp only [view, form, there, Object.body_bare]; rfl⟩
  | url href there => exact ⟨none, by simp only [view, form, there, Object.body_bare]; rfl⟩
  | boxed v inner simple there =>
      refine ⟨none, ?_⟩
      simp only [view, form, there, Object.body_bare]
      cases v with
      | symbol label => rcases simple with h | h | h <;> cases h
      | _ => rfl
  | _ => exact ⟨none, rfl⟩

/-- A leaf has no numbers but integers. -/
theorem whole (piece : st.Piece v) {j : Json} (form : st.form v = .leaf (some j)) : j.Whole := by
  induction piece generalizing j with
  | undefined => cases form
  | null => cases form; exact .null
  | boolean b => cases form; exact .boolean b
  | number i safe => cases form; exact .number i safe
  | bigint n => cases form; exact .text _
  | text s => cases form; exact .text s
  | boxed v inner simple there ih =>
      simp only [Store.form, there, Object.body_bare] at form
      refine ih ?_
      cases v with
      | object q => rcases simple with h | h | h <;> cases h
      | _ => exact form
  | record body =>
      simp only [Store.form, body] at form
      cases form
  | date t there =>
      simp only [Store.form, there, Object.body_bare] at form
      cases form
      exact .text _
  | url href there =>
      simp only [Store.form, there, Object.body_bare] at form
      cases form
      exact .text _
  | _ =>
      simp only [Store.form, *, Object.body_bare] at form
      cases form

end Piece

/-- What a piece is made of is written with it. -/
theorem Piece.leads (piece : st.Piece v) (mem : w ∈ (st.form v).values) : st.Leads v w := by
  have shown : ∃ owner, st.view Interpretation.standard v = .ok ((st.form v).facet owner) :=
    piece.view_eq
  rcases shown with ⟨owner, shown⟩
  have shows : (st.view Interpretation.standard).Shows v w := by
    cases form : st.form v with
    | leaf document =>
        rw [form] at mem
        cases mem
    | items values =>
        rw [form] at shown mem
        exact ⟨owner, _, _, shown, mem⟩
    | members fields =>
        rw [form] at shown mem
        exact ⟨owner, _, _, shown, mem⟩
  exact leads_of_shows shows

namespace Treelike

/-- What something in a tree is made of belongs to the tree. -/
theorem part (treelike : st.Treelike v) (mem : w ∈ (st.form v).values) : st.Treelike w :=
  fun u reached => treelike u (.head ((treelike v .refl).1.leads mem) reached)

theorem isRegular (treelike : st.Treelike v) : st.IsRegular v := by
  intro r reached
  rcases treelike (.object r) reached with ⟨piece, inside, -⟩
  exact ⟨inside r List.mem_cons_self, piece.regular⟩

theorem acceptable (treelike : st.Treelike v) : st.Acceptable v := by
  intro w reached
  rcases treelike w reached with ⟨piece, -, acyclic⟩
  have shown : ∃ owner, st.view Interpretation.standard w = .ok ((st.form w).facet owner) :=
    piece.view_eq
  rcases shown with ⟨owner, shown⟩
  exact ⟨(exists_facet_iff fun q hq => (treelike.isRegular.refs reached q hq).1).mp ⟨_, shown⟩,
    acyclic⟩

end Treelike

/-- What computations give one after the other is what a function has, where it is
    used. -/
theorem exists_tree_of_mapM {f : Value → Except Thrown (Option Json)} {values : List Value}
    {documents : List (Option Json)} (gives : values.mapM f = .ok documents) :
    ∃ tree : Value → Option Json, (∀ w ∈ values, f w = .ok (tree w))
      ∧ documents = values.map tree := by
  refine ⟨fun w => (f w).toOption.join, ?_, ?_⟩
  · intro w mem
    rcases exists_ok_of_mapM gives w mem with ⟨d, here⟩
    change f w = .ok (f w).toOption.join
    rw [here]
    rfl
  · induction values generalizing documents with
    | nil =>
        cases gives
        rfl
    | cons w values ih =>
        rw [List.mapM_cons] at gives
        rcases ok_of_bind gives with ⟨d, here, rest⟩
        rcases ok_of_bind rest with ⟨others, written, same⟩
        cases same
        rw [List.map_cons, here, ← ih written]
        rfl

/-- A document that is put together out of what is shown is the one that a value has. -/
theorem depicts_of_assemble (treelike : st.Treelike v) {n : Nat} {path : List Ref}
    (gives : (st.view interp).assemble n path v = .ok d) : st.Depicts v d := by
  induction n generalizing v d path with
  | zero => cases gives
  | succ n ih =>
      have shown : ∃ owner, st.view interp v = .ok ((st.form v).facet owner) :=
        (treelike v .refl).1.view_eq
      rcases shown with ⟨owner, shown⟩
      -- What has parts is entered, and they have documents of their own.
      have inside : ∀ {values : List Value} {join : List (Option Json) → Json},
          (st.form v).facet owner = .parts owner values join → values = (st.form v).values →
          ∃ tree : Value → Option Json, (∀ w ∈ values, st.Depicts w (tree w))
            ∧ d = some (join (values.map tree)) := by
        intro values join parts all
        rw [parts] at shown
        cases entered : enter path owner with
        | error e =>
            rw [View.assemble_circular shown entered] at gives
            cases gives
        | ok inner =>
            rw [View.assemble_parts shown entered] at gives
            cases each : values.mapM ((st.view interp).assemble n inner) with
            | error e =>
                rw [each] at gives
                cases gives
            | ok documents =>
                rw [each] at gives
                rcases exists_tree_of_mapM each with ⟨tree, trees, rfl⟩
                exact ⟨tree, fun w mem => ih (treelike.part (all ▸ mem)) (trees w mem),
                  (Except.ok.inj gives).symm⟩
      cases form : st.form v with
      | leaf document =>
          rw [form] at shown
          rw [View.assemble_done shown] at gives
          cases gives
          exact .leaf form
      | items values =>
          rcases inside (by rw [form]; rfl) (by rw [form]; rfl) with ⟨tree, each, rfl⟩
          rw [List.map_map]
          exact .items form tree each
      | members fields =>
          rcases inside (by rw [form]; rfl) (by rw [form]; rfl) with ⟨tree, each, rfl⟩
          have zipped : ((fields.map Prod.fst).zip ((fields.map Prod.snd).map tree)).filterMap
                (fun e => e.2.map fun j => (e.1, j))
              = fields.filterMap fun e => (tree e.2).map fun j => (e.1, j) := by
            rw [List.map_map, List.zip_map', List.filterMap_map]
            rfl
          rw [zipped]
          exact .members form tree fun e mem => each e.2 (List.mem_map_of_mem mem)

/-- The document of a treelike value has no numbers but integers. -/
theorem Depicts.whole (depicts : st.Depicts v d) (treelike : st.Treelike v) :
    ∀ j ∈ d, j.Whole := by
  induction depicts with
  | leaf form =>
      rintro j rfl
      exact (treelike _ .refl).1.whole form
  | items form tree each ih =>
      rintro j ⟨⟩
      refine .array _ fun j mem => ?_
      rcases List.mem_map.mp mem with ⟨w, hw, rfl⟩
      have inner := ih w hw (treelike.part (by rw [form]; exact hw))
      cases here : tree w with
      | none => exact .null
      | some j => exact inner j here
  | members form tree each ih =>
      rintro j ⟨⟩
      refine .object _ fun e mem => ?_
      rcases List.mem_filterMap.mp mem with ⟨m, hm, same⟩
      rcases Option.map_eq_some_iff.mp same with ⟨j, here, rfl⟩
      exact ih m hm (treelike.part (by rw [form]; exact List.mem_map_of_mem hm)) j here

/-- A structured value that is a tree, apart from what is shared, has a document, and its
    text is the text of that. -/
theorem exists_document_text (interp : Interpretation) (structured : st.IsStructure r)
    (treelike : st.Treelike (.object r)) :
    ∃ j, st.Depicts (.object r) (some j) ∧ j.Whole ∧ Serializer.serialize interp st (.object r)
      = .ok (.existing (.text (String.ofList j.print))) := by
  rcases (exists_document_iff treelike.isRegular).mpr treelike.acceptable with ⟨d, gives⟩
  rcases View.exists_of_parts structured.not_done gives with ⟨j, rfl⟩
  have depicts := depicts_of_assemble treelike gives
  refine ⟨j, depicts, depicts.whole treelike j rfl, ?_⟩
  rw [serialize_eq_assemble structured treelike.isRegular, gives]
  rfl

/-- A structured value that is a tree, apart from what is shared, has one document, and
    its text is the text of that. Reading the text gives the document back, so whatever
    else has the text has the document. -/
theorem serialize_tree (interp : Interpretation) (structured : st.IsStructure r)
    (treelike : st.Treelike (.object r)) :
    ∃ j, st.Depicts (.object r) (some j) ∧ (∀ d, st.Depicts (.object r) d → d = some j)
      ∧ Serializer.serialize interp st (.object r) = .ok (.existing (.text (String.ofList j.print)))
      ∧ Json.read? j.print = some j
      ∧ ∀ st' r', IsStructure st' r' → st'.Treelike (.object r') →
        Serializer.serialize interp st' (.object r')
          = .ok (.existing (.text (String.ofList j.print))) →
        st'.Depicts (.object r') (some j) := by
  rcases exists_document_text interp structured treelike with ⟨j, depicts, whole, text⟩
  refine ⟨j, depicts, fun d other => other.unique depicts, text, Json.read?_print whole, ?_⟩
  intro st' r' structured' treelike' same
  rcases exists_document_text interp structured' treelike' with ⟨j', depicts', whole', text'⟩
  have print : j'.print = j.print := by
    have texts := text'.symm.trans same
    have strings := Value.text.inj (Answer.existing.inj (Except.ok.inj texts))
    have lists := congrArg String.toList strings
    rwa [String.toList_ofList, String.toList_ofList] at lists
  have back := (Json.read?_print whole').symm.trans (print ▸ Json.read?_print whole)
  cases Option.some.inj back
  exact depicts'

section

/-- A plain object with a map and an array, which the map has as well. -/
private def shelf : Store :=
  ⟨Store.initial.objects ++ #[
    Object.plain [("b", .undefined), ("10", .object ⟨3⟩), ("9", .object ⟨4⟩)],
    Object.ofBody (.map [(.boolean true, .object ⟨4⟩), (.text "s", .null)]),
    Object.ofBody (.array [some (.bigint 5), none, some (.object ⟨5⟩)]),
    Object.ofBody (.boxed (.text "\n"))]⟩

/-- What the plain object leads to. -/
private def books : List Value :=
  [.object ⟨2⟩, .object ⟨3⟩, .object ⟨4⟩, .object ⟨5⟩, .bigint 5, .null, .undefined]

private theorem shelf_treelike {v : Value} (among : v ∈ books) : shelf.Treelike v := by
  have lacks : ∀ found ∈ shelf.find? ⟨2⟩ (.text "toJSON"), False := by decide
  have data : ∀ e ∈ (shelf.get ⟨2⟩).fields, e.2.slot.value?.isSome = true := by decide
  have pieces : ∀ v ∈ books, shelf.Piece v := by
    simp only [books, List.mem_cons, List.not_mem_nil, or_false]
    rintro v (rfl | rfl | rfl | rfl | rfl | rfl | rfl)
    · refine .record rfl rfl (fun e mem => ?_) fun found mem => (lacks found mem).elim
      have some := data e mem
      cases slot : e.2.slot with
      | data v => exact ⟨v, rfl⟩
      | accessor getter setter =>
          rw [slot] at some
          cases some
    · exact .map _ (by decide) (by decide) rfl
    · exact .array _ rfl
    · exact .boxed _ (.text "\n") (.inl rfl) rfl
    · exact .bigint 5
    · exact .null
    · exact .undefined
  have inside : ∀ v ∈ books, ∀ r ∈ v.refs, r.index < shelf.objects.size := by decide
  intro w met
  have here : w ∈ books := mem_of_reaches (by decide) among met
  exact ⟨pieces w here, inside w here, not_leads_back (by decide) here⟩

/-- What the parts of the object are in its tree. -/
private def pages : Value → Option Json
  | .object ⟨3⟩ => some (.object [("true", .array [.text "5", .null, .text "\n"]), ("s", .null)])
  | .object ⟨4⟩ => some (.array [.text "5", .null, .text "\n"])
  | .object ⟨5⟩ => some (.text "\n")
  | v => v.leaf

private theorem shelf_depicts : shelf.Depicts (.object ⟨2⟩) (some (.object [
    ("9", .array [.text "5", .null, .text "\n"]),
    ("10", .object [("true", .array [.text "5", .null, .text "\n"]), ("s", .null)])])) := by
  have fields : shelf.form (.object ⟨2⟩)
      = .members [("9", .object ⟨4⟩), ("10", .object ⟨3⟩), ("b", .undefined)] := rfl
  have entries : shelf.form (.object ⟨3⟩) = .members [("true", .object ⟨4⟩), ("s", .null)] := rfl
  have elements : shelf.form (.object ⟨4⟩) = .items [.bigint 5, .undefined, .object ⟨5⟩] := rfl
  have list : shelf.Depicts (.object ⟨4⟩) (pages (.object ⟨4⟩)) := by
    refine .items elements pages ?_
    simp only [List.mem_cons, List.not_mem_nil, or_false]
    rintro w (rfl | rfl | rfl) <;> exact .leaf rfl
  have map : shelf.Depicts (.object ⟨3⟩) (pages (.object ⟨3⟩)) := by
    refine .members entries pages ?_
    simp only [List.mem_cons, List.not_mem_nil, or_false]
    rintro e (rfl | rfl)
    · exact list
    · exact .leaf rfl
  refine .members fields pages ?_
  simp only [List.mem_cons, List.not_mem_nil, or_false]
  rintro e (rfl | rfl | rfl)
  · exact list
  · exact map
  · exact .leaf rfl

/-- Numbers come first among the members, what is undefined is none, and what the map
    and the object share is written twice. -/
theorem serialize_tree_of_shelf :
    let interp := Interpretation.standard
    shelf.IsStructure ⟨2⟩ ∧ shelf.Treelike (.object ⟨2⟩)
      ∧ ∃ j, Json.read? j.print = some j
        ∧ Serializer.serialize interp shelf (.object ⟨2⟩)
          = .ok (.existing (.text (String.ofList j.print)))
        ∧ j.print = ("\x7b\"9\":[\"5\",null,\"\\n\"],"
          ++ "\"10\":\x7b\"true\":[\"5\",null,\"\\n\"],\"s\":null\x7d\x7d").toList := by
  intro interp
  have treelike : shelf.Treelike (.object ⟨2⟩) := shelf_treelike (by decide)
  rcases serialize_tree interp (.record rfl rfl) treelike with ⟨j, -, only, text, back, -⟩
  cases only _ shelf_depicts
  exact ⟨.record rfl rfl, treelike, _, back, text, by decide⟩

end

end Store

end Stencil
