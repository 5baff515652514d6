import Stencil.Proofs.CopyLikeness
import Stencil.Template.Methods

/-!
# Defaults and Values That Are Given

Rendering with a default, and with the same value given directly.

A template fills its placeholders with what it is given, and with its defaults
where it is given nothing. So it makes no difference which of the two a value is, as
long as it is inserted the same. But a default is a copy of the value, and storing
it changes the store: a template has a default that it did not have. Whatever looks
at that template may look different now, and that includes rendering. A template
that is given to itself is rendered with its new default.

`Template.insertion` is what has to be the same before and after. For values for
which nothing is called that follows from what they lead to, which is no template,
and for a template from its defaults, by induction on how templates are stored in
one another.

## Main definitions

* `Template.IsStandard`: A template with the default serializer.
* `Store.AddsEntry`: What is supplied together with one more value.
* `Store.Avoids`: Values that are inserted without a look at a template.
* `Template.insertion`: What a template inserts for a value.
* `Template.Reproduces`: A value that is inserted as its copy is.

## Theorems

* `Store.sameLookups_putDefault`: Giving a template a default changes no lookup.
* `Template.insertion_likeness`, `Template.insertion_of_avoids`: What is inserted the
  same.
* `Template.filled_default`: Filling with a default, or with a given value.
* `Template.setDefault_eq`: Storing the copy of a value.
* `Template.render_default`, `Template.setDefault_then_render`: Rendering with a
  default, or with a given value.
-/

namespace Stencil

/-- A template that writes values with the default serializer. -/
structure Template.IsStandard (t : Template) : Prop where
  variant : t.variant = .prompt
  serializer : t.serializer = none

theorem Template.IsStandard.serialize_eq {t : Template} (standard : t.IsStandard)
    (interp : Interpretation) (st : Store) (v : Value) :
    t.serialize interp st v = Serializer.serialize interp st v := by
  simp only [serialize, standard.variant, serializeBase, standard.serializer]

namespace Store

/-- What is supplied if an entry is supplied as well. What is undefined counts as
    absent. -/
structure AddsEntry (key : String) (v : Value) (supplied supplied' : List (String × Value)) :
    Prop where
  others : supplied'.filter (fun e => e.1 ≠ key) = supplied
  here : supplied'.lookup key = if v = .undefined then none else some v

variable {st st' : Store} {r d : Ref} {t : Template} {key : String} {v : Value} {f : Ref → Ref}
  {S : Set Ref} {supplied supplied' : List (String × Value)}

/-- What an object with one entry supplies. -/
theorem supplies_entry (there : st.get d = .plain [(key, v)]) :
    st.Supplies (.object d) (if v = .undefined then [] else [(key, v)]) := by
  have entries : (Object.plain [(key, v)]).dataEntries = [(key, v)] := by
    rw [Object.dataEntries_record rfl]
    rfl
  refine ⟨d, rfl, there ▸ ⟨fun e he => ?_, fun t => nofun⟩, ?_⟩
  · have only : (Object.plain [(key, v)]).enumerable = [(key, .data v)] := rfl
    rw [only] at he
    exact ⟨v, (List.mem_singleton.mp he) ▸ rfl⟩
  · rw [there, entries]
    by_cases none : v = .undefined
    · rw [if_pos none, List.filter_cons_of_neg (by simpa using none), List.filter_nil]
    · rw [if_neg none, List.filter_cons_of_pos (by simpa using none), List.filter_nil]

/-- What is undefined adds nothing. -/
theorem AddsEntry.eq_of_undefined (adds : AddsEntry key .undefined supplied supplied') :
    supplied' = supplied := by
  rw [← adds.others, List.filter_eq_self.mpr fun e he => ?_]
  refine decide_eq_true fun same => ?_
  have absent := lookup_eq_none_iff_keys.mp adds.here
  exact absent (same ▸ List.mem_map_of_mem he)

/-- Giving a template a default changes no lookup. -/
theorem sameLookups_putDefault (held : st.template? r = some t) :
    st.SameLookups (st.putDefault r key v) := by
  have body := body_of_template? held
  refine ⟨Nat.le_of_eq (size_putDefault held).symm, fun q _ => prototype_putDefault held q, ?_, ?_,
    ?_⟩
  · intro q _ k
    by_cases same : q = r
    · rw [same, get_putDefault_self held]
      cases k with
      | symbol label => rfl
      | text name =>
          simp only [Object.own?, Object.bodyProperty?, Object.usualProperty?, Object.indexed,
            Object.length?, body, List.getElem?_nil, Option.join_none, Option.map_none]
          rfl
    · rw [get_putDefault_ne held same]
  · intro q _ k
    by_cases same : q = r
    · rw [same, get_putDefault_self held]
      simp only [Object.ownNative?, body]
      cases k <;> rfl
    · rw [get_putDefault_ne held same]
  · intro q _
    by_cases same : q = r
    · rw [same, get_putDefault_self held]
      simp only [Object.isFunction, body]
    · rw [get_putDefault_ne held same]

/-- An object of data stays the same where a template is given a default. -/
theorem Supplies.putDefault {values : Value} {supplied : List (String × Value)}
    (supplies : st.Supplies values supplied) (held : st.template? r = some t) :
    (st.putDefault r key v).Supplies values supplied := by
  rcases supplies with ⟨q, rfl, data, same⟩
  have apart : q ≠ r := by
    rintro rfl
    exact data.noTemplate t (body_of_template? held)
  have object : (st.putDefault r key v).get q = st.get q := get_putDefault_ne held apart
  exact ⟨q, rfl, object ▸ data, object ▸ same⟩

/-- What stands for objects is no template, so it still does after a template was
    given a default. -/
theorem Likeness.putDefault (h : Likeness f S st st') (held : st'.template? r = some t) :
    Likeness f S st (st'.putDefault r key v) := by
  have body := body_of_template? held
  refine ⟨h.on, h.closed, h.lookups.trans (sameLookups_putDefault held), h.injective, h.functions,
    fun q hq object => ?_, fun q hq => ?_⟩
  · have stands := h.objects q hq object
    have apart : f q ≠ r := by
      intro same
      exact stands.noTemplate (h.on.faithful q hq).noTemplate t (same ▸ body)
    rw [get_putDefault_ne held apart]
    exact stands
  · rw [size_putDefault held]
    exact h.inside q hq

/-- Values that are inserted without a look at a template: values for which nothing is
    called, and other templates whose defaults are such values in turn. -/
inductive Avoids (st : Store) (r : Ref) : Value → Prop
  | data {v : Value} (faithful : st.IsFaithful v) : Avoids st r v
  | template {v : Value} {q : Ref} {u : Template} (found : st.templateRef? v = some q)
      (there : st.template? q = some u) (other : q ≠ r) (standard : u.IsStandard)
      (defaults : ∀ name ∈ u.placeholders, ∀ w, u.defaults.lookup name = some w → Avoids st r w) :
      Avoids st r v

end Store

namespace Template

variable {interp : Interpretation} {st st' : Store} {r d : Ref} {t : Template} {key : String}
  {u v : Value} {supplied supplied' : List (String × Value)}

/-! ### Writing -/

/-- Values are written the same if they are serialized the same, and what is refused
    is of the same type. -/
theorem write_eq (serialized : t.serialize interp st' u = t.serialize interp st v)
    (outcome : (∃ s, t.serialize interp st v = .ok (.existing (.text s)))
      ∨ ∃ e, t.serialize interp st v = .error e ∧ e.IsFault)
    (typed : ∃ name, st.typeName interp v = .ok name ∧ st'.typeName interp u = .ok name) :
    (t.write interp key u).resultAt st' = (t.write interp key v).resultAt st := by
  rcases outcome with ⟨s, text⟩ | ⟨e, fails, kind, message, rfl⟩
  · rw [resultAt_write_eq_ok_iff.mpr text, resultAt_write_eq_ok_iff.mpr (serialized.trans text)]
  · rcases typed with ⟨name, here, elsewhere⟩
    rw [resultAt_write_raised fails rfl here,
      resultAt_write_raised (serialized.trans fails) rfl elsewhere]
    rfl

/-! ### Inserting -/

/-- What a template inserts for a value: what the value renders as if it is a
    template, and otherwise what it is written as. -/
def insertion (interp : Interpretation) (st : Store) (t : Template) (key : String) (v : Value) :
    Except Failure Value :=
  (piece (fun inner => render interp "value" inner .undefined)
    (do return .text (← t.write interp key v)) v).resultAt st

/-- What is inserted is what the value is converted to while rendering. -/
theorem insertion_eq (untouched : st.Untouched) (t : Template) (key : String) (v : Value) :
    t.insertion interp st key v
      = (t.converted interp st (fun inner => rendered interp st st.objects.size inner []) key
          v).map Value.text := by
  have rendering : ∀ {inner : Ref}, inner ∈ {q | ∃ u, st.template? q = some u} →
      (render interp "value" inner .undefined).Looks st
        ∧ (render interp "value" inner .undefined).resultAt st
          = (rendered interp st st.objects.size inner []).map Value.text := by
    rintro inner ⟨u, held⟩
    rcases render_eq untouched "value" held (.inr ⟨rfl, rfl⟩) with ⟨looks, gives⟩
    exact ⟨looks, by rw [gives, rendered_inner]⟩
  exact (writesAs_piece t rendering key v fun inner found => untouched.template found).2

/-- What is inserted is the same only if it is converted to the same. -/
theorem converted_of_insertion (untouched : st.Untouched) (untouched' : st'.Untouched)
    (same : t.insertion interp st' key u = t.insertion interp st key v) :
    t.converted interp st' (fun inner => rendered interp st' st'.objects.size inner []) key u
      = t.converted interp st (fun inner => rendered interp st st.objects.size inner []) key v := by
  rw [insertion_eq untouched, insertion_eq untouched'] at same
  revert same
  generalize t.converted interp st' _ key u = x
  generalize t.converted interp st _ key v = y
  intro same
  cases x <;> cases y <;> cases same <;> rfl

/-- A template inserts the same for a value and for what stands for it. -/
theorem insertion_likeness {f : Ref → Ref} {S : Set Ref} (h : Store.Likeness f S st st')
    (covered : View.Over S v) (untouched : st.Untouched) (untouched' : st'.Untouched)
    (standard : t.IsStandard) (key : String) :
    t.insertion interp st' key (v.rename f) = t.insertion interp st key v := by
  have none : st.templateRef? v = Option.none :=
    untouched.templateRef?_eq_none fun q hq => (h.on.faithful q (covered q hq)).noTemplate
  have none' : st'.templateRef? (v.rename f) = Option.none :=
    untouched'.templateRef?_eq_none (h.noTemplate_rename covered)
  rw [insertion_eq untouched, insertion_eq untouched', converted, converted, none, none']
  refine congrArg _ (write_eq ?_ ?_ (h.typeName_eq covered))
  · rw [standard.serialize_eq, standard.serialize_eq, h.resemblance.serialize_eq covered]
  · rw [standard.serialize_eq]
    exact h.resemblance.serialize_cases covered

/-- What is inserted without a look at a template is inserted as before where nothing
    but that template has changed. -/
theorem insertion_of_avoids (avoids : st.Avoids r v) (closed : st.Closed)
    (untouched : st.Untouched) (untouched' : st'.Untouched) (held : (st.template? r).isSome)
    (lookups : st.SameLookups st') (others : st.ExtendsBut r st') (standard : t.IsStandard)
    (key : String) : t.insertion interp st' key v = t.insertion interp st key v := by
  induction avoids generalizing t key with
  | @data v faithful =>
      rcases faithful with ⟨S, on, covered⟩
      have same : ∀ q ∈ S, st'.get q = st.get q := by
        intro q hq
        refine others.get_eq q (on.inside q hq) fun here => ?_
        rw [← here, (on.faithful q hq).template?] at held
        cases held
      have inserted : t.insertion interp st' key (v.rename id) = t.insertion interp st key v :=
        insertion_likeness (Store.likeness_self closed on lookups same) covered untouched untouched'
          standard key
      rwa [Value.rename_id] at inserted
  | @template v q u found there other standard' _ ih =>
      have inside := Store.index_lt_of_template? there
      have there' : st'.template? q = some u := by
        rw [Store.template?, others.get_eq q inside other]
        exact there
      have found' : st'.templateRef? v = some q := by
        cases v with
        | object p =>
            have same : p = q := by
              rw [Store.templateRef?] at found
              split at found
              · exact Option.some.inj found
              · cases found
            rw [Store.templateRef?, lookups.inherits_eq closed (same ▸ inside)]
            exact found
        | _ => cases found
      -- Nothing is supplied to it, so it is filled with its defaults.
      have texts : rendered interp st' (st'.objects.size + 1) q []
          = rendered interp st (st.objects.size + 1) q [] := by
        rw [rendered, rendered, there, there']
        refine filled_eq_of_same rfl fun name hn => ?_
        cases default : u.defaults.lookup name with
        | none => exact .inl ⟨default, default⟩
        | some y =>
            exact .inr ⟨y, y, default, default,
              converted_of_insertion untouched untouched' (ih name hn y default standard' name)⟩
      rw [insertion_eq untouched, insertion_eq untouched', converted, converted, found, found']
      change (rendered interp st' _ q []).map _ = (rendered interp st _ q []).map _
      rw [rendered_inner, rendered_inner, texts]

/-! ### Filling -/

theorem lookup_setDefaultValue (key name : String) (v : Value) (defaults : List (String × Value)) :
    (setDefaultValue key v defaults).lookup name
      = if name = key then some v else defaults.lookup name := by
  induction defaults with
  | nil =>
      rw [setDefaultValue, List.lookup_cons]
      by_cases here : name = key
      · rw [if_pos here, beq_iff_eq.mpr here]
      · rw [if_neg here, beq_eq_false_iff_ne.mpr here]
  | cons e defaults ih =>
      rcases e with ⟨known, old⟩
      rw [setDefaultValue]
      by_cases same : known = key
      · rw [if_pos same, List.lookup_cons, List.lookup_cons, same]
        by_cases here : name = key
        · rw [if_pos here, beq_iff_eq.mpr here]
        · rw [if_neg here, beq_eq_false_iff_ne.mpr here]
      · rw [if_neg same, List.lookup_cons, List.lookup_cons, ih]
        by_cases here : name = known
        · rw [beq_iff_eq.mpr here]
          exact (if_neg fun other => same (here.symm.trans other)).symm
        · rw [beq_eq_false_iff_ne.mpr here]

/-- What is there under a name, if a value is a default or if it is given. -/
theorem valueFor?_default (adds : Store.AddsEntry key v supplied supplied')
    (given : v ≠ .undefined) (name : String) :
    ({ t with defaults := setDefaultValue key u t.defaults } : Template).valueFor? supplied name
        = (if name = key then some u else t.valueFor? supplied name)
      ∧ t.valueFor? supplied' name
        = if name = key then some v else t.valueFor? supplied name := by
  have absent : supplied.lookup key = none := by
    rw [lookup_eq_none_iff_keys, ← adds.others]
    rintro mem
    rcases List.mem_map.mp mem with ⟨e, he, same⟩
    exact of_decide_eq_true (List.mem_filter.mp he).2 same
  rw [valueFor?, valueFor?, valueFor?, lookup_setDefaultValue]
  by_cases here : name = key
  · rw [if_pos here, if_pos here, if_pos here, here, absent, adds.here, if_neg given]
    exact ⟨rfl, rfl⟩
  · have same : supplied'.lookup name = supplied.lookup name := by
      rw [← adds.others]
      exact (lookup_filter_keys (p := fun k => decide (k ≠ key)) (decide_eq_true here)).symm
    rw [if_neg here, if_neg here, if_neg here, same]
    exact ⟨rfl, rfl⟩

/-- Filling a template with a default, or with a given value that is converted to the
    same. -/
theorem filled_default {convert convert' : String → Value → Except Failure String}
    (declared : key ∈ t.placeholders) (adds : Store.AddsEntry key v supplied supplied')
    (given : v ≠ .undefined) (here : convert' key u = convert key v)
    (others : ∀ name ∈ t.placeholders, name ≠ key → ∀ x, t.valueFor? supplied name = some x →
      convert' name x = convert name x) :
    ({ t with defaults := setDefaultValue key u t.defaults } : Template).filled convert' supplied
      = t.filled convert supplied' := by
  refine filled_eq_of_same ?_ fun name hn => ?_
  · -- The key is one of a placeholder, so leaving it out changes nothing.
    rw [unknownKeys, unknownKeys, ← adds.others, List.filter_map, List.filter_map,
      List.filter_filter]
    refine congrArg (List.map Prod.fst) (List.filter_congr fun e _ => ?_)
    by_cases same : e.1 = key
    · simpa [same] using declared
    · simp [same]
  · rcases valueFor?_default (t := t) (u := u) adds given name with ⟨stored, direct⟩
    by_cases same : name = key
    · rw [if_pos same] at stored direct
      exact .inr ⟨v, u, direct, stored, same ▸ here⟩
    · rw [if_neg same] at stored direct
      cases found : t.valueFor? supplied name with
      | none => exact .inl ⟨direct.trans found, stored.trans found⟩
      | some x =>
          exact .inr ⟨x, x, direct.trans found, stored.trans found, others name hn same x found⟩

/-! ### Storing -/

/-- Storing the copy of a value that is no template. If there is no value, nothing is
    stored. -/
theorem setDefault_eq (what : String) (held : st.template? r = some t)
    (there : st.get d = .plain [(key, v)]) (noTemplate : st.templateRef? v = none)
    (copies : st.copy interp v = .ok (st', u)) :
    (askSetDefault interp what r (.object d)).resultAt st = .ok .undefined
      ∧ (askSetDefault interp what r (.object d)).storeAfter st
        = if v = .undefined then st else st'.putDefault r key u := by
  have supplies := Store.supplies_entry there
  have read := Store.supplied_eq interp supplies
  -- The same value is given back however much is stored.
  have asked : ∀ {later : Store}, ((setDefault interp r (.object d)).Ensures False st
      fun _ st' => st' = later) →
      (askSetDefault interp what r (.object d)).resultAt st = .ok .undefined
        ∧ (askSetDefault interp what r (.object d)).storeAfter st = later := by
    intro later stores
    have ensured : (askSetDefault interp what r (.object d)).Ensures False st fun result st' =>
        result = .undefined ∧ st' = later := by
      refine Action.ensures_bind_asking ?_
      rw [held]
      exact Action.ensures_bind stores fun _ _ same => ⟨rfl, same⟩
    rcases Action.exists_of_ensures ensured with ⟨_, gives, rfl, stored⟩
    exact ⟨gives, stored⟩
  refine asked (Action.ensures_bind_ok (Action.resultAt_reading_ok read) ?_)
  rw [Action.storeAfter_reading_ok read]
  by_cases none : v = .undefined
  · rw [if_pos none, if_pos none]
    exact rfl
  · rw [if_neg none, if_neg none]
    have one : (storeOne interp (copy interp) r key v).Ensures False st fun _ later =>
        later = st'.putDefault r key u := by
      refine ensures_storeOne (Store.isSealed_of_template? held) (fun absent => absurd absent none)
        fun _ => Action.ensures_bind_asking ?_
      rw [noTemplate, Action.Ensures, Action.resultAt_reading_ok copies,
        Action.storeAfter_reading_ok copies]
    exact Action.ensures_bind one fun _ _ same => same

/-! ### Rendering -/

/-- Rendering with a default that is inserted as the value is, and rendering with the
    value. -/
theorem render_default (what : String) {later : Store} {w w' : Value} (intact : st.Intact)
    (held : st.template? r = some t) (declared : key ∈ t.placeholders) (grown : st.Extends st')
    (untouched : st'.Untouched)
    (stored : later = if v = .undefined then st else st'.putDefault r key u)
    (written : v ≠ .undefined → t.insertion interp later key u = t.insertion interp st key v)
    (inside : st.Holds w) (offered : Offers st w supplied) (offered' : Offers st w' supplied')
    (adds : Store.AddsEntry key v supplied supplied')
    (others : ∀ name ∈ t.placeholders, name ≠ key → ∀ x, t.valueFor? supplied name = some x →
      t.insertion interp later name x = t.insertion interp st name x) :
    (render interp what r w).resultAt later = (render interp what r w').resultAt st := by
  rw [(render_eq intact.untouched what held offered').2]
  by_cases none : v = .undefined
  · subst none
    rw [stored, if_pos rfl, (render_eq intact.untouched what held offered).2, adds.eq_of_undefined]
  · rw [if_neg none] at stored
    have there := grown.template? held
    have untouched' : later.Untouched := stored ▸ untouched.putDefault there
    have held' : later.template? r = some { t with defaults := setDefaultValue key u t.defaults } :=
      stored ▸ Store.template?_putDefault there
    have offered'' : Offers later w supplied := by
      rcases offered with supplies | nothing
      · exact .inl (stored ▸ (supplies.extends inside grown).putDefault there)
      · exact .inr nothing
    rw [(render_eq untouched' what held' offered'').2, rendered, rendered, held', held]
    refine congrArg _ (filled_default declared adds none ?_ fun name hn other x found => ?_)
    · exact converted_of_insertion intact.untouched untouched' (written none)
    · exact converted_of_insertion intact.untouched untouched' (others name hn other x found)

/-- A value has a copy that a template inserts as the value, when it has it as a
    default. -/
def Reproduces (interp : Interpretation) (st : Store) (v : Value) : Prop :=
  st.templateRef? v = none ∧ ∃ st' u, st.copy interp v = .ok (st', u) ∧ st.Extends st'
    ∧ st'.Untouched ∧ ∀ {r : Ref} {t : Template} {key : String}, st.template? r = some t →
      t.IsStandard → t.insertion interp (st'.putDefault r key u) key u = t.insertion interp st key v

/-- Values for which nothing is called are inserted as their copies are. -/
theorem reproduces_of_faithful (interp : Interpretation) (intact : st.Intact)
    (data : st.IsFaithful v) : Reproduces interp st v := by
  rcases data with ⟨S, on, covered⟩
  have none : st.templateRef? v = Option.none :=
    intact.untouched.templateRef?_eq_none fun q hq => (on.faithful q (covered q hq)).noTemplate
  rcases Store.copy_likeness interp intact.closed on covered with
    ⟨state, T, copies, sound, formed, covered', like⟩
  have untouched := Store.untouched_of_copies intact on.clones sound formed
  refine ⟨none, state.store, _, copies, sound.grown, untouched, fun held standard => ?_⟩
  have held' := sound.grown.template? held
  exact insertion_likeness (like.putDefault held') covered' intact.untouched
    (untouched.putDefault held') standard _

/-- Giving a template a value as a default and rendering it is rendering it with the
    value, if the value is inserted as its copy is. -/
theorem setDefault_then_render (what : String) {w w' : Value} (intact : st.Intact)
    (reproduces : Reproduces interp st v) (held : st.template? r = some t)
    (standard : t.IsStandard) (declared : key ∈ t.placeholders)
    (there : st.get d = .plain [(key, v)]) (inside : st.Holds w) (offered : Offers st w supplied)
    (offered' : Offers st w' supplied') (adds : Store.AddsEntry key v supplied supplied') :
    let later := (askSetDefault interp what r (.object d)).storeAfter st
    (∀ name ∈ t.placeholders, name ≠ key → ∀ x, t.valueFor? supplied name = some x →
      st.Avoids r x ∨ t.insertion interp later name x = t.insertion interp st name x) →
    (askSetDefault interp what r (.object d)).resultAt st = .ok .undefined
      ∧ (render interp what r w).resultAt later = (render interp what r w').resultAt st := by
  intro later others
  rcases reproduces with ⟨noTemplate, st', u, copies, grown, untouched, written⟩
  rcases setDefault_eq what held there noTemplate copies with ⟨gives, stored⟩
  change later = _ at stored
  have held' := grown.template? held
  refine ⟨gives, render_default what intact held declared grown untouched stored
    (fun given => ?_) inside offered offered' adds fun name hn other x found => ?_⟩
  · rw [stored, if_neg given]
    exact written held standard
  · rcases others name hn other x found with avoids | same
    · by_cases none : v = .undefined
      · rw [stored, if_pos none]
      · rw [stored, if_neg none]
        refine insertion_of_avoids avoids intact.closed intact.untouched
          (untouched.putDefault held') (by rw [held]; rfl)
          (grown.sameLookups.trans (Store.sameLookups_putDefault held')) ?_ standard name
        exact (grown.but r).trans (Store.extendsBut_putDefault held')
    · exact same

end Template

end Stencil
