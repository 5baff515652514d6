import Stencil.Proofs.DataCopies
import Stencil.Proofs.Storing

/-!
# Stores That Stay Intact

Copying data and setting defaults leaves a store intact.

That is more than that old objects stay: a new object must not refer to an
address that nothing was allocated at, and must not count as a template unless
it is one. `Store.Fits` says this of one object.

Copying data also raises nothing, and the copy has the same content. Entries are
compared by content as well, each in its own store, since that is all that is
left of a default after some steps.

## Main definitions

* `Store.Fits`: An object of an intact store.
* `Store.SameEntry`: Entries with the same key and the same content.

## Theorems

* `Store.Intact.of_extends`, `Store.Intact.push`, `Store.Intact.putDefault`: A
  store stays intact.
* `Store.setDefaultValue_new`, `Store.keys_setDefaultValue_known`: Setting a default
  under a new key, and under a known one.
* `Template.ensures_copied_data`: Copying data.
-/

namespace Stencil

namespace Store

/-! ### Staying intact -/

/-- What holds of an object in an intact store: it refers to objects, and if it
    counts as a template it is one. -/
structure Fits (st : Store) (r : Ref) : Prop where
  held : ∀ q ∈ (st.get r).refs, q.index < st.objects.size
  untouched : st.inherits r (.template .prompt) = true → (st.template? r).isSome = true

variable {st st' : Store} {r : Ref} {t : Template} {key : String} {v : Value}

theorem intact_of_fits (fits : ∀ r, r.index < st.objects.size → st.Fits r) : st.Intact where
  closed r inside := (fits r inside).held
  untouched := untouched_iff.mpr fun i inside => (fits ⟨i⟩ inside).untouched

theorem Intact.fits (intact : st.Intact) (inside : r.index < st.objects.size) : st.Fits r where
  held := intact.closed r inside
  untouched := untouched_iff.mp intact.untouched r.index inside

/-- A store stays intact if everything that is new fits. -/
theorem Intact.of_extends (intact : st.Intact) (h : st.Extends st')
    (added : ∀ r, st.objects.size ≤ r.index → r.index < st'.objects.size → st'.Fits r) :
    st'.Intact := by
  refine intact_of_fits fun r inside => ?_
  by_cases old : r.index < st.objects.size
  · have fits := intact.fits old
    refine ⟨fun q hq => ?_, fun inherits => ?_⟩
    · rw [h.get_eq r old] at hq
      exact Nat.lt_of_lt_of_le (fits.held q hq) h.size_le
    · rw [h.inherits_eq intact.closed old] at inherits
      rw [h.template?_eq old]
      exact fits.untouched inherits
  · exact added r (Nat.le_of_not_lt old) inside

/-- A store stays intact if a template is added that refers to objects. -/
theorem Intact.push (intact : st.Intact)
    (held : ∀ q ∈ (Body.template t).refs, q.index < st.objects.size) :
    (st.push (Object.ofBody (.template t))).Intact := by
  refine intact.of_extends (extends_push _ _) fun r above below => ?_
  rw [size_push] at below
  have last : r = st.next := Ref.eq_of_index (Nat.le_antisymm (Nat.le_of_lt_succ below) above)
  rw [last]
  refine ⟨fun q hq => ?_, fun _ => ?_⟩
  · rw [get_push_next] at hq
    rw [size_push]
    exact Nat.lt_succ_of_lt (held q hq)
  · rw [template?_push_next]
    rfl

theorem inherits_congr (prototypes : ∀ q, (st'.get q).prototype = (st.get q).prototype)
    (size : st'.objects.size = st.objects.size) (r : Ref) (f : Family) :
    st'.inherits r f = st.inherits r f := by
  -- Nothing but prototypes is followed on the way to the family of an object.
  have within : ∀ n q, st'.rootFamilyWithin n q = st.rootFamilyWithin n q := by
    intro n
    induction n with
    | zero => exact fun _ => rfl
    | succ n ih =>
        intro q
        rw [rootFamilyWithin, rootFamilyWithin, prototypes q]
        cases (st.get q).prototype with
        | object p => exact ih p
        | _ => rfl
  rw [inherits, inherits, rootFamily?, rootFamily?, within, size]

theorem eq_or_mem_of_mem_setDefaultValue {defaults : List (String × Value)} {e : String × Value}
    (mem : e ∈ setDefaultValue key v defaults) : e = (key, v) ∨ e ∈ defaults := by
  induction defaults with
  | nil => exact .inl (List.mem_singleton.mp mem)
  | cons d defaults ih =>
      rw [setDefaultValue] at mem
      split at mem
      · next same =>
          rcases List.mem_cons.mp mem with rfl | mem
          · exact .inl (congrArg (·, v) same)
          · exact .inr (List.mem_cons_of_mem _ mem)
      · rcases List.mem_cons.mp mem with rfl | mem
        · exact .inr List.mem_cons_self
        · rcases ih mem with same | mem
          · exact .inl same
          · exact .inr (List.mem_cons_of_mem _ mem)

theorem mem_setDefaultValue {defaults : List (String × Value)} {e : String × Value}
    (mem : e ∈ setDefaultValue key v defaults) : e.2 = v ∨ e ∈ defaults :=
  (eq_or_mem_of_mem_setDefaultValue mem).imp (congrArg Prod.snd) id

theorem setDefaultValue_new {defaults : List (String × Value)}
    (new : key ∉ defaults.map Prod.fst) :
    setDefaultValue key v defaults = defaults ++ [(key, v)] := by
  induction defaults with
  | nil => rfl
  | cons d defaults ih =>
      rw [List.map_cons, List.mem_cons, not_or] at new
      rw [setDefaultValue, if_neg fun same => new.1 same.symm, ih new.2, List.cons_append]

/-- A known key keeps its place. -/
theorem keys_setDefaultValue_known {defaults : List (String × Value)}
    (known : key ∈ defaults.map Prod.fst) :
    (setDefaultValue key v defaults).map Prod.fst = defaults.map Prod.fst := by
  induction defaults with
  | nil => cases known
  | cons d defaults ih =>
      rw [setDefaultValue]
      split
      · rfl
      · next other =>
          rw [List.map_cons, ih ((List.mem_cons.mp known).resolve_left (Ne.symm other)),
            List.map_cons]

/-- A template with another default refers to what it is, and to nothing else that
    is new. -/
theorem mem_refs_setDefaultValue {q : Ref}
    (mem : q ∈ (Body.template { t with defaults := setDefaultValue key v t.defaults }).refs) :
    q ∈ (Body.template t).refs ∨ q ∈ v.refs := by
  rcases List.mem_append.mp mem with serializer | rest
  · exact .inl (List.mem_append_left _ serializer)
  · rcases List.mem_cons.mp rest with root | default
    · rw [root]
      exact .inl (List.mem_append_right _ List.mem_cons_self)
    · rcases List.mem_flatMap.mp default with ⟨e, he, hq⟩
      rcases mem_setDefaultValue he with new | old
      · exact .inr (new ▸ hq)
      · refine .inl (List.mem_append_right _ (List.mem_cons_of_mem _ ?_))
        exact List.mem_flatMap.mpr ⟨e, old, hq⟩

/-- What a template is given as a default changes no prototypes. -/
theorem prototype_putDefault (held : st.template? r = some t) (q : Ref) :
    ((st.putDefault r key v).get q).prototype = (st.get q).prototype := by
  by_cases same : q = r
  · rw [same, get_putDefault_self held]
  · rw [get_putDefault_ne held same]

theorem size_putDefault (held : st.template? r = some t) :
    (st.putDefault r key v).objects.size = st.objects.size := by
  rw [putDefault_eq held, size_write]

/-- Nobody reaches into a template by giving one a default. -/
theorem Untouched.putDefault (untouched : st.Untouched) (held : st.template? r = some t) :
    (st.putDefault r key v).Untouched := by
  intro q inherits
  rw [inherits_congr (prototype_putDefault held) (size_putDefault held)] at inherits
  by_cases same : q = r
  · exact ⟨_, by rw [same, template?_putDefault held]⟩
  · rcases untouched q inherits with ⟨u, there⟩
    exact ⟨u, by rw [template?, get_putDefault_ne held same]; exact there⟩

/-- A store stays intact if a template is given a default that is in it. -/
theorem Intact.putDefault (intact : st.Intact) (held : st.template? r = some t)
    (inside : st.Holds v) : (st.putDefault r key v).Intact := by
  refine ⟨fun q hq p hp => ?_, intact.untouched.putDefault held⟩
  rw [size_putDefault held] at hq ⊢
  by_cases same : q = r
  · rw [same, get_putDefault_self held] at hp
    rcases List.mem_append.mp hp with outer | body
    · exact intact.closed r (index_lt_of_template? held) p (List.mem_append_left _ outer)
    · rcases mem_refs_setDefaultValue body with old | new
      · refine intact.closed.body (index_lt_of_template? held) ?_
        rw [body_of_template? held]
        exact old
      · exact inside p new
  · rw [get_putDefault_ne held same] at hp
    exact intact.closed q hq p hp

/-! ### The same entries -/

/-- Entries with the same key and the same content, each in its store. -/
structure SameEntry (st st' : Store) (e e' : String × Value) : Prop where
  key : e.1 = e'.1
  content : Alike st e.2 st' e'.2

theorem SameEntry.symm {e e' : String × Value} (h : SameEntry st st' e e') :
    SameEntry st' st e' e :=
  ⟨h.key.symm, h.content.symm⟩

theorem SameEntry.trans {st'' : Store} {e e' e'' : String × Value} (first : SameEntry st st' e e')
    (second : SameEntry st' st'' e' e'') : SameEntry st st'' e e'' :=
  ⟨first.key.trans second.key, first.content.trans second.content⟩

/-- The same entries have the same keys. -/
theorem keys_eq_of_same {entries entries' : List (String × Value)}
    (same : List.Forall₂ (SameEntry st st') entries entries') :
    entries.map Prod.fst = entries'.map Prod.fst :=
  keys_forall₂ (fun _ _ first => first.key) same

end Store

/-! ### Copying data -/

namespace Template

variable {interp : Interpretation} {copyTemplate : Ref → Action Value}

/-- Copying data gives something with the same content. -/
theorem ensures_copied_data {st : Store} (intact : st.Intact) {v : Value} (data : st.IsData v) :
    (copied interp copyTemplate v).Ensures False st fun w st' =>
      st'.Intact ∧ st.Extends st' ∧ st.Alike v st' w := by
  refine Action.ensures_bind_asking ?_
  rw [data.templateRef?_eq_none]
  rcases Store.copy_data interp data with ⟨st', w, copied, grown, alike, new⟩
  refine Action.ensures_of_ok (Action.resultAt_reading_ok copied) ?_
  rw [Action.storeAfter_reading_ok copied]
  refine ⟨intact.of_extends grown fun r above below => ?_, grown, alike⟩
  rcases new r above below with ⟨isData, held⟩
  refine ⟨held, fun inherits => ?_⟩
  rw [Store.not_inherits_of_isData isData] at inherits
  cases inherits

end Template

end Stencil
