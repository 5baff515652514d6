import Stencil.Proofs.Overlay
import Stencil.Proofs.Repeats
import Stencil.Proofs.Stepwise

/-!
# Defaults in Layers

Giving a template defaults again and again, and what it renders as then.

Each call brings an object, and each of its entries goes on top of what there is. So
what a template has as defaults after any number of calls are the entries of all these
objects, put on top of each other: under each key what came last, and the keys in the
order in which they came first. Nothing is ever taken away. What a template is rendered
with goes on top of that again, and so it is as if a template without defaults had been
given everything at once.

What is stored are copies, each made in the store of its time. Later calls make more
objects, and change the template. The values that were given stay what they are, and so
do their copies, as neither is a template. So whatever has been stored is still written
as the value that it was made from, and not only when it was stored. `Store.IsReplica`
says so without looking back at an earlier store, which is why it can be carried along.

Between the calls objects may be made. That is where the next object comes from.

## Main definitions

* `Store.Surrounds`: A store in which nothing has changed but a template.
* `Store.IsReplica`: A value that stands for another one.
* `Template.Layered`: Calls that give a template defaults.
* `Template.Laid`: A template that has been given defaults.

## Theorems

* `Store.IsReplica.later`: A replica remains one.
* `Template.ensures_storeOne_laid`, `Template.laid_of_layered`: What one more default
  changes, and what all of them come to.
* `Template.layered_defaults`: Defaults in layers, and rendering with them.
-/

namespace Stencil

/-- Where entries are related in pairs, setting one of each keeps them so. -/
theorem forall₂_setDefaultValue {R : String × Value → String × Value → Prop}
    (keys : ∀ e d, R e d → e.1 = d.1) {key : String} {v w : Value} (new : R (key, v) (key, w))
    {known copies : List (String × Value)} (pairs : List.Forall₂ R known copies) :
    List.Forall₂ R (setDefaultValue key v known) (setDefaultValue key w copies) := by
  induction pairs with
  | nil => exact .cons new .nil
  | @cons e d known copies first rest ih =>
      rcases e with ⟨k, x⟩
      rcases d with ⟨k', y⟩
      obtain rfl : k = k' := keys _ _ first
      rw [setDefaultValue, setDefaultValue]
      split
      · next same => exact .cons (same ▸ new) rest
      · exact .cons first ih

namespace Store

variable {interp : Interpretation} {st st' st'' : Store} {r : Ref} {t : Template} {f : Ref → Ref}
  {S : Set Ref} {v w : Value}

/-! ### What stays -/

/-- A store in which objects were added, and in which nothing else has changed but the
    defaults of one template. -/
structure Surrounds (r : Ref) (st st' : Store) : Prop where
  lookups : st.SameLookups st'
  others : st.ExtendsBut r st'

namespace Surrounds

theorem of_extends (h : st.Extends st') (r : Ref) : Surrounds r st st' :=
  ⟨h.sameLookups, h.but r⟩

theorem trans (first : Surrounds r st st') (second : Surrounds r st' st'') :
    Surrounds r st st'' :=
  ⟨first.lookups.trans second.lookups, first.others.trans second.others⟩

theorem putDefault (held : st.template? r = some t) (key : String) (v : Value) :
    Surrounds r st (st.putDefault r key v) :=
  ⟨sameLookups_putDefault held, extendsBut_putDefault held⟩

/-- What is no template stays. -/
theorem get_eq (h : Surrounds r st st') (held : st.template? r = some t) {q : Ref}
    (inside : q.index < st.objects.size) (none : ∀ u, (st.get q).body ≠ .template u) :
    st'.get q = st.get q :=
  h.others.get_eq q inside fun same => none t (same ▸ body_of_template? held)

end Surrounds

/-- Nothing is called for objects that are the same later on. -/
theorem FaithfulOn.same (on : st.FaithfulOn S) (closed : st.Closed) (lookups : st.SameLookups st')
    (same : ∀ q ∈ S, st'.get q = st.get q) : st'.FaithfulOn S := by
  have like := likeness_self closed on lookups same
  refine ⟨fun r hr => ?_, fun r hr => Nat.lt_of_lt_of_le (on.inside r hr) lookups.size_le,
    fun r hr => same r hr ▸ on.closed r hr⟩
  have here := same r hr
  cases on.faithful r hr with
  | record body descends data lacks names =>
      refine .record (here ▸ body) (descends.same (on.inside r hr) lookups) (here ▸ data)
        (like.lacksJson hr lacks) fun p holder found => ?_
      rw [lookups.find?_eq closed (on.inside r hr)] at found
      rcases names p holder found with ⟨v, slot, named⟩
      refine ⟨v, slot, fun c hc q holder' found' => ?_⟩
      have inside : c.index < st.objects.size :=
        closed.found (on.inside r hr) found c (by rw [slot]; exact hc)
      rw [lookups.find?_eq closed inside] at found'
      exact named c hc q holder' found'
  | array elements there => exact .array elements (here.trans there)
  | map entries distinct there => exact .map entries distinct (here.trans there)
  | set elements distinct there => exact .set elements distinct (here.trans there)
  | date instant within there => exact .date instant within (here.trans there)
  | pattern p l normal there => exact .pattern p l normal (here.trans there)
  | url href normal there => exact .url href normal (here.trans there)
  | boxed v simple there => exact .boxed v simple (here.trans there)
  | octets c w other there => exact .octets c w other (here.trans there)
  | function callable lacks => exact .function (here ▸ callable) (like.lacksJson hr lacks)

theorem FaithfulOn.get_eq (on : st.FaithfulOn S) (held : st.template? r = some t)
    (h : Surrounds r st st') : ∀ q ∈ S, st'.get q = st.get q :=
  fun q hq => h.get_eq held (on.inside q hq) (on.faithful q hq).noTemplate

theorem IsFaithful.later (faithful : st.IsFaithful v) (closed : st.Closed)
    (held : st.template? r = some t) (h : Surrounds r st st') : st'.IsFaithful v := by
  rcases faithful with ⟨S, on, covered⟩
  exact ⟨S, on.same closed h.lookups (on.get_eq held h), covered⟩

/-- What can be written without calling anything can be copied as a graph. -/
theorem IsFaithful.clones (faithful : st.IsFaithful v) : st.Clones v := by
  rcases faithful with ⟨S, on, covered⟩
  refine ⟨_, on.clones, fun q hq => ?_⟩
  by_cases function : (st.get q).isFunction = true
  · exact .inr function
  · exact .inl ⟨covered q hq, Bool.eq_false_iff.mpr function⟩

/-- What stands for objects still does. -/
theorem Likeness.later (h : Likeness f S st st') (held : st'.template? r = some t)
    (later : Surrounds r st' st'') : Likeness f S st st'' := by
  refine ⟨h.on, h.closed, h.lookups.trans later.lookups, h.injective, h.functions,
    fun q hq object => ?_, fun q hq => Nat.lt_of_lt_of_le (h.inside q hq) later.others.size_le⟩
  have stands := h.objects q hq object
  rw [later.get_eq held (h.inside q hq) (stands.noTemplate (h.on.faithful q hq).noTemplate)]
  exact stands

/-- What stands for objects of an earlier store does so for the same objects now. -/
theorem Likeness.here (h : Likeness f S st st') (closed : st'.Closed)
    (same : ∀ q ∈ S, st'.get q = st.get q) : Likeness f S st' st' where
  on := h.on.same h.closed h.lookups same
  closed := closed
  lookups := (Extends.refl st').sameLookups
  injective := h.injective
  functions r hr function := h.functions r hr (same r hr ▸ function)
  objects r hr object := by
    rw [same r hr] at object ⊢
    exact h.objects r hr object
  inside := h.inside

/-! ### Replicas -/

/-- Another value stands for a value for which nothing is called: objects of the same
    content are in the places of those that it leads to. -/
def IsReplica (st : Store) (v w : Value) : Prop :=
  ∃ f S, Likeness f S st st ∧ View.Over S v ∧ w = v.rename f

/-- A replica remains one. -/
theorem IsReplica.later (replica : st.IsReplica v w) (closed : st'.Closed)
    (held : st.template? r = some t) (h : Surrounds r st st') : st'.IsReplica v w := by
  rcases replica with ⟨f, S, like, covered, rfl⟩
  exact ⟨f, S, (like.later held h).here closed (like.on.get_eq held h), covered, rfl⟩

/-- A template inserts the same for a value and for a replica of it. -/
theorem IsReplica.insertion_eq (replica : st.IsReplica v w) (untouched : st.Untouched)
    (standard : t.IsStandard) (key : String) :
    t.insertion interp st key w = t.insertion interp st key v := by
  rcases replica with ⟨f, S, like, covered, rfl⟩
  exact Template.insertion_likeness like covered untouched untouched standard key

end Store

namespace Template

open Store (Surrounds)

variable {interp : Interpretation} {st cur last : Store} {r : Ref} {t : Template}
  {given entries : List (String × Value)} {key : String} {v values : Value}

/-! ### Copies -/

/-- Copying a value for which nothing is called makes a replica of it. -/
theorem ensures_copied_replica {copyTemplate : Ref → Action Value} (intact : st.Intact)
    (data : st.IsFaithful v) :
    (copied interp copyTemplate v).Ensures False st fun w st' =>
      st'.Intact ∧ st.Extends st' ∧ st'.Holds w ∧ st'.IsReplica v w := by
  refine Action.ensures_bind_asking ?_
  rw [data.clones.templateRef?_eq_none intact.untouched]
  rcases data.clones.copy interp with ⟨st', w, gives, grown, repeats, keeps⟩
  rcases data with ⟨S, on, covered⟩
  rcases Store.copy_likeness interp intact.closed on covered with
    ⟨state, T, copies, -, -, covers, like⟩
  cases copies.symm.trans gives
  refine Action.ensures_of_ok (Action.resultAt_reading_ok gives) ?_
  rw [Action.storeAfter_reading_ok gives]
  have intact' := keeps intact
  exact ⟨intact', grown, repeats.lasts.clones.holds, state.target, T,
    like.here intact'.closed fun q hq => grown.get_eq q (like.on.inside q hq), covers, rfl⟩

/-! ### Storing -/

/-- A value that was given under a key, and what a template has as the default for it. -/
structure LaysEntry (interp : Interpretation) (st : Store) (r : Ref) (cur : Store)
    (e d : String × Value) : Prop where
  key : e.1 = d.1
  copy : IsCopy interp (st.ExtendsBut r) r cur e.2 d.2
  replica : cur.IsReplica e.2 d.2

/-- A template without defaults has been given some, one after the other. -/
structure Laid (interp : Interpretation) (st : Store) (r : Ref) (t : Template)
    (given : List (String × Value)) (cur : Store) : Prop where
  intact : cur.Intact
  around : Surrounds r st cur
  held : ∃ defaults, cur.template? r = some { t with defaults := defaults }
    ∧ List.Forall₂ (LaysEntry interp st r cur) (overlay [] given) defaults

theorem LaysEntry.later {later : Store} {e d : String × Value} {u : Template}
    (lays : LaysEntry interp st r cur e d) (closed : later.Closed) (held : cur.template? r = some u)
    (h : Surrounds r cur later) : LaysEntry interp st r later e d :=
  ⟨lays.key, lays.copy.extendsBut h.others, lays.replica.later closed held h⟩

theorem laid_start (interp : Interpretation) (intact : st.Intact) (held : st.template? r = some t)
    (fresh : t.defaults = []) : Laid interp st r t [] st := by
  refine ⟨intact, .of_extends (.refl st) r, [], ?_, .nil⟩
  rw [held, ← fresh]

/-- Making objects changes nothing. -/
theorem Laid.extends {later : Store} (laid : Laid interp st r t given cur) (h : cur.Extends later)
    (intact : later.Intact) : Laid interp st r t given later := by
  rcases laid.held with ⟨defaults, held, pairs⟩
  have around := Surrounds.of_extends h r
  exact ⟨intact, laid.around.trans around, defaults, h.template? held,
    pairs.imp fun _ _ lays => lays.later intact.closed held around⟩

/-- Storing one more value. -/
theorem ensures_storeOne_laid (laid : Laid interp st r t given cur) (data : cur.IsFaithful v)
    (present : v ≠ .undefined) (key : String) :
    (storeOne interp (copy interp) r key v).Ensures False cur fun _ later =>
      Laid interp st r t (given ++ [(key, v)]) later ∧ Surrounds r cur later := by
  rcases laid.held with ⟨defaults, held, pairs⟩
  refine ensures_storeOne (Store.isSealed_of_template? held) (fun absent => absurd absent present)
    fun _ => ?_
  refine Action.ensures_mono (Action.ensures_known (ensures_copied_replica laid.intact data)) ?_
  rintro w mid ⟨⟨intact, grown, inside, replica⟩, gives, after⟩
  have still := grown.template? held
  -- The copy is made first, and the template changes after that.
  have put := Surrounds.putDefault still key w
  have around := (Surrounds.of_extends grown r).trans put
  have intact' : (mid.putDefault r key w).Intact := intact.putDefault still inside
  refine ⟨⟨intact', laid.around.trans around, setDefaultValue key w defaults,
    Store.template?_putDefault still, ?_⟩, around⟩
  rw [overlay_append]
  refine forall₂_setDefaultValue (fun _ _ lays => lays.key) ⟨rfl, ?_, ?_⟩
    (pairs.imp fun _ _ lays => lays.later intact'.closed held around)
  · exact ⟨cur, laid.around.others, gives, after ▸ put.others⟩
  · exact replica.later intact'.closed still put

/-- Storing any number of values. -/
theorem ensures_storeAll_laid (laid : Laid interp st r t given cur)
    (data : ∀ e ∈ entries, cur.IsFaithful e.2 ∧ e.2 ≠ .undefined) :
    (storeAll interp (copy interp) r entries).Ensures False cur fun _ later =>
      Laid interp st r t (given ++ entries) later := by
  rcases laid.held with ⟨defaults, held, -⟩
  -- What is still to be stored stays faithful, for only the template changes around it.
  have start : Laid interp st r t (given ++ []) cur ∧ Surrounds r cur cur :=
    ⟨(List.append_nil given).symm ▸ laid, .of_extends (.refl cur) r⟩
  refine Action.ensures_mono (ensures_storeAll_of_step (fun before later =>
    Laid interp st r t (given ++ before) later ∧ Surrounds r cur later) ?_ start)
    fun _ _ stored => stored.1
  rintro before e after mid split ⟨laid', around⟩
  rcases data e (split ▸ List.mem_append_right _ List.mem_cons_self) with ⟨faithful, present⟩
  have still := faithful.later laid.intact.closed held around
  refine Action.ensures_mono (ensures_storeOne_laid laid' still present e.1) ?_
  rintro _ later ⟨laid'', around'⟩
  rw [← List.append_assoc]
  exact ⟨laid'', around.trans around'⟩

/-- Giving a template the entries of an object. -/
theorem ensures_askSetDefault_laid (what : String) (laid : Laid interp st r t given cur)
    (supplies : cur.Supplies values entries) (data : ∀ e ∈ entries, cur.IsFaithful e.2) :
    (askSetDefault interp what r values).Ensures False cur fun result later =>
      result = .undefined ∧ Laid interp st r t (given ++ entries) later := by
  rcases laid.held with ⟨defaults, held, -⟩
  have read := Store.supplied_eq interp supplies
  refine Action.ensures_bind_asking ?_
  rw [held]
  refine Action.ensures_bind (Action.ensures_bind_ok (Action.resultAt_reading_ok read) ?_)
    fun _ _ later => ⟨rfl, later⟩
  rw [Action.storeAfter_reading_ok read]
  refine ensures_storeAll_laid laid fun e he => ⟨data e he, ?_⟩
  rcases supplies with ⟨q, -, -, same⟩
  rw [same] at he
  exact of_decide_eq_true (List.mem_filter.mp he).2

/-! ### Calls -/

/-- A template is given defaults, call after call, each time the entries of an object for
    whose values nothing is called. In the meantime objects may be made. -/
inductive Layered (interp : Interpretation) (r : Ref) (st : Store) :
    List (List (String × Value)) → Store → Prop
  | start : Layered interp r st [] st
  | layer {layers : List (List (String × Value))} {cur ready : Store} {values : Value}
      {entries : List (String × Value)} (what : String) (before : Layered interp r st layers cur)
      (grown : cur.Extends ready) (intact : ready.Intact)
      (supplies : ready.Supplies values entries) (data : ∀ e ∈ entries, ready.IsFaithful e.2) :
      Layered interp r st (layers ++ [entries])
        ((askSetDefault interp what r values).storeAfter ready)

variable {layers : List (List (String × Value))}

/-- What all calls come to. -/
theorem laid_of_layered (run : Layered interp r cur layers last)
    (laid : Laid interp st r t given cur) : Laid interp st r t (given ++ layers.flatten) last := by
  induction run with
  | start =>
      rw [List.flatten_nil, List.append_nil]
      exact laid
  | layer what _ grown intact supplies data ih =>
      have stored := ensures_askSetDefault_laid what (ih.extends grown intact) supplies data
      rcases Action.exists_of_ensures stored with ⟨_, -, -, laid'⟩
      rw [List.flatten_append, List.flatten_singleton, ← List.append_assoc]
      exact laid'

/-- The keys are in the order in which they came first. -/
theorem Laid.keys_eq (laid : Laid interp st r t given cur) {x : Template}
    (held : cur.template? r = some x) :
    x.defaults.map Prod.fst = (given.map Prod.fst).eraseDups := by
  rcases laid.held with ⟨defaults, there, pairs⟩
  cases held.symm.trans there
  rw [← keys_overlay_nil]
  exact (keys_forall₂ (fun _ _ lays => lays.key) pairs).symm

/-- Under a key there is a copy of what came last, which stands for it. -/
theorem Laid.lookup_cases (laid : Laid interp st r t given cur) {x : Template}
    (held : cur.template? r = some x) (key : String) :
    given.reverse.lookup key = none ∧ x.defaults.lookup key = none
      ∨ ∃ v w, given.reverse.lookup key = some v ∧ x.defaults.lookup key = some w
        ∧ IsCopy interp (st.ExtendsBut r) r cur v w ∧ cur.IsReplica v w := by
  rcases laid.held with ⟨defaults, there, pairs⟩
  cases held.symm.trans there
  have found : (overlay [] given).lookup key = given.reverse.lookup key := by
    rw [lookup_overlay, List.lookup_nil, Option.or_none]
  rw [← found]
  rcases lookup_forall₂ (fun _ _ (lays : LaysEntry interp st r cur _ _) => lays.key) pairs key with
    none | ⟨v, w, given, stored, lays⟩
  · exact .inl none
  · exact .inr ⟨v, w, given, stored, lays.copy, lays.replica⟩

/-! ### Rendering -/

/-- What a template writes for a value is up to its variant and settings. -/
theorem resultAt_write_congr {u : Template} (variant : u.variant = t.variant)
    (settings : u.settings = t.settings) (key : String) (v : Value) :
    (u.write interp key v).resultAt st = (t.write interp key v).resultAt st := by
  have name : u.name = t.name := congrArg Settings.name settings
  have serializer : u.serializer = t.serializer := congrArg Settings.serializer settings
  have same : u.serialize interp st v = t.serialize interp st v := by
    rw [serialize, serialize, serializeBase, serializeBase, variant, serializer]
  have refused : ∀ c, u.refuse interp key v c = t.refuse interp key v c := by
    intro c
    rw [refuse, refuse, name]
  rw [write, write, Action.resultAt_bind_asking, Action.resultAt_bind_asking, same]
  cases t.serialize interp st v with
  | ok answer =>
      simp only [refused]
      cases answer with
      | existing w => cases w <;> rfl
      | fresh o => rfl
  | error raised =>
      -- The two report to different loggers, if anything is caught.
      cases caught : st.caught interp raised with
      | error e =>
          rw [Action.resultAt_bind_looking_error caught, Action.resultAt_bind_looking_error caught]
      | ok c =>
          rw [Action.resultAt_bind_looking_ok caught, Action.resultAt_bind_looking_ok caught,
            refused]
          rfl

theorem converted_congr {u : Template} {text : Ref → Except Failure String}
    (variant : u.variant = t.variant) (settings : u.settings = t.settings) (key : String)
    (v : Value) : u.converted interp st text key v = t.converted interp st text key v := by
  rw [converted, converted]
  cases st.templateRef? v with
  | some inner => rfl
  | none => exact resultAt_write_congr variant settings key v

/-- Templates of the same source and settings differ in nothing but defaults and journals. -/
theorem IsMade.eq {u : Template} {journal : Journal}
    (made : u.IsMade journal t.variant t.settings t.source) :
    u = { t with defaults := [], journal := journal } := by
  rcases u with ⟨variant, name, source, outline, parses, serializer, dedent, defaults, journal'⟩
  rcases t with ⟨variant', name', source', outline', parses', serializer', dedent', defaults', _⟩
  rcases made with ⟨rfl, settings, rfl, rfl, rfl⟩
  cases settings
  cases parses.symm.trans parses'
  rfl

/-- Giving a template defaults in layers and rendering it with more values is rendering a
    template without defaults with everything that was given, as far as it is declared. -/
theorem Laid.render_eq (what : String) (laid : Laid interp st r t given cur)
    (standard : t.IsStandard) {q : Ref} {u : Template} {journal : Journal} {w w' : Value}
    {supplied merged : List (String × Value)} (there : cur.template? q = some u)
    (made : u.IsMade journal t.variant t.settings t.source) (offered : Offers cur w supplied)
    (declared : ∀ e ∈ supplied, e.1 ∈ t.placeholders) (offered' : Offers cur w' merged)
    (merges : ∀ name, merged.lookup name = if name ∈ t.placeholders
      then (supplied.lookup name).or (given.reverse.lookup name) else none) :
    (render interp what r w).resultAt cur = (render interp what q w').resultAt cur := by
  rcases laid.held with ⟨defaults, held, -⟩
  have untouched := laid.intact.untouched
  obtain rfl := made.eq
  rw [(Template.render_eq untouched what held offered).2,
    (Template.render_eq untouched what there offered').2, rendered, rendered, held, there]
  -- Neither the defaults of a template nor its journal tell how a value is written.
  have converts : ∀ (defaults : List (String × Value)) (journal : Journal)
      (text : Ref → Except Failure String) (name : String) (v : Value),
      ({ t with defaults := defaults, journal := journal } : Template).converted interp cur text
        name v = t.converted interp cur text name v := by
    intro defaults journal text name v
    refine converted_congr ?_ ?_ name v
    · rfl
    · rfl
  refine congrArg _ (filled_eq_of_same (t := { t with defaults := [], journal := journal }) ?_
    fun name hn => ?_)
  · refine (unknownKeys_eq_nil declared).trans (unknownKeys_eq_nil fun e he => ?_).symm
    by_contra undeclared
    have absent := (merges e.1).trans (if_neg undeclared)
    exact lookup_eq_none_iff_keys.mp absent (List.mem_map_of_mem he)
  · -- What was given last is found in both, by itself or as a replica of it.
    have merged_eq := (merges name).trans (if_pos hn)
    rw [valueFor?, valueFor?, merged_eq, List.lookup_nil, Option.or_none]
    cases direct : supplied.lookup name with
    | some v => exact .inr ⟨v, v, rfl, rfl,
        (converts _ _ _ name v).trans (converts _ _ _ name v).symm⟩
    | none =>
        rcases laid.lookup_cases held name with ⟨none, none'⟩ | ⟨v, x, last, stored, -, replica⟩
        · exact .inl ⟨none, none'⟩
        · refine .inr ⟨v, x, last, stored, ?_⟩
          have inserted : t.insertion interp cur name x = t.insertion interp cur name v :=
            replica.insertion_eq untouched standard name
          exact (converts _ _ _ name x).trans ((converted_of_insertion untouched untouched
            inserted).trans (converts _ _ _ name v).symm)

/-- A template without defaults that is given some by any number of calls has a copy of
    what came last under each key, in the order in which the keys came first, and keeps
    what it has whatever it is given later. No call fails. Rendering it with more values is
    rendering a template that has just been made of the same source and settings with
    what was given last under each declared key. -/
theorem layered_defaults (interp : Interpretation) (intact : st.Intact)
    (held : st.template? r = some t) (standard : t.IsStandard) (fresh : t.defaults = [])
    (run : Layered interp r st layers last) :
    last.Intact ∧ ∃ x, last.template? r = some x ∧ x = { t with defaults := x.defaults }
      ∧ x.defaults.map Prod.fst = (layers.flatten.map Prod.fst).eraseDups
      ∧ (∀ key, Option.Rel
          (fun v w => IsCopy interp (st.ExtendsBut r) r last v w ∧ last.IsReplica v w)
          (layers.flatten.reverse.lookup key) (x.defaults.lookup key))
      ∧ (∀ {more : List (List (String × Value))} {later : Store},
          Layered interp r last more later → ∃ y, later.template? r = some y
            ∧ x.defaults.map Prod.fst <+: y.defaults.map Prod.fst)
      ∧ ∀ {ready : Store}, last.Extends ready → ready.Intact →
          (∀ (what : String) {values : Value} {entries : List (String × Value)},
            ready.Supplies values entries → (∀ e ∈ entries, ready.IsFaithful e.2) →
              (askSetDefault interp what r values).resultAt ready = .ok .undefined)
          ∧ ∀ (what : String) {q : Ref} {u : Template} {journal : Journal} {w w' : Value}
              {supplied merged : List (String × Value)}, ready.template? q = some u →
            u.IsMade journal t.variant t.settings t.source → Offers ready w supplied →
            (∀ e ∈ supplied, e.1 ∈ t.placeholders) → Offers ready w' merged →
            (∀ name, merged.lookup name = if name ∈ t.placeholders
              then (supplied.lookup name).or (layers.flatten.reverse.lookup name) else none) →
            (render interp what r w).resultAt ready = (render interp what q w').resultAt ready := by
  have laid := laid_of_layered run (laid_start interp intact held fresh)
  rw [List.nil_append] at laid
  rcases laid.held with ⟨defaults, there, -⟩
  refine ⟨laid.intact, _, there, rfl, laid.keys_eq there, fun key => ?_, fun further => ?_,
    fun grown intact' => ⟨fun what _ _ supplies data => ?_, fun what _ _ _ _ _ _ _ there' made
      offered declared offered' merges => ?_⟩⟩
  · rcases laid.lookup_cases there key with ⟨none, none'⟩ | ⟨v, w, given, stored, copy, replica⟩
    · rw [none, none']
      exact .none
    · rw [given, stored]
      exact .some ⟨copy, replica⟩
  · -- A key that is given again stays where it was, and new ones come behind it.
    have laid' := laid_of_layered further laid
    rcases laid'.held with ⟨defaults', there', -⟩
    refine ⟨_, there', ?_⟩
    rw [laid.keys_eq there, laid'.keys_eq there', List.map_append, List.eraseDups_append]
    exact List.prefix_append _ _
  · have stored := ensures_askSetDefault_laid what (laid.extends grown intact') supplies data
    rcases Action.exists_of_ensures stored with ⟨result, gives, rfl, -⟩
    exact gives
  · exact (laid.extends grown intact').render_eq what standard there' made offered declared
      offered' merges

section

/-- A template of a source with two placeholders. -/
private def strip : Template :=
  ofCut "" (.placed [] "a" (.placed [':'] "b" (.last []))) (by decide) []

/-- Two such templates, an array, two objects to give the first one in turn, and what is
    given on top of that, with what was given before and without. -/
private def drawer : Store :=
  ⟨Store.initial.objects ++ #[Object.ofBody (.template strip), Object.ofBody (.template strip),
    Object.ofBody (.array [none, some (.boolean true)]),
    Object.plain [("a", .object ⟨4⟩), ("z", .text "u")],
    Object.plain [("b", .text "x"), ("a", .undefined)], Object.plain [("b", .text "y")],
    Object.plain [("a", .object ⟨4⟩), ("b", .text "y")]]⟩

private theorem drawer_faithful : drawer.IsFaithful (.object ⟨4⟩) := by
  refine ⟨{⟨4⟩}, ⟨fun r hr => hr ▸ .array _ rfl, fun r hr => hr ▸ by decide, fun r hr _ q hq => ?_⟩,
    fun r hr => List.mem_singleton.mp hr⟩
  cases hr
  cases hq

/-- What is undefined does not take away what was given before, and a key that is not
    declared makes no difference. -/
theorem layered_defaults_of_drawer :
    let interp := Interpretation.standard
    let once := (askSetDefault interp "this" ⟨2⟩ (.object ⟨5⟩)).storeAfter drawer
    let twice := (askSetDefault interp "this" ⟨2⟩ (.object ⟨6⟩)).storeAfter once
    drawer.Intact ∧ drawer.IsFaithful (.object ⟨4⟩)
      ∧ (∃ x, twice.template? ⟨2⟩ = some x ∧ x.defaults.map Prod.fst = ["a", "z", "b"])
      ∧ (render interp "this" ⟨2⟩ (.object ⟨7⟩)).resultAt twice
        = (render interp "this" ⟨3⟩ (.object ⟨8⟩)).resultAt twice
      ∧ (render interp "this" ⟨2⟩ (.object ⟨7⟩)).resultAt twice = .ok (.text "[null,true]:y") := by
  intro interp once twice
  have intact : drawer.Intact := by decide
  have first : Layered interp ⟨2⟩ drawer [[("a", .object ⟨4⟩), ("z", .text "u")]] once := by
    refine .layer "this" .start (.refl drawer) intact (by decide) fun e he => ?_
    rcases List.mem_cons.mp he with rfl | he
    · exact drawer_faithful
    · exact Store.isFaithful_of_simple (List.mem_singleton.mp he ▸ rfl)
  have intact' : once.Intact := by decide +kernel
  have run : Layered interp ⟨2⟩ drawer [[("a", .object ⟨4⟩), ("z", .text "u")], [("b", .text "x")]]
      twice := by
    refine .layer "this" first (.refl once) intact' (by decide +kernel) fun e he => ?_
    exact Store.isFaithful_of_simple (List.mem_singleton.mp he ▸ rfl)
  rcases layered_defaults interp intact (t := strip) rfl ⟨rfl, rfl⟩ rfl run with
    ⟨intact'', x, held, -, keys, -, -, after⟩
  rcases after (.refl twice) intact'' with ⟨-, same⟩
  have text : (render interp "this" ⟨2⟩ (.object ⟨7⟩)).resultAt twice
      = .ok (.text "[null,true]:y") := by
    decide +kernel
  refine ⟨intact, drawer_faithful, ⟨x, held, keys.trans (by decide)⟩, ?_, text⟩
  have offered : Offers twice (.object ⟨7⟩) [("b", .text "y")] := .inl (by decide +kernel)
  have offered' : Offers twice (.object ⟨8⟩) [("a", .object ⟨4⟩), ("b", .text "y")] :=
    .inl (by decide +kernel)
  refine same "this" (u := strip) (by decide +kernel) ⟨rfl, rfl, rfl, rfl, rfl⟩ offered (by decide)
    offered' fun name => ?_
  have declared : strip.placeholders = ["a", "b"] := by decide
  rw [declared]
  by_cases known : name ∈ ["a", "b"]
  · have two : name = "a" ∨ name = "b" := by simpa using known
    rcases two with rfl | rfl <;> rfl
  · rw [if_neg known]
    exact lookup_eq_none_iff_keys.mpr known

end

end Template

end Stencil
