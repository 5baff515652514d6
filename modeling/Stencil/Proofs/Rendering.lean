import Stencil.Proofs.Entries
import Stencil.Proofs.Extension
import Stencil.Proofs.Filling

/-!
# Rendering as a Computation

What a template renders as, as a function of the store.

Rendering is an action, and it goes into the templates among the values. But as
long as nobody has reached into any of them, it only looks at the store.
`rendered` says what it looks for: a text for every placeholder, where a
template among the values has the text that it renders as by itself. It is
defined by an allowance of depth, like the action.

The allowance comes from the number of objects, so a template that is rendered
inside of another one has less of it than one that is rendered by itself.
`rendered_of_size_le` says that this makes no difference. More depth can only
turn the error that there is not enough of it into something else, and where
one more level makes no difference for the templates inside, it makes none for
the template around them.

## Main definitions

* `Template.ofCut`: A template whose source is made up by a cut.
* `Template.filled`: The text of a template, given how values are converted.
* `Template.converted`: The text of a value, given how templates are rendered.
* `Template.rendered`: The text of a template with values supplied.
* `Template.Offers`: An object of data is given, or nothing.
* `Template.SealedOn`: Templates that nobody has reached into.

## Theorems

* `Template.splice_eq_fill_cut`: Splicing fills the cut of the source.
* `Template.resultAt_fill`: Filling a template is a computation.
* `Template.renderWithin_eq`: Rendering with an allowance is a computation.
* `Template.rendered_of_size_le`: More depth than there are objects changes
  nothing.
* `Template.render_sealed`, `Template.render_eq`: Rendering is a computation.
-/

namespace Stencil

namespace Template

/-! ### The source of a template -/

/-- The outline of a template is that of the cut of its source. -/
theorem exists_cut (t : Template) :
    ∃ c : Cut, c.Of t.source ∧ t.outline = Outline.ofOccurrences (c.occurrencesFrom 0) := by
  rcases Stencil.exists_cut t.parses with ⟨c, hc⟩
  have same := hc.ofSource?_eq
  rw [t.parses, Except.ok.injEq] at same
  exact ⟨c, hc, same⟩

theorem placeholders_eq {t : Template} {c : Cut} (hc : c.Of t.source) :
    t.placeholders = c.names.eraseDups := by
  rcases t.exists_cut with ⟨d, hd, same⟩
  rw [hc.unique hd, placeholders, same, Outline.ofOccurrences, Cut.names_occurrencesFrom]

/-- Splicing fills the cut of the source. -/
theorem splice_eq_fill_cut {t : Template} {c : Cut} (hc : c.Of t.source)
    (texts : List (String × String)) :
    t.splice texts = String.ofList (c.fill fun name => texts.lookup name) := by
  rcases t.exists_cut with ⟨d, hd, same⟩
  rw [hc.unique hd, splice, same, Outline.ofOccurrences]
  exact splice_eq_fill hd _

/-- A text for every placeholder fills the cut of the source. -/
theorem splice_graph {t : Template} {c : Cut} (hc : c.Of t.source) (g : String → String) :
    t.splice (t.placeholders.map fun n => (n, g n))
      = String.ofList (c.fill fun n => some (g n)) := by
  rw [splice_eq_fill_cut hc]
  refine congrArg String.ofList (Cut.fill_congr fun n hn => ?_)
  rw [placeholders_eq hc]
  exact List.lookup_graph g (List.mem_eraseDups.mpr hn)

/-- A template with the default settings whose source is made up by a cut. -/
def ofCut (name : String) (c : Cut) (proper : c.Proper) (defaults : List (String × Value)) :
    Template where
  variant := .prompt
  name := name
  source := String.ofList c.text
  outline := Outline.ofOccurrences (c.occurrencesFrom 0)
  parses := Cut.Of.ofSource?_eq ⟨proper, String.toList_ofList.symm⟩
  serializer := none
  dedent := false
  defaults := defaults
  journal := ⟨Journal.labelFor name, .info, Store.globalLogger⟩

/-! ### One template -/

/-- The text of a template with values supplied, given how values are
    converted. -/
def filled (t : Template) (convert : String → Value → Except Failure String)
    (supplied : List (String × Value)) : Except Failure String :=
  if t.unknownKeys (supplied.map Prod.fst) ≠ [] then
    .error (.template (.invalidKeys (t.unknownKeys (supplied.map Prod.fst)) t.placeholders t.name))
  else if t.missing supplied ≠ [] then
    .error (.template (.missingValues (t.missing supplied) t.name))
  else do
    let texts ← t.placeholders.mapM fun name => do
      return (name, ← convert name ((t.valueFor? supplied name).getD .undefined))
    let output := t.splice texts
    return if t.dedent then Stencil.dedent output else output

/-- The text that a value is converted to for a key, given how templates are
    rendered. -/
def converted (interp : Interpretation) (st : Store) (render : Ref → Except Failure String)
    (t : Template) (key : String) (v : Value) : Except Failure String :=
  match st.templateRef? v with
  | some inner => render inner
  | none => (t.write interp key v).resultAt st

/-- The text of a template with values supplied, with an allowance of depth, as
    long as nobody has reached into any template. -/
def rendered (interp : Interpretation) (st : Store) :
    Nat → Ref → List (String × Value) → Except Failure String
  | 0, _, _ => .error (.thrown .tooDeep)
  | allowance + 1, r, supplied =>
    match st.template? r with
    | some t =>
      t.filled (t.converted interp st fun inner => rendered interp st allowance inner []) supplied
    | none => .error (.thrown .tooDeep)

variable {interp : Interpretation} {st : Store}

/-- The templates among the values of a template are in a set. -/
def LeadsTo (st : Store) (T : Set Ref) (v : Value) : Prop :=
  ∀ inner, st.templateRef? v = some inner → inner ∈ T

/-- Templates that nobody has reached into, at the addresses of a set that those
    among their defaults are in. -/
def SealedOn (st : Store) (T : Set Ref) : Prop :=
  ∀ r ∈ T, ∃ t, st.template? r = some t ∧ ∀ e ∈ t.defaults, LeadsTo st T e.2

/-- Writing values is a computation of texts at one store, which only looks at
    it. -/
def WritesAs (st : Store) (T : Set Ref) (write : String → Value → Action Value)
    (convert : String → Value → Except Failure String) : Prop :=
  ∀ key v, LeadsTo st T v →
    (write key v).Looks st ∧ (write key v).resultAt st = (convert key v).map Value.text

variable {T : Set Ref}

section

variable {write : String → Value → Action Value}
  {convert : String → Value → Except Failure String}

/-- Pieces are written one after the other. -/
theorem pieces_eq (writes : WritesAs st T write convert) {value? : String → Option Value}
    (leads : ∀ name, LeadsTo st T ((value? name).getD .undefined)) (names : List String) :
    (pieces write value? names).Looks st
      ∧ (pieces write value? names).resultAt st
        = (names.mapM fun name => do
            return (name, ← convert name ((value? name).getD .undefined))).map
              (List.map fun e : String × String => (e.1, Value.text e.2)) := by
  induction names with
  | nil => exact ⟨Action.looks_of_storeAfter rfl, rfl⟩
  | cons n names ih =>
      rcases ih with ⟨looksRest, givesRest⟩
      rcases writes n ((value? n).getD .undefined) (leads n) with ⟨looks, gives⟩
      constructor
      · refine Action.looks_bind looks fun piece _ => ?_
        refine Action.looks_bind looksRest fun rest _ => ?_
        exact Action.looks_of_storeAfter rfl
      · rw [pieces, Action.resultAt_bind looks.steady, gives, List.mapM_cons]
        cases convert n ((value? n).getD .undefined) with
        | error e => rfl
        | ok s =>
            change (pieces write value? names >>= _).resultAt st = _
            rw [Action.resultAt_bind looksRest.steady, givesRest]
            cases names.mapM fun name => do
                return (name, ← convert name ((value? name).getD .undefined)) with
            | error e => rfl
            | ok rest => rfl

/-- The texts of pieces that are texts. -/
theorem resultAt_texts (interp : Interpretation) (st : Store) (entries : List (String × String)) :
    (texts interp (entries.map fun e => (e.1, Value.text e.2))).resultAt st = .ok entries
      ∧ (texts interp (entries.map fun e => (e.1, Value.text e.2))).storeAfter st = st := by
  induction entries with
  | nil => exact ⟨rfl, rfl⟩
  | cons e entries ih =>
      rcases ih with ⟨gives, keeps⟩
      rw [List.map_cons, texts]
      constructor
      · rw [Action.resultAt_bind_ok gives]
        rfl
      · rw [Action.storeAfter_bind_ok gives, keeps]
        rfl

variable (interp)

/-- Filling a template only looks at the store. -/
theorem looks_fill (writes : WritesAs st T write convert) (t : Template)
    {supplied : List (String × Value)}
    (leads : ∀ name, LeadsTo st T ((t.valueFor? supplied name).getD .undefined)) :
    (t.fill interp write supplied).Looks st := by
  rcases pieces_eq writes leads t.placeholders with ⟨looksPieces, givesPieces⟩
  refine Action.looks_bind (Action.looks_of_storeAfter Action.storeAfter_checked) fun _ _ => ?_
  by_cases complete : t.missing supplied = []
  · simp only [complete, ne_eq, not_true_eq_false, if_false]
    -- What is written are texts, which are put together without a look at the store.
    refine Action.looks_bind looksPieces fun written given => ?_
    rw [givesPieces] at given
    cases converted : t.placeholders.mapM fun name => do
        return (name, ← convert name ((t.valueFor? supplied name).getD .undefined)) with
    | error e =>
        rw [converted] at given
        cases given
    | ok entries =>
        rw [converted] at given
        cases given
        have kept := (resultAt_texts interp st entries).2
        refine Action.looks_bind (Action.looks_of_storeAfter kept) fun _ _ => ?_
        exact Action.looks_of_storeAfter rfl
  · simp only [complete, ne_eq, not_false_eq_true, if_true]
    exact Action.looks_of_storeAfter rfl

/-- Filling a template is a computation at one store. -/
theorem resultAt_fill (writes : WritesAs st T write convert) (t : Template)
    {supplied : List (String × Value)}
    (leads : ∀ name, LeadsTo st T ((t.valueFor? supplied name).getD .undefined)) :
    (t.fill interp write supplied).resultAt st = t.filled convert supplied := by
  rcases pieces_eq writes leads t.placeholders with ⟨looksPieces, givesPieces⟩
  rw [fill, filled]
  by_cases known : t.unknownKeys (supplied.map Prod.fst) = []
  · rw [if_neg (not_not.mpr known), resultAt_bind_checkKeys_known known]
    by_cases complete : t.missing supplied = []
    · rw [if_neg (not_not.mpr complete), if_neg (not_not.mpr complete),
        Action.resultAt_bind looksPieces.steady, givesPieces]
      cases t.placeholders.mapM fun name => do
          return (name, ← convert name ((t.valueFor? supplied name).getD .undefined)) with
      | error e => rfl
      | ok entries =>
          change (texts interp (entries.map fun e => (e.1, Value.text e.2)) >>= _).resultAt st = _
          rcases resultAt_texts interp st entries with ⟨gives, kept⟩
          rw [Action.resultAt_bind_ok gives, kept]
          rfl
    · rw [if_pos complete, if_pos complete]
      rfl
  · rw [if_pos known, resultAt_bind_checkKeys_unknown known]

end

/-! ### Templates in templates -/

/-- An object of data is given, or nothing. -/
def Offers (st : Store) (values : Value) (supplied : List (String × Value)) : Prop :=
  st.Supplies values supplied ∨ values = .undefined ∧ supplied = []

theorem suppliedBy_eq (interp : Interpretation) {values : Value} {supplied : List (String × Value)}
    (h : Offers st values supplied) :
    (suppliedBy interp values).resultAt st = .ok supplied
      ∧ (suppliedBy interp values).storeAfter st = st := by
  rcases h with supplies | ⟨rfl, rfl⟩
  · have found : values ≠ .undefined := by
      rcases supplies with ⟨r, rfl, -⟩
      simp only [ne_eq, reduceCtorEq, not_false_eq_true]
    rw [suppliedBy, if_neg found]
    exact ⟨Action.resultAt_reading_ok (Store.supplied_eq interp supplies),
      Action.storeAfter_reading_ok (Store.supplied_eq interp supplies)⟩
  · exact ⟨rfl, rfl⟩

/-- Among the values of a sealed template there are other ones at most. -/
theorem leadsTo_valueFor? {t : Template} {supplied : List (String × Value)}
    (defaults : ∀ e ∈ t.defaults, LeadsTo st T e.2) (leads : ∀ e ∈ supplied, LeadsTo st T e.2)
    (name : String) : LeadsTo st T ((t.valueFor? supplied name).getD .undefined) := by
  cases found : t.valueFor? supplied name with
  | none => exact nofun
  | some v =>
      rw [valueFor?, Option.or_eq_some_iff] at found
      rcases found with given | ⟨-, stored⟩
      · exact leads (name, v) (mem_of_lookup given)
      · exact defaults (name, v) (mem_of_lookup stored)

/-- Writing the value for a key only looks at the store, if what is done with a
    template does. -/
theorem looks_piece (t : Template) {key : String} {v : Value} {render : Ref → Action Value}
    (rendering : ∀ inner, st.templateRef? v = some inner → (render inner).Looks st) :
    (piece render (do return .text (← t.write interp key v)) v).Looks st := by
  refine Action.looks_bind_asking ?_
  cases found : st.templateRef? v with
  | some inner => exact rendering inner found
  | none =>
      exact Action.looks_bind (looks_write t key v) fun _ _ => Action.looks_of_storeAfter rfl

/-- Writing the value for a key is a computation at one store, if rendering the
    templates among the values is. -/
theorem writesAs_piece (t : Template) {render : Ref → Action Value}
    {text : Ref → Except Failure String}
    (rendering : ∀ {inner : Ref}, inner ∈ T →
      (render inner).Looks st ∧ (render inner).resultAt st = (text inner).map Value.text) :
    WritesAs st T (fun key v => piece render (do return .text (← t.write interp key v)) v)
      (t.converted interp st text) := by
  intro key v leads
  refine ⟨looks_piece t fun inner found => (rendering (leads inner found)).1, ?_⟩
  change (piece render _ v).resultAt st = _
  rw [piece, Action.resultAt_bind_asking, converted]
  cases found : st.templateRef? v with
  | some inner => exact (rendering (leads inner found)).2
  | none =>
      change (t.write interp key v >>= _).resultAt st = _
      rw [Action.resultAt_bind (steady_write t key v)]
      cases (t.write interp key v).resultAt st with
      | error e => rfl
      | ok s => rfl

/-- Rendering a template that nobody has reached into is a computation at one
    store, which only looks at it. -/
theorem renderWithin_eq (isSealed : SealedOn st T) (allowance : Nat) (what : String) {r : Ref}
    (hr : r ∈ T) {values : Value} {supplied : List (String × Value)}
    (offered : Offers st values supplied) (leads : ∀ e ∈ supplied, LeadsTo st T e.2) :
    (renderWithin interp allowance what r values).Looks st
      ∧ (renderWithin interp allowance what r values).resultAt st
        = (rendered interp st allowance r supplied).map Value.text := by
  induction allowance generalizing what r values supplied with
  | zero => exact ⟨Action.looks_of_storeAfter rfl, rfl⟩
  | succ allowance ih =>
      rcases isSealed r hr with ⟨t, held, defaults⟩
      rcases suppliedBy_eq interp offered with ⟨given, kept⟩
      have writes : WritesAs st T (fun key v => piece
            (fun inner => renderWithin interp allowance "value" inner .undefined)
            (do return .text (← t.write interp key v)) v)
          (t.converted interp st fun inner => rendered interp st allowance inner []) :=
        writesAs_piece t fun inner => ih "value" inner (.inr ⟨rfl, rfl⟩) nofun
      have looks := looks_fill interp writes t (leadsTo_valueFor? defaults leads)
      have gives := resultAt_fill interp writes t (leadsTo_valueFor? defaults leads)
      have native : (st.template? r).isSome = true := by rw [held, Option.isSome_some]
      have text : rendered interp st (allowance + 1) r supplied = t.filled (t.converted interp st
          fun inner => rendered interp st allowance inner []) supplied := by
        rw [rendered, held]
      rw [renderWithin, text, ← gives]
      -- Both parts go through the same steps, and both times nobody has replaced `render`.
      constructor
      · refine Action.looks_bind_asking ?_
        rw [native, if_pos rfl, renderNatively]
        refine Action.looks_bind (Action.looks_of_storeAfter kept) fun _ h => ?_
        rw [given, Except.ok.injEq] at h
        rw [← h]
        refine Action.looks_bind_asking ?_
        rw [held]
        exact Action.looks_bind looks fun _ _ => Action.looks_of_storeAfter rfl
      · rw [Action.resultAt_bind_asking, native, if_pos rfl, renderNatively,
          Action.resultAt_bind_ok given, kept, Action.resultAt_bind_asking, held]
        change (t.fill interp _ supplied >>= _).resultAt st = _
        rw [Action.resultAt_bind looks.steady]
        cases (t.fill interp _ supplied).resultAt st with
        | error e => rfl
        | ok s => rfl

/-! ### More depth -/

/-- A result that is there at some depth is the one at a greater depth. -/
def Settles (x y : Except Failure String) : Prop :=
  x = .error (.thrown .tooDeep) ∨ x = y

theorem Settles.trans {x y z : Except Failure String} (first : Settles x y) (second : Settles y z) :
    Settles x z := by
  rcases first with deep | rfl
  · exact .inl deep
  · exact second

/-- Converting values at a greater depth settles the texts. -/
theorem settles_mapM {convert convert' : String → Value → Except Failure String}
    (h : ∀ key v, Settles (convert key v) (convert' key v)) (value : String → Value)
    (names : List String) :
    (names.mapM fun name => do return (name, ← convert name (value name)))
        = .error (.thrown .tooDeep)
      ∨ (names.mapM fun name => do return (name, ← convert name (value name)))
        = names.mapM fun name => do return (name, ← convert' name (value name)) := by
  induction names with
  | nil => exact .inr rfl
  | cons n names ih =>
      rw [List.mapM_cons, List.mapM_cons]
      rcases h n (value n) with deep | same
      · rw [deep]
        exact .inl rfl
      · rw [same]
        cases convert' n (value n) with
        | error e => exact .inr rfl
        | ok s =>
            rcases ih with deep | rest
            · left
              rw [deep]
              rfl
            · right
              rw [rest]

theorem settles_filled {convert convert' : String → Value → Except Failure String}
    (h : ∀ key v, Settles (convert key v) (convert' key v)) (t : Template)
    (supplied : List (String × Value)) :
    Settles (t.filled convert supplied) (t.filled convert' supplied) := by
  rw [filled, filled]
  split
  · exact .inr rfl
  · split
    · exact .inr rfl
    · rcases settles_mapM h (fun name => (t.valueFor? supplied name).getD .undefined)
        t.placeholders with deep | same
      · left
        rw [deep]
        rfl
      · right
        rw [same]

section

variable (interp st)

theorem settles_rendered (n : Nat) (r : Ref) (supplied : List (String × Value)) :
    Settles (rendered interp st n r supplied) (rendered interp st (n + 1) r supplied) := by
  induction n generalizing r supplied with
  | zero => exact .inl rfl
  | succ n ih =>
      rw [rendered, rendered]
      cases st.template? r with
      | none => exact .inl rfl
      | some t =>
          refine settles_filled (fun key v => ?_) t supplied
          rw [converted, converted]
          cases st.templateRef? v with
          | none => exact .inr rfl
          | some inner => exact ih inner []

theorem settles_of_le {m n : Nat} (le : m ≤ n) (r : Ref) (supplied : List (String × Value)) :
    Settles (rendered interp st m r supplied) (rendered interp st n r supplied) := by
  induction le with
  | refl => exact .inr rfl
  | step _ ih => exact ih.trans (settles_rendered interp st _ r supplied)

/-- Rendering needs no more depth than there are objects. -/
theorem rendered_of_size_le {n : Nat} (le : st.objects.size ≤ n) (r : Ref) :
    rendered interp st n r [] = rendered interp st st.objects.size r [] := by
  rcases settles_of_le interp st le r [] with short | same
  · -- If more depth were needed, there would be a template for every depth.
    by_cases deep : rendered interp st n r [] = .error (.thrown .tooDeep)
    · rw [short, deep]
    · refine absurd short ?_
      refine succeeds_within (P := fun m q => rendered interp st m q [] ≠ .error (.thrown .tooDeep))
        ?_ ?_ ?_ deep
      · intro m q enough deep
        rcases settles_rendered interp st m q [] with short | same
        · exact enough short
        · exact enough (same.trans deep)
      · intro m q enough
        by_contra outside
        refine enough ?_
        have missing : st.template? q = none := by
          rw [Store.template?, Store.get_of_size_le (Nat.le_of_not_lt outside)]
          rfl
        cases m with
        | zero => rfl
        | succ m => rw [rendered, missing]
      · -- If one depth more makes no difference inside, it makes none outside.
        intro m q enough short
        by_contra none
        refine enough ((congrArg (· = _) ?_).mp (not_not.mp short))
        have inside : ∀ inner,
            rendered interp st m inner [] = rendered interp st (m + 1) inner [] := by
          intro inner
          rcases settles_rendered interp st m inner [] with short | same
          · by_contra differ
            exact none ⟨inner, fun deep => differ (short.trans deep.symm), not_not.mpr short⟩
          · exact same
        rw [rendered, rendered, funext inside]
  · exact same.symm

/-- The outcome of rendering a template among the values is that of rendering it
    by itself. -/
theorem rendered_inner (r : Ref) :
    rendered interp st st.objects.size r [] = rendered interp st (st.objects.size + 1) r [] :=
  (rendered_of_size_le interp st (Nat.le_succ _) r).symm

/-- More depth than there are objects changes nothing, whatever is supplied. -/
theorem rendered_succ_of_size_le {n : Nat} (le : st.objects.size ≤ n) (r : Ref)
    (supplied : List (String × Value)) :
    rendered interp st (n + 1) r supplied
      = rendered interp st (st.objects.size + 1) r supplied := by
  have inside : ∀ inner,
      rendered interp st n inner [] = rendered interp st st.objects.size inner [] :=
    rendered_of_size_le interp st le
  rw [rendered, rendered, funext inside]

end

/-- Rendering with an object of data, where nobody has reached into the templates
    among the values. -/
theorem render_sealed (interp : Interpretation) (isSealed : SealedOn st T) (what : String)
    {r : Ref} (hr : r ∈ T) {values : Value} {supplied : List (String × Value)}
    (offered : Offers st values supplied) (leads : ∀ e ∈ supplied, LeadsTo st T e.2) :
    (render interp what r values).Looks st
      ∧ (render interp what r values).resultAt st
        = (rendered interp st (st.objects.size + 1) r supplied).map Value.text := by
  rcases renderWithin_eq isSealed (st.objects.size + 1) what hr offered leads with ⟨looks, gives⟩
  constructor
  · exact Action.looks_bind_asking looks
  · rw [render, Action.resultAt_bind_asking]
    exact gives

/-- Rendering with an object of data, where nobody has reached into any template. -/
theorem render_eq (untouched : st.Untouched) (what : String) {r : Ref} {t : Template}
    {values : Value} {supplied : List (String × Value)} (held : st.template? r = some t)
    (offered : Offers st values supplied) :
    (render interp what r values).Looks st
      ∧ (render interp what r values).resultAt st
        = (rendered interp st (st.objects.size + 1) r supplied).map Value.text := by
  have leads : ∀ v, LeadsTo st {q | ∃ u, st.template? q = some u} v :=
    fun v inner found => untouched.template found
  have isSealed : SealedOn st {q | ∃ u, st.template? q = some u} := by
    rintro q ⟨u, there⟩
    exact ⟨u, there, fun e _ => leads e.2⟩
  exact render_sealed interp isSealed what ⟨t, held⟩ offered fun e _ => leads e.2

end Template

end Stencil
