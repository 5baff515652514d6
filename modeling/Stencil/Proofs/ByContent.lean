import Stencil.Proofs.Content
import Stencil.Proofs.Entries
import Stencil.Proofs.RenderOutcome

/-!
# Rendering by Content

Rendering gives the same text wherever the values have the same content.

A serializer reads the store, so it could give another text once an unrelated
object was allocated. `Template.ByContent` rules this out: what a template
writes depends on the content of the value alone. Templates among the values
are rendered by themselves, so the same is asked of their serializers; then the
text of a template stays as the store grows. The number of objects, which the
allowance of depth comes from, is greater afterwards, but no template needs
more of it than before.

Rendering succeeds in one way: every placeholder has a value, every value has a
text, and these texts fill the cut of the source. `render_eq_ok_iff` says that,
and comparing two renderings is comparing the texts of their values.

## Main definitions

* `Template.ByContent`: What is written depends on nothing but the content.

## Theorems

* `Template.filled_eq_ok_iff`: When filling a template gives a text.
* `Template.render_eq_ok_iff`: When rendering a template gives a text.
* `Template.rendered_extends`: The texts of templates stay as the store grows.
* `Template.converts_extends`, `Template.converts_alike`: The texts of values
  stay, and are those of what has the same content.
-/

namespace Stencil

namespace Template

/-- What a template writes for a value depends on the content of the value
    alone, whatever is added to the store. -/
def ByContent (interp : Interpretation) (st : Store) (t : Template) : Prop :=
  ∀ ⦃st' : Store⦄ ⦃v v' : Value⦄, st.Extends st' → st.Alike v st' v' → ∀ s : String,
    t.serialize interp st v = .ok (.existing (.text s))
      ↔ t.serialize interp st' v' = .ok (.existing (.text s))

variable {interp : Interpretation} {st st' : Store} {t : Template}

/-- What a template writes is up to its variant and its serializer. -/
theorem serialize_congr {u : Template} (variant : u.variant = t.variant)
    (serializer : u.serializer = t.serializer) (st : Store) (v : Value) :
    u.serialize interp st v = t.serialize interp st v := by
  rw [serialize, serialize, serializeBase, serializeBase, variant, serializer]

/-- The texts of values are up to what a template writes. -/
theorem converts_congr {u : Template}
    (same : ∀ v, u.serialize interp st v = t.serialize interp st v) (v : Value) (s : String) :
    u.Converts interp st v s ↔ t.Converts interp st v s := by
  rw [Converts, Converts, same v]

/-! ### When there is a text -/

section

variable {c : Cut} {convert : String → Value → Except Failure String}
  {supplied : List (String × Value)}

/-- Filling a template gives a text if and only if all placeholders have values
    with texts, and then these fill the cut of the source. -/
theorem filled_eq_ok_iff (hc : c.Of t.source) {s : String} :
    t.filled convert supplied = .ok s
      ↔ t.unknownKeys (supplied.map Prod.fst) = [] ∧ ∃ text : String → String,
        (∀ n ∈ c.names, ∃ v, t.valueFor? supplied n = some v ∧ convert n v = .ok (text n))
          ∧ s = t.finish (c.fill fun n => some (text n)) := by
  constructor
  · intro given
    have known : t.unknownKeys (supplied.map Prod.fst) = [] := by
      by_contra unknown
      rw [filled, if_pos unknown] at given
      cases given
    have complete : t.missing supplied = [] := by
      by_contra missing
      rw [filled, if_neg (not_not.mpr known), if_pos missing] at given
      cases given
    -- No value failed, as the first one that does would have been the result.
    have converted : ∀ n ∈ c.names, ∃ v s, t.valueFor? supplied n = some v
        ∧ convert n v = .ok s := by
      intro n hn
      have place : n ∈ t.placeholders := by
        rw [placeholders_eq hc, List.mem_eraseDups]
        exact hn
      rcases missing_eq_nil_iff.mp complete n place with ⟨v, found⟩
      have output := given
      rw [filled, if_neg (not_not.mpr known), if_neg (not_not.mpr complete)] at output
      rcases ok_of_bind output with ⟨entries, written, -⟩
      rcases exists_ok_of_mapM written n place with ⟨entry, one⟩
      rcases ok_of_bind one with ⟨s, text, -⟩
      rw [found, Option.getD_some] at text
      exact ⟨v, s, found, text⟩
    -- One text for each name, and any text for what is no name.
    have texts : ∀ n, ∃ s, n ∈ c.names → ∃ v, t.valueFor? supplied n = some v
        ∧ convert n v = .ok s := by
      intro n
      by_cases mem : n ∈ c.names
      · rcases converted n mem with ⟨v, s, found, text⟩
        exact ⟨s, fun _ => ⟨v, found, text⟩⟩
      · exact ⟨"", fun h => absurd h mem⟩
    choose text written using texts
    have filled := filled_of_texts hc known written
    rw [given, Except.ok.injEq] at filled
    exact ⟨known, text, written, filled⟩
  · rintro ⟨known, text, written, rfl⟩
    exact filled_of_texts hc known written

/-- The text of a template is the same if the values have the same texts. -/
theorem filled_congr {convert' : String → Value → Except Failure String} (s : String)
    (same : ∀ n v, t.valueFor? supplied n = some v →
      ∀ s, convert n v = .ok s ↔ convert' n v = .ok s) :
    t.filled convert supplied = .ok s ↔ t.filled convert' supplied = .ok s := by
  rcases t.exists_cut with ⟨c, hc, -⟩
  rw [filled_eq_ok_iff hc, filled_eq_ok_iff hc]
  refine and_congr_right fun _ => exists_congr fun text => and_congr_left fun _ => ?_
  refine forall_congr' fun n => forall_congr' fun _ => exists_congr fun v => ?_
  exact and_congr_right fun found => same n v found (text n)

end

/-- Rendering gives a text if and only if all placeholders have values with texts,
    and then these fill the cut of the source. -/
theorem render_eq_ok_iff (what : String) (untouched : st.Untouched) {r : Ref} {values : Value}
    {supplied : List (String × Value)} (held : st.template? r = some t)
    (offered : Offers st values supplied) {c : Cut} (hc : c.Of t.source) {s : String} :
    (render interp what r values).resultAt st = .ok (.text s)
      ↔ t.unknownKeys (supplied.map Prod.fst) = [] ∧ ∃ text : String → String,
        (∀ n ∈ c.names, ∃ v, t.valueFor? supplied n = some v ∧ t.Converts interp st v (text n))
          ∧ s = t.finish (c.fill fun n => some (text n)) := by
  have given : (render interp what r values).resultAt st = .ok (.text s)
      ↔ t.filled (t.converted interp st fun inner => rendered interp st st.objects.size inner [])
        supplied = .ok s := by
    rw [(render_eq untouched what held offered).2, rendered, held]
    exact map_text_eq_ok_iff
  rw [given, filled_eq_ok_iff hc]
  simp only [converted_eq_ok_iff _ untouched]

/-! ### As the store grows -/

/-- The texts of templates stay as the store grows. -/
theorem rendered_extends (intact : st.Intact) (grown : st.Extends st')
    (byContent : ∀ r u, st.template? r = some u → u.ByContent interp st) (n : Nat) {r : Ref}
    (held : st.template? r = some t) {supplied : List (String × Value)}
    (inside : ∀ e ∈ supplied, st.Holds e.2) (s : String) :
    rendered interp st' n r supplied = .ok s ↔ rendered interp st n r supplied = .ok s := by
  induction n generalizing r t supplied s with
  | zero => rfl
  | succ n ih =>
      rw [rendered, rendered, held, grown.template? held]
      refine filled_congr s fun name v found s => ?_
      have there : st.Holds v := by
        rw [valueFor?, Option.or_eq_some_iff] at found
        rcases found with given | ⟨-, stored⟩
        · exact inside (name, v) (mem_of_lookup given)
        · exact intact.closed.default held (mem_of_lookup stored)
      rw [converted, converted, grown.templateRef?_eq intact.closed there]
      cases simple : st.templateRef? v with
      | some inner =>
          rcases intact.untouched.template simple with ⟨u, held'⟩
          exact ih held' (fun _ mem => absurd mem List.not_mem_nil) s
      | none =>
          rw [resultAt_write_eq_ok_iff, resultAt_write_eq_ok_iff]
          exact (byContent r t held grown (.of_extends intact.closed there grown) s).symm

/-- The texts of values stay as the store grows. -/
theorem converts_extends (intact : st.Intact) (intact' : st'.Intact) (grown : st.Extends st')
    (byContent : ∀ r u, st.template? r = some u → u.ByContent interp st)
    (here : t.ByContent interp st) {v : Value} (inside : st.Holds v) (s : String) :
    t.Converts interp st' v s ↔ t.Converts interp st v s := by
  rw [Converts, Converts, grown.templateRef?_eq intact.closed inside]
  cases simple : st.templateRef? v with
  | none => exact (here grown (.of_extends intact.closed inside grown) s).symm
  | some inner =>
      have simple' : st'.templateRef? v = some inner := by
        rw [grown.templateRef?_eq intact.closed inside, simple]
      rcases intact.untouched.template simple with ⟨u, held⟩
      have same : rendered interp st' st'.objects.size inner [] = .ok s
          ↔ rendered interp st st'.objects.size inner [] = .ok s :=
        rendered_extends intact grown byContent _ held (fun _ mem => absurd mem List.not_mem_nil) s
      -- By itself the template has the allowance of its own store.
      rw [rendered_of_size_le interp st grown.size_le] at same
      simp only [render_inner_eq intact.untouched simple, render_inner_eq intact'.untouched simple',
        map_text_eq_ok_iff, same]

/-- Data with the same content has the same texts. -/
theorem converts_alike (grown : st.Extends st') (here : t.ByContent interp st) {v v' : Value}
    (data : st.IsData v) (alike : st.Alike v st' v') (s : String) :
    t.Converts interp st' v' s ↔ t.Converts interp st v s := by
  rw [Converts, Converts, data.templateRef?_eq_none, (data.of_alike alike).templateRef?_eq_none]
  exact (here grown alike s).symm

end Template

end Stencil
