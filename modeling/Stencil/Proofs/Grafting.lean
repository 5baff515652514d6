import Stencil.Proofs.Filling

/-!
# Cuts in Cuts

What putting the source of a template in the place of a placeholder does.

An inserted source brings its own placeholders along. On cuts it is a cut that
is put in the place of a name: its first literal joins the one in front of it,
its last literal the one behind it, and the names between them become names of
the result.

What is put in is not filled again where the result is filled, but a name means
the same in all of the result. So filling it is filling the outer cut with the
filled inner ones, whatever names they share.

## Main definitions

* `Cut.append`: One cut behind another.
* `Cut.graft`: Cuts in the place of names.

## Theorems

* `Cut.fill_graft`: Filling is filling the inner cuts first.
* `Cut.text_graft`: The text of the result.
* `Cut.mem_names_graft`: The names of the result.
* `Cut.Of.graft`: The cut of the result, if its literals are bare.
-/

namespace Stencil

namespace Cut

/-- One cut behind another. The literals where they meet become one. -/
def append : Cut → Cut → Cut
  | last l, d => d.prepend l
  | placed l n rest, d => placed l n (rest.append d)

/-- The cut that comes of putting cuts in the place of some names. -/
def graft (cuts : String → Option Cut) : Cut → Cut
  | last l => last l
  | placed l n rest =>
    match cuts n with
    | some d => (d.append (rest.graft cuts)).prepend l
    | none => placed l n (rest.graft cuts)

variable {cuts : String → Option Cut} {texts : String → Option String} {n : String}

theorem fill_prepend (front : List Char) (c : Cut) :
    (c.prepend front).fill texts = front ++ c.fill texts := by
  cases c with
  | last l => rfl
  | placed l n rest => rw [prepend, fill, fill, List.append_assoc]

theorem fill_append (c d : Cut) : (c.append d).fill texts = c.fill texts ++ d.fill texts := by
  induction c with
  | last l => rw [append, fill_prepend, fill]
  | placed l n rest ih => rw [append, fill, fill, ih, List.append_assoc, List.append_assoc]

theorem names_append (c d : Cut) : (c.append d).names = c.names ++ d.names := by
  induction c with
  | last l => rw [append, names_prepend, names, List.nil_append]
  | placed l n rest ih => rw [append, names, names, ih, List.cons_append]

/-- Without texts, a cut is filled with its own placeholders. -/
theorem fill_none (c : Cut) : c.fill (fun _ => none) = c.text := by
  rw [← text_subst, subst_none]

/-- Filling the result is filling the inner cuts and putting these texts in the
    outer one. -/
theorem fill_graft (c : Cut) :
    (c.graft cuts).fill texts
      = c.fill fun n => ((cuts n).map fun d => String.ofList (d.fill texts)).or (texts n) := by
  induction c with
  | last l => rfl
  | placed l n rest ih =>
      rw [graft]
      cases found : cuts n with
      | none =>
          rw [fill, fill, ih, filling, filling, found, Option.map_none, Option.none_or]
      | some d =>
          rw [fill_prepend, fill_append, ih, fill, filling, found]
          simp only [Option.map_some, Option.some_or, String.toList_ofList]

/-- The text of the result is the outer text with the inner ones in the place of
    their placeholders. -/
theorem text_graft (c : Cut) :
    (c.graft cuts).text = c.fill fun n => (cuts n).map fun d => String.ofList d.text := by
  rw [← fill_none, fill_graft]
  simp only [fill_none, Option.or_none]

/-- The names of the result are the outer ones that stay and those of the inner
    cuts. -/
theorem mem_names_graft {c : Cut} :
    n ∈ (c.graft cuts).names
      ↔ n ∈ c.names ∧ cuts n = none ∨ ∃ m ∈ c.names, ∃ d, cuts m = some d ∧ n ∈ d.names := by
  induction c with
  | last l =>
      constructor
      · exact fun mem => absurd mem List.not_mem_nil
      · rintro (⟨mem, -⟩ | ⟨m, mem, -⟩)
        · exact absurd mem List.not_mem_nil
        · exact absurd mem List.not_mem_nil
  | placed l k rest ih =>
      rw [graft]
      -- The first name stays, or the names of a cut stand in its place.
      cases found : cuts k with
      | none =>
          rw [names, List.mem_cons, ih, names]
          constructor
          · rintro (rfl | ⟨mem, stays⟩ | ⟨m, mem, inner⟩)
            · exact .inl ⟨List.mem_cons_self, found⟩
            · exact .inl ⟨List.mem_cons_of_mem _ mem, stays⟩
            · exact .inr ⟨m, List.mem_cons_of_mem _ mem, inner⟩
          · rintro (⟨mem, stays⟩ | ⟨m, mem, d, some, inner⟩)
            · rcases List.mem_cons.mp mem with same | mem
              · exact .inl same
              · exact .inr (.inl ⟨mem, stays⟩)
            · rcases List.mem_cons.mp mem with rfl | mem
              · rw [found] at some
                cases some
              · exact .inr (.inr ⟨m, mem, d, some, inner⟩)
      | some d =>
          rw [names_prepend, names_append, List.mem_append, ih, names]
          constructor
          · rintro (inner | ⟨mem, stays⟩ | ⟨m, mem, inner⟩)
            · exact .inr ⟨k, List.mem_cons_self, d, found, inner⟩
            · exact .inl ⟨List.mem_cons_of_mem _ mem, stays⟩
            · exact .inr ⟨m, List.mem_cons_of_mem _ mem, inner⟩
          · rintro (⟨mem, stays⟩ | ⟨m, mem, d', some, inner⟩)
            · rcases List.mem_cons.mp mem with rfl | mem
              · rw [found] at stays
                cases stays
              · exact .inr (.inl ⟨mem, stays⟩)
            · rcases List.mem_cons.mp mem with rfl | mem
              · rw [found, Option.some.injEq] at some
                exact .inl (some ▸ inner)
              · exact .inr (.inr ⟨m, mem, d', some, inner⟩)

/-- The result has the cut of the outer source with the inner cuts in it, if its
    literals are bare. -/
theorem Of.graft {c : Cut} {source : String} (h : c.Of source)
    (inner : ∀ n d, cuts n = some d → d.Proper)
    (bare : ∀ l ∈ (c.graft cuts).literals, Bare l) :
    (c.graft cuts).Of
      (String.ofList (c.fill fun n => (cuts n).map fun d => String.ofList d.text)) := by
  refine ⟨⟨bare, fun n hn => ?_⟩, ?_⟩
  · rcases mem_names_graft.mp hn with ⟨mem, -⟩ | ⟨m, -, d, some, mem⟩
    · exact h.named n mem
    · exact (inner m d some).named n mem
  · rw [text_graft, String.toList_ofList]

end Cut

end Stencil
