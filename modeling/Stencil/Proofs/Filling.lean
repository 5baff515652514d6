import Stencil.Proofs.Cut
import Stencil.Proofs.Spans

/-!
# Filling Cuts

What putting texts in the place of placeholders does to a source.

A cut marks the placeholders of its source, so splicing these is one equation for
each of them, `Cut.fill`, and characters are never divided. Where some placeholders
stay, `Cut.subst` gives a cut of the result: a text that is put in joins the
literals on both sides of it, and these become one literal. Filling the rest
later or everything at once then is the same by induction on the cut.

A literal that has grown together need not be bare, even if all its parts are: a
`$` at the end of one part can meet an opening brace at the start of another.
So the cut of the result is proper if and only if its literals are bare, and
only then are the placeholders of the result those that stayed.

## Main definitions

* `Cut.fill`: The text of a cut with texts in place of names.
* `Cut.marked`: The source of a cut with its placeholders marked.
* `Cut.subst`: The cut that remains when some names are filled.
* `Cut.Clear`: No `$` comes to stand in front of a brace.

## Theorems

* `splice_eq_fill`: Splicing the placeholders of a source fills its cut.
* `Cut.text_subst`, `Cut.names_subst`: The text and the names that remain.
* `Cut.subst_subst`, `Cut.fill_subst`: Filling in two steps.
* `Cut.free_subst`: Texts without a character bring none into the literals.
* `Cut.bare_subst_iff`: When texts without a `$` leave the literals bare.
* `parses_fill_iff`: The placeholders that stayed are those of the result if and
  only if the literals that have grown together are bare.
-/

namespace Stencil

/-- The text that is put in place of a name: its own placeholder, if there is
    none. -/
def filling (texts : String → Option String) (name : String) : List Char :=
  match texts name with
  | some s => s.toList
  | none => placeholderText name

namespace Cut

/-- The text of a cut with texts in place of names. -/
def fill (texts : String → Option String) : Cut → List Char
  | last l => l
  | placed l n rest => l ++ (filling texts n ++ rest.fill texts)

/-- The cut that remains when some names are filled. -/
def subst (texts : String → Option String) : Cut → Cut
  | last l => last l
  | placed l n rest =>
    match texts n with
    | some s => (rest.subst texts).prepend (l ++ s.toList)
    | none => placed l n (rest.subst texts)

variable (texts more : String → Option String)

theorem text_subst (c : Cut) : (c.subst texts).text = c.fill texts := by
  induction c with
  | last l => rfl
  | placed l n rest ih =>
      rw [subst, fill, filling]
      cases texts n with
      | none => rw [text, ih]
      | some s => rw [text_prepend, ih, List.append_assoc]

theorem names_subst (c : Cut) :
    (c.subst texts).names = c.names.filter fun n => (texts n).isNone := by
  induction c with
  | last l => rfl
  | placed l n rest ih =>
      rw [subst, names]
      cases found : texts n with
      | none =>
          rw [names, ih, List.filter_cons_of_pos]
          rw [found, Option.isNone_none]
      | some s =>
          rw [names_prepend, ih, List.filter_cons_of_neg]
          rw [found, Option.isNone_some]
          decide

theorem subst_prepend (front : List Char) (c : Cut) :
    (c.prepend front).subst texts = (c.subst texts).prepend front := by
  cases c with
  | last l => rfl
  | placed l n rest =>
      rw [prepend, subst, subst]
      cases texts n with
      | none => rfl
      | some s =>
          cases rest.subst texts with
          | last m => simp only [prepend, List.append_assoc]
          | placed m k tail => simp only [prepend, List.append_assoc]

/-- Without texts everything remains. -/
theorem subst_none (c : Cut) : c.subst (fun _ => none) = c := by
  induction c with
  | last l => rfl
  | placed l n rest ih => rw [subst, ih]

/-- Filling some names and others later is filling them at once. -/
theorem subst_subst (c : Cut) :
    (c.subst texts).subst more = c.subst fun n => (texts n).or (more n) := by
  induction c with
  | last l => rfl
  | placed l n rest ih =>
      rw [subst, subst]
      cases texts n with
      | none =>
          rw [subst, ih, Option.none_or]
      | some s => rw [subst_prepend, ih, Option.some_or]

/-- Filling what remains is filling everything at once. -/
theorem fill_subst (c : Cut) :
    (c.subst texts).fill more = c.fill fun n => (texts n).or (more n) := by
  rw [← text_subst, subst_subst, text_subst]

/-- Only the texts for the names of a cut matter. -/
theorem fill_congr {texts more : String → Option String} {c : Cut}
    (same : ∀ n ∈ c.names, texts n = more n) : c.fill texts = c.fill more := by
  induction c with
  | last l => rfl
  | placed l n rest ih =>
      have here : filling texts n = filling more n := by
        rw [filling, filling, same n List.mem_cons_self]
      rw [fill, fill, here, ih fun m hm => same m (List.mem_cons_of_mem n hm)]

theorem literals_prepend (front : List Char) (c : Cut) :
    ∃ first others, c.literals = first :: others
      ∧ (c.prepend front).literals = (front ++ first) :: others := by
  cases c with
  | last l => exact ⟨l, [], rfl, rfl⟩
  | placed l n rest => exact ⟨l, rest.literals, rfl, rfl⟩

/-- Texts without a character bring none of it into the literals. -/
theorem free_subst {texts : String → Option String} {d : Char} {c : Cut}
    (literals : ∀ l ∈ c.literals, d ∉ l)
    (clear : ∀ n ∈ c.names, ∀ s, texts n = some s → d ∉ s.toList) :
    ∀ l ∈ (c.subst texts).literals, d ∉ l := by
  induction c with
  | last l => exact literals
  | placed l n rest ih =>
      have first : d ∉ l := literals l List.mem_cons_self
      have behind := ih (fun m hm => literals m (List.mem_cons_of_mem l hm))
        fun m hm => clear m (List.mem_cons_of_mem n hm)
      rw [subst]
      cases found : texts n with
      | none =>
          intro m hm
          rcases List.mem_cons.mp hm with rfl | hm
          · exact first
          · exact behind m hm
      | some s =>
          have inserted : d ∉ s.toList := clear n List.mem_cons_self s found
          rcases literals_prepend (l ++ s.toList) (rest.subst texts) with
            ⟨next, others, before, after⟩
          rw [before] at behind
          rw [after]
          intro m hm
          rcases List.mem_cons.mp hm with rfl | hm
          · simp only [List.mem_append, first, inserted, behind next List.mem_cons_self, or_self,
              not_false_eq_true]
          · exact behind m (List.mem_cons_of_mem next hm)

end Cut

/-! ### Splicing -/

namespace Cut

/-- The source of a cut with its placeholders marked. -/
def marked : Cut → Marked
  | last l => .last (codeUnits l)
  | placed l n rest => .span (codeUnits l) n (codeUnits (placeholderText n)) rest.marked

theorem text_marked (c : Cut) : c.marked.text = codeUnits c.text := by
  induction c with
  | last l => rfl
  | placed l n rest ih => rw [marked, Marked.text, ih, text, codeUnits_append, codeUnits_append]

theorem spansFrom_marked (c : Cut) (position : Nat) :
    c.marked.spansFrom position = c.occurrencesFrom position := by
  induction c generalizing position with
  | last l => rfl
  | placed l n rest ih =>
      rw [marked, Marked.spansFrom, ih, occurrencesFrom, length_codeUnits, length_codeUnits]

theorem fill_marked (texts : String → Option String) (c : Cut) :
    c.marked.fill texts = codeUnits (c.fill texts) := by
  induction c with
  | last l => rfl
  | placed l n rest ih =>
      rw [marked, Marked.fill, ih, fill, codeUnits_append, codeUnits_append, replacing, filling]
      cases texts n with
      | none => rfl
      | some s => rfl

theorem Of.marked {c : Cut} {source : String} (h : c.Of source) :
    c.marked.Of source (c.occurrencesFrom 0) :=
  ⟨by rw [text_marked, h.text_eq], c.spansFrom_marked 0⟩

end Cut

/-- Splicing the placeholders of a source fills its cut. -/
theorem splice_eq_fill {c : Cut} {source : String} (h : c.Of source)
    (texts : String → Option String) :
    splice source (c.occurrencesFrom 0) texts = String.ofList (c.fill texts) := by
  rw [h.marked.splice_eq, Cut.fill_marked, ofCodeUnits_codeUnits]

/-! ### Reading the result -/

theorem bare_of_free {literal : List Char} (free : '$' ∉ literal) : Bare literal := by
  intro h
  exact free (h.subset List.mem_cons_self)

/-- Where two bare texts meet, a `$` and a brace can come together. -/
theorem bare_append_iff {l m : List Char} :
    Bare (l ++ m) ↔ Bare l ∧ Bare m ∧ (l.getLast? = some '$' → m.head? ≠ some '{') := by
  induction l with
  | nil =>
      rw [List.nil_append]
      exact ⟨fun h => ⟨bare_nil, h, nofun⟩, fun h => h.2.1⟩
  | cons d l ih =>
      rw [List.cons_append, bare_cons_iff, ih, bare_cons_iff]
      -- Only the last character of the first text can meet the second one.
      cases l with
      | nil =>
          cases m with
          | nil => simp [bare_nil]
          | cons e m => simp [bare_nil]
      | cons e l =>
          simp only [List.cons_append, List.getLast?_cons_cons, List.cons.injEq]
          constructor
          · rintro ⟨⟨hl, hm, meet⟩, hd⟩
            exact ⟨⟨hl, fun h => hd ⟨h.1, _, h.2.choose_spec.1, rfl⟩⟩, hm, meet⟩
          · rintro ⟨⟨hl, hd⟩, hm, meet⟩
            exact ⟨⟨hl, hm, meet⟩, fun h => hd ⟨h.1, _, h.2.choose_spec.1, rfl⟩⟩

namespace Cut

/-- The `$` at the end of a literal never comes to stand in front of a brace when
    texts are put in place of names. -/
def Clear (texts : String → Option String) : Cut → Prop
  | last _ => True
  | placed l n rest =>
    (l.getLast? = some '$' → (filling texts n ++ rest.fill texts).head? ≠ some '{')
      ∧ rest.Clear texts

instance decidableClear (texts : String → Option String) : (c : Cut) → Decidable (c.Clear texts)
  | last _ => isTrue trivial
  | placed _ _ rest => @instDecidableAnd _ _ _ (decidableClear texts rest)

/-- What a cut begins with. -/
theorem head_text {c : Cut} {first : List Char} {others : List (List Char)}
    (literals : c.literals = first :: others) (front : List Char) :
    (front ++ c.text).head? = some '{' ↔ (front ++ first).head? = some '{' := by
  cases front with
  | cons d front => rfl
  | nil =>
      cases c with
      | last l =>
          cases literals
          rfl
      | placed l n rest =>
          cases literals
          cases first with
          | nil => exact ⟨nofun, nofun⟩
          | cons d first => rfl

/-- Texts without a `$` leave bare literals bare unless the `$` at the end of one
    meets a brace. -/
theorem bare_subst_iff {texts : String → Option String} {c : Cut}
    (bare : ∀ l ∈ c.literals, Bare l)
    (free : ∀ n ∈ c.names, ∀ s, texts n = some s → '$' ∉ s.toList) :
    (∀ l ∈ (c.subst texts).literals, Bare l) ↔ c.Clear texts := by
  induction c with
  | last l => exact ⟨fun _ => trivial, fun _ => bare⟩
  | placed l n rest ih =>
      have rest_iff := ih (fun m hm => bare m (List.mem_cons_of_mem l hm))
        fun m hm => free m (List.mem_cons_of_mem n hm)
      have first : Bare l := bare l List.mem_cons_self
      rw [subst, Clear, filling, ← rest_iff]
      cases found : texts n with
      | none =>
          -- What stays begins with a `$`, so nothing in front of it meets a brace.
          have dollar : (placeholderText n ++ rest.fill texts).head? ≠ some '{' := nofun
          simp only [literals, List.forall_mem_cons, first, dollar, ne_eq, not_false_eq_true,
            implies_true, true_and]
      | some s =>
          have inserted : '$' ∉ s.toList := free n List.mem_cons_self s found
          rcases literals_prepend (l ++ s.toList) (rest.subst texts) with
            ⟨next, others, before, after⟩
          -- The text itself ends in no `$`, so only the literal in front of it matters.
          have ending : s.toList.getLast? = some '$' → next.head? ≠ some '{' :=
            fun last => absurd (List.mem_of_getLast? last) inserted
          simp only [← text_subst, head_text before, before, after, List.forall_mem_cons,
            List.append_assoc, bare_append_iff, first, bare_of_free inserted, ne_eq, true_and]
          constructor
          · rintro ⟨⟨⟨behind, -⟩, clear⟩, rest⟩
            exact ⟨clear, behind, rest⟩
          · rintro ⟨clear, behind, rest⟩
            exact ⟨⟨⟨behind, ending⟩, clear⟩, rest⟩

/-- The cut that remains is one of the result, if its literals are bare. -/
theorem Of.subst {c : Cut} {source : String} (h : c.Of source) {texts : String → Option String}
    (bare : ∀ l ∈ (c.subst texts).literals, Bare l) :
    (c.subst texts).Of (String.ofList (c.fill texts)) := by
  refine ⟨⟨bare, ?_⟩, ?_⟩
  · intro n hn
    rw [names_subst] at hn
    exact h.named n (List.mem_filter.mp hn).1
  · rw [text_subst, String.toList_ofList]

end Cut

/-- The placeholders that stayed are those of the result if and only if the
    literals that have grown together are bare. -/
theorem parses_fill_iff {c : Cut} {source : String} (h : c.Of source)
    (texts : String → Option String) :
    Outline.ofSource? (String.ofList (c.fill texts))
        = .ok (Outline.ofOccurrences ((c.subst texts).occurrencesFrom 0))
      ↔ ∀ l ∈ (c.subst texts).literals, Bare l := by
  constructor
  · intro parses
    rcases exists_cut parses with ⟨d, hd⟩
    have same : d.text = (c.subst texts).text := by
      rw [hd.text_eq, String.toList_ofList, Cut.text_subst]
    have places := hd.ofSource?_eq
    -- The result has some cut. With the same text and the same places it is this one.
    rw [parses, Except.ok.injEq, Outline.ofOccurrences, Outline.ofOccurrences,
      Outline.mk.injEq] at places
    rw [← Cut.eq_of_occurrencesFrom same places.2.symm]
    exact hd.bare
  · intro bare
    exact (h.subst bare).ofSource?_eq

end Stencil
