import Stencil.Proofs.Filling

/-!
# Exchanging Spans

All that `splice` does to a source.

It exchanges the spans that have a replacement and keeps the rest. For spans in
order this is what `Marked.fill` says: the source taken apart at the spans, and put
together again with other texts in the place of some of them. There is a way to
take it apart, and whichever is chosen gives the result.

Placeholders that the scan found are spans in order. Exchanged for themselves, or
for nothing at all, they give the source back.

## Theorems

* `Cut.fill_own`: Placeholders that are exchanged for themselves.
* `splice_exchanges`: What splicing does.
-/

namespace Stencil

/-- A text in the place of a placeholder that is the placeholder changes nothing. -/
theorem Cut.fill_own {texts : String → Option String} {c : Cut}
    (own : ∀ n ∈ c.names,
      texts n = none ∨ texts n = some (String.ofList (placeholderText n))) :
    c.fill texts = c.text := by
  induction c with
  | last l => rfl
  | placed l n rest ih =>
      rw [names, List.forall_mem_cons] at own
      have here : filling texts n = placeholderText n := by
        rw [filling]
        rcases own.1 with none | same
        · rw [none]
        · rw [same]
          exact String.toList_ofList
      rw [fill, here, ih own.2, text]

/-- Splicing a source at spans in order exchanges those that have a replacement, and
    keeps all else as it is and where it is between them. So the result is as much
    longer as the replacements are longer than what they replace, and spans without
    one could as well be left out. The placeholders of a source can be exchanged for
    themselves. -/
theorem splice_exchanges {source : String} {spans : List Occurrence}
    (ordered : InOrder (units source.toList) spans) (texts : String → Option String) :
    (∃ d : Marked, d.Of source spans)
      ∧ (∀ d : Marked, d.Of source spans →
          spliceFrom (codeUnits source.toList) texts 0 spans = d.fill texts
            ∧ splice source spans texts = String.ofList (ofCodeUnits (d.fill texts))
            ∧ ((∀ part ∈ d.parts, ∃ cs, part = codeUnits cs) →
                codeUnits (splice source spans texts).toList = d.fill texts))
      ∧ (units (splice source spans texts).toList : Int)
          = units source.toList - replacedUnits texts spans + replacingUnits texts spans
      ∧ (∀ others : List Occurrence,
          (others.filter fun o => (texts o.name).isSome)
              = (spans.filter fun o => (texts o.name).isSome) →
            spliceFrom (codeUnits source.toList) texts 0 others
                = spliceFrom (codeUnits source.toList) texts 0 spans
              ∧ splice source others texts = splice source spans texts)
      ∧ ∀ outline, Outline.ofSource? source = .ok outline →
          ∀ own : String → Option String,
            (∀ o ∈ outline.occurrences,
              own o.name = none ∨ own o.name = some (String.ofList (placeholderText o.name))) →
            splice source outline.occurrences own = source := by
  rcases exists_marked ordered with ⟨marked, apart⟩
  refine ⟨⟨marked, apart⟩, ?_, apart.units_splice texts, ?_, ?_⟩
  · intro d h
    exact ⟨h.spliceFrom_eq texts, h.splice_eq texts, h.codeUnits_splice⟩
  · intro others same
    have alike : spliceFrom (codeUnits source.toList) texts 0 others
        = spliceFrom (codeUnits source.toList) texts 0 spans :=
      spliceFrom_congr_filter same 0
    exact ⟨alike, by rw [splice, splice, alike]⟩
  · intro outline parses own same
    rcases exists_cut parses with ⟨c, hc⟩
    have outline_eq := hc.ofSource?_eq
    rw [parses, Except.ok.injEq] at outline_eq
    subst outline_eq
    -- Every name of the cut is that of an occurrence, so nothing else is put in its place.
    have named : ∀ n ∈ c.names,
        own n = none ∨ own n = some (String.ofList (placeholderText n)) := by
      intro n mem
      rw [← c.names_occurrencesFrom 0, List.mem_map] at mem
      rcases mem with ⟨o, mem, rfl⟩
      exact same o mem
    rw [Outline.ofOccurrences, splice_eq_fill hc, Cut.fill_own named, hc.text_eq,
      String.ofList_toList]

/-- A span that stays stands between one that touches it and an empty one. -/
theorem splice_exchanges_of_letters :
    let spans : List Occurrence := [⟨"p", 1, 2⟩, ⟨"q", 2, 4⟩, ⟨"r", 4, 4⟩]
    let texts : String → Option String := fun n => [("p", "xyz"), ("r", "-")].lookup n
    InOrder (units "abcdef".toList) spans ∧ splice "abcdef" spans texts = "axyzcd-ef" := by
  intro spans texts
  have ordered : InOrder (units "abcdef".toList) spans := by decide
  have whole := (splice_exchanges ordered texts).2.1
    (.span [97] "p" [98] (.span [] "q" [99, 100] (.span [] "r" [] (.last [101, 102]))))
    ⟨by decide, by decide⟩
  refine ⟨ordered, ?_⟩
  rw [whole.2.1]
  decide

end Stencil
