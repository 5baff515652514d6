import Stencil.Splice

/-!
# Texts with Spans

What replacing spans of a text does to it.

`splice` is given positions. It copies slices of the text, and where a span has no
replacement it does nothing at all: what the span covers is copied later, as the
middle of a longer slice. Here the text is taken apart at the spans first. Then
there are no positions any more, and replacing is an equation for each span.

Which positions allow this is `InOrder`: spans that end where the next one starts,
or before, and within the text. Spans may be empty, and they may touch each other,
the beginning of the text and its end.

All of this is about code units, so a span may also divide a character. What is
read in the end has as many code units as were put together, even where halves of
characters are left that have no other half.

## Main definitions

* `InOrder`: Spans that follow each other within a text.
* `Marked`: A text as what its spans cover and what stands between them.
* `Marked.fill`: The text with other texts in the place of spans.
* `replacedUnits`, `replacingUnits`: How many code units are taken out, and how
  many are put in.

## Theorems

* `exists_marked`: A text can be taken apart at spans in order.
* `Marked.spliceFrom_eq_fill`: Splicing replaces the spans.
* `Marked.length_fill`: How long the result is.
* `spliceFrom_congr_filter`: Spans without a replacement do not matter.
-/

namespace Stencil

/-- Spans follow each other within a text of some length. -/
structure InOrder (length : Nat) (spans : List Occurrence) : Prop where
  within : ∀ o ∈ spans, 0 ≤ o.start ∧ o.start ≤ o.stop ∧ o.stop ≤ length
  apart : spans.Pairwise fun o p => o.stop ≤ p.start

instance (length : Nat) (spans : List Occurrence) : Decidable (InOrder length spans) :=
  decidable_of_iff ((∀ o ∈ spans, 0 ≤ o.start ∧ o.start ≤ o.stop ∧ o.stop ≤ length)
      ∧ spans.Pairwise fun o p => o.stop ≤ p.start)
    ⟨fun h => ⟨h.1, h.2⟩, fun h => ⟨h.within, h.apart⟩⟩

/-- The code units of a text with spans marked in it. -/
inductive Marked where
  /-- A text without spans. -/
  | last (kept : List Nat)
  /-- What stands in front of a span, its name, what it covers, and the rest. -/
  | span (kept : List Nat) (name : String) (covered : List Nat) (rest : Marked)
deriving DecidableEq

/-- What stands in the place of a span: the text for its name, or what it covers,
    if there is none. -/
def replacing (texts : String → Option String) (name : String) (covered : List Nat) : List Nat :=
  match texts name with
  | some s => codeUnits s.toList
  | none => covered

namespace Marked

/-- The text that is marked. -/
def text : Marked → List Nat
  | last k => k
  | span k _ v rest => k ++ (v ++ rest.text)

/-- The spans that are marked in a text that starts at a position. -/
def spansFrom (position : Nat) : Marked → List Occurrence
  | last _ => []
  | span k n v rest =>
    let start := position + k.length
    let stop := start + v.length
    ⟨n, start, stop⟩ :: rest.spansFrom stop

/-- The text with other texts in the place of spans. -/
def fill (texts : String → Option String) : Marked → List Nat
  | last k => k
  | span k n v rest => k ++ (replacing texts n v ++ rest.fill texts)

/-- What the spans cover, and what stands between them. -/
def parts : Marked → List (List Nat)
  | last k => [k]
  | span k _ v rest => k :: v :: rest.parts

/-- A text with its spans marked. -/
structure Of (d : Marked) (source : String) (spans : List Occurrence) : Prop where
  text_eq : d.text = codeUnits source.toList
  spans_eq : d.spansFrom 0 = spans

end Marked

/-- How many code units the spans take up that have a replacement. -/
def replacedUnits (texts : String → Option String) : List Occurrence → Int
  | [] => 0
  | o :: spans =>
    match texts o.name with
    | some _ => o.stop - o.start + replacedUnits texts spans
    | none => replacedUnits texts spans

/-- How many code units their replacements take up. -/
def replacingUnits (texts : String → Option String) : List Occurrence → Int
  | [] => 0
  | o :: spans =>
    match texts o.name with
    | some s => units s.toList + replacingUnits texts spans
    | none => replacingUnits texts spans

variable {texts : String → Option String}

/-! ### Marking spans -/

/-- A text that starts at a position can be taken apart at spans in order. -/
theorem exists_marked_from {us : List Nat} {position : Nat} {spans : List Occurrence}
    (within : ∀ o ∈ spans,
      (position : Int) ≤ o.start ∧ o.start ≤ o.stop ∧ o.stop ≤ position + us.length)
    (apart : spans.Pairwise fun o p => o.stop ≤ p.start) :
    ∃ d : Marked, d.text = us ∧ d.spansFrom position = spans := by
  induction spans generalizing us position with
  | nil => exact ⟨.last us, rfl, rfl⟩
  | cons o spans ih =>
      rw [List.pairwise_cons] at apart
      rcases within o List.mem_cons_self with ⟨low, order, high⟩
      -- The first span takes `v` units behind `k` others, and the rest is cut behind it.
      obtain ⟨k, start⟩ : ∃ k : Nat, o.start = ((position + k : Nat) : Int) :=
        ⟨(o.start - position).toNat, by omega⟩
      obtain ⟨v, stop⟩ : ∃ v : Nat, o.stop = ((position + k + v : Nat) : Int) :=
        ⟨(o.stop - o.start).toNat, by omega⟩
      have behind : ∀ p ∈ spans, ((position + k + v : Nat) : Int) ≤ p.start ∧ p.start ≤ p.stop
          ∧ p.stop ≤ ((position + k + v : Nat) : Int) + (us.drop (k + v)).length := by
        intro p mem
        have after := apart.1 p mem
        have inside := within p (List.mem_cons_of_mem o mem)
        rw [List.length_drop]
        omega
      rcases ih behind apart.2 with ⟨d, text, spansFrom⟩
      have front : (us.take k).length = k := by
        rw [List.length_take]
        omega
      have covered : ((us.drop k).take v).length = v := by
        rw [List.length_take, List.length_drop]
        omega
      refine ⟨.span (us.take k) o.name ((us.drop k).take v) d, ?_, ?_⟩
      · rw [Marked.text, text, ← List.drop_drop, List.take_append_drop, List.take_append_drop]
      · rw [Marked.spansFrom, front, covered, spansFrom, ← start, ← stop]

/-- A source can be taken apart at spans in order. -/
theorem exists_marked {source : String} {spans : List Occurrence}
    (ordered : InOrder (units source.toList) spans) : ∃ d : Marked, d.Of source spans := by
  have within : ∀ o ∈ spans, ((0 : Nat) : Int) ≤ o.start ∧ o.start ≤ o.stop
      ∧ o.stop ≤ ((0 : Nat) : Int) + (codeUnits source.toList).length := by
    intro o mem
    have := ordered.within o mem
    rw [length_codeUnits]
    omega
  rcases exists_marked_from within ordered.apart with ⟨d, text, spansFrom⟩
  exact ⟨d, text, spansFrom⟩

namespace Marked

/-! ### Splicing -/

/-- Splicing from the end of `before` on. `pending` is what has been passed over
    since then: the next slice begins with it. -/
theorem spliceFrom_eq_fill (texts : String → Option String) (d : Marked)
    (before pending : List Nat) :
    spliceFrom (before ++ (pending ++ d.text)) texts before.length
        (d.spansFrom (before ++ pending).length)
      = pending ++ d.fill texts := by
  induction d generalizing before pending with
  | last k => exact sliceFrom_append before (pending ++ k)
  | span k n v rest ih =>
      rw [spansFrom, ← List.length_append, ← List.length_append, spliceFrom, text, fill, replacing]
      cases texts n with
      | none =>
          -- Nothing is copied here: the span becomes a part of the next slice.
          have next := ih before (pending ++ (k ++ v))
          simp only [List.append_assoc] at next ⊢
          exact next
      | some s =>
          -- The slice up to the span is copied, and the next one starts behind it.
          have cut := slice_append before (pending ++ k) (v ++ rest.text)
          have next := ih (before ++ (pending ++ (k ++ v))) []
          simp only [List.append_assoc, List.append_nil, List.nil_append] at cut next ⊢
          rw [cut, next, List.append_assoc]

/-- Splicing a text with its spans marked replaces them. -/
theorem Of.spliceFrom_eq {d : Marked} {source : String} {spans : List Occurrence}
    (h : d.Of source spans) (texts : String → Option String) :
    spliceFrom (codeUnits source.toList) texts 0 spans = d.fill texts := by
  rw [← h.text_eq, ← h.spans_eq]
  exact spliceFrom_eq_fill texts d [] []

theorem Of.splice_eq {d : Marked} {source : String} {spans : List Occurrence}
    (h : d.Of source spans) (texts : String → Option String) :
    splice source spans texts = String.ofList (ofCodeUnits (d.fill texts)) := by
  rw [splice, h.spliceFrom_eq texts]

/-! ### The length of the result -/

/-- What the result is longer than the text by. -/
theorem length_fill (texts : String → Option String) (d : Marked) (position : Nat) :
    ((d.fill texts).length : Int)
      = d.text.length - replacedUnits texts (d.spansFrom position)
        + replacingUnits texts (d.spansFrom position) := by
  induction d generalizing position with
  | last k => simp only [fill, text, spansFrom, replacedUnits, replacingUnits, Int.sub_zero,
      Int.add_zero]
  | span k n v rest ih =>
      have behind := ih (position + k.length + v.length)
      rw [fill, text, spansFrom, replacing, replacedUnits, replacingUnits]
      cases texts n with
      | none =>
          simp only [List.length_append]
          omega
      | some s =>
          simp only [List.length_append, length_codeUnits]
          omega

/-- What is put together consists of code units. -/
theorem lt_of_mem_fill {d : Marked} {u : Nat} (small : ∀ w ∈ d.text, w < 0x10000)
    (mem : u ∈ d.fill texts) : u < 0x10000 := by
  induction d with
  | last k => exact small u mem
  | span k n v rest ih =>
      simp only [text, List.mem_append] at small
      rw [fill, replacing, List.mem_append, List.mem_append] at mem
      rcases mem with mem | mem | mem
      · exact small u (.inl mem)
      · cases found : texts n with
        | none =>
            rw [found] at mem
            exact small u (.inr (.inl mem))
        | some s =>
            rw [found] at mem
            exact lt_of_mem_codeUnits mem
      · exact ih (fun w hw => small w (.inr (.inr hw))) mem

theorem Of.units_splice {d : Marked} {source : String} {spans : List Occurrence}
    (h : d.Of source spans) (texts : String → Option String) :
    (units (splice source spans texts).toList : Int)
      = units source.toList - replacedUnits texts spans + replacingUnits texts spans := by
  have small : ∀ u ∈ d.fill texts, u < 0x10000 := by
    intro u mem
    refine lt_of_mem_fill (fun w hw => ?_) mem
    rw [h.text_eq] at hw
    exact lt_of_mem_codeUnits hw
  have long := length_fill texts d 0
  rw [h.text_eq, h.spans_eq, length_codeUnits] at long
  rw [h.splice_eq, String.toList_ofList, units_ofCodeUnits small, long]

/-! ### Undivided characters -/

/-- Where no span divides a character, the code units of the result are those that
    were put together. -/
theorem exists_codeUnits_fill (texts : String → Option String) {d : Marked}
    (whole : ∀ part ∈ d.parts, ∃ cs, part = codeUnits cs) :
    ∃ cs, d.fill texts = codeUnits cs := by
  induction d with
  | last k => exact whole k (List.mem_singleton_self k)
  | span k n v rest ih =>
      simp only [parts, List.forall_mem_cons] at whole
      rcases whole with ⟨⟨front, rfl⟩, ⟨covered, rfl⟩, behind⟩
      rcases ih behind with ⟨cs, behind⟩
      rw [fill, behind, replacing]
      cases texts n with
      | none => exact ⟨front ++ (covered ++ cs), by simp only [codeUnits_append]⟩
      | some s => exact ⟨front ++ (s.toList ++ cs), by simp only [codeUnits_append]⟩

theorem Of.codeUnits_splice {d : Marked} {source : String} {spans : List Occurrence}
    (h : d.Of source spans) (whole : ∀ part ∈ d.parts, ∃ cs, part = codeUnits cs) :
    codeUnits (splice source spans texts).toList = d.fill texts := by
  rcases exists_codeUnits_fill texts whole with ⟨cs, fill⟩
  rw [h.splice_eq, fill, String.toList_ofList, ofCodeUnits_codeUnits]

end Marked

/-! ### Spans without a replacement -/

/-- A span without a replacement is passed over. -/
theorem spliceFrom_filter (source : List Nat) (position : Int) (spans : List Occurrence) :
    spliceFrom source texts position (spans.filter fun o => (texts o.name).isSome)
      = spliceFrom source texts position spans := by
  induction spans generalizing position with
  | nil => rfl
  | cons o spans ih =>
      cases found : texts o.name with
      | none =>
          rw [List.filter_cons_of_neg (by simp [found]), spliceFrom, found]
          exact ih position
      | some s =>
          rw [List.filter_cons_of_pos (by simp [found]), spliceFrom, spliceFrom, found]
          simp only [ih]

/-- Only the spans that have a replacement matter, at any position. -/
theorem spliceFrom_congr_filter {source : List Nat} {spans others : List Occurrence}
    (same : (others.filter fun o => (texts o.name).isSome)
      = spans.filter fun o => (texts o.name).isSome) (position : Int) :
    spliceFrom source texts position others = spliceFrom source texts position spans := by
  rw [← spliceFrom_filter, same, spliceFrom_filter]

end Stencil
