import Stencil.Proofs.FirstFault

/-!
# Joining Sources

What is found in a source that is put together from two.

Where a source that parses ends, the scan stands outside any placeholder, so it
goes on with what follows as if it began there. The only thing that the second
source can do to the first one is to complete a `$` at its end, as the scan looks
ahead by one character. So where that does not happen, all that is found in the
second one is found again behind the first one, and all that is wrong with it is
wrong again, that much further on.

A source that does not parse is another matter. If its fault is that a placeholder
is not closed, what follows may close it. Every other fault lies before its end, and
nothing that follows can mend it.

## Main definitions

* `Malformed.shift`: The same fault further on.
* `OpensBetween`: A placeholder begins where two texts meet.

## Theorems

* `scan_shift_ok`, `scan_shift_error`: The scan does not depend on the position it
  starts from.
* `Faulty.append`: A fault that lies before the end of a text stays.
* `ofSource?_append`: What is found in two sources that are joined.
-/

namespace Stencil

/-- The same fault further on. -/
def Malformed.shift (far : Nat) (m : Malformed) : Malformed :=
  ⟨m.reason, m.fragment, m.position + far⟩

/-- A placeholder begins where two texts meet, with the last character of the first
    one. -/
def OpensBetween (first second : String) : Prop :=
  first.toList.getLast? = some '$' ∧ second.toList.head? = some '{'

instance (first second : String) : Decidable (OpensBetween first second) :=
  inferInstanceAs (Decidable (_ ∧ _))

/-! ### The scan further on -/

theorem Cut.occurrencesFrom_shift (c : Cut) (position far : Nat) :
    c.occurrencesFrom (position + far)
      = (c.occurrencesFrom position).map (Occurrence.shift far) := by
  induction c generalizing position with
  | last l => rfl
  | placed l n rest ih =>
      have start : position + far + units l = position + units l + far := by omega
      have stop : position + units l + far + units (placeholderText n)
          = position + units l + units (placeholderText n) + far := by omega
      simp only [occurrencesFrom, List.map_cons, Occurrence.shift, start, stop, ih, Int.natCast_add]

theorem Faulty.shift {position : Nat} {rest : List Char} {m : Malformed}
    (faulty : Faulty position rest m) (far : Nat) :
    Faulty (position + far) rest (m.shift far) := by
  cases faulty with
  | unclosed plain => exact .unclosed plain
  | nested plain => exact .nested plain
  | emptyName => exact .emptyName
  | invalidName plain filled unnamed => exact .invalidName plain filled unnamed

/-- What the scan finds, it finds from another position as well. -/
theorem scan_shift_ok {position : Nat} {cs : List Char} {occurrences : List Occurrence}
    (reads : scan position cs = .ok occurrences) (far : Nat) :
    scan (position + far) cs = .ok (occurrences.map (Occurrence.shift far)) := by
  rcases exists_cut_of_scan reads with ⟨c, proper, rfl⟩
  rw [scan_text proper, Except.ok.injEq] at reads
  rw [scan_text proper, c.occurrencesFrom_shift, reads]

/-- What makes the scan fail does so behind any text that parses. -/
theorem Faulty.scan_behind {c : Cut} (proper : c.Proper) {position : Nat} {rest : List Char}
    {m : Malformed} (faulty : Faulty (position + units c.text) rest m) :
    scan position (c.text ++ '$' :: '{' :: rest) = .error m := by
  have dollar : c.text.getLast? = some '$' → ('$' :: '{' :: rest).head? ≠ some '{' := fun _ => nofun
  rw [scan_cut proper dollar, faulty.scan_eq]

/-- What makes the scan fail, makes it fail from another position as well. -/
theorem scan_shift_error {position : Nat} {cs : List Char} {m : Malformed}
    (fails : scan position cs = .error m) (far : Nat) :
    scan (position + far) cs = .error (m.shift far) := by
  rcases exists_faulty_of_scan fails with ⟨c, rest, proper, rfl, faulty⟩
  have further := faulty.shift far
  rw [Nat.add_right_comm] at further
  exact further.scan_behind proper

/-! ### Faults before the end -/

/-- A placeholder that is malformed because of a brace stays so, whatever follows. -/
theorem Faulty.append {position : Nat} {rest : List Char} {m : Malformed}
    (faulty : Faulty position rest m) (closed : m.reason ≠ .unclosed) (more : List Char) :
    Faulty position (rest ++ more) m := by
  cases faulty with
  | unclosed plain => exact absurd rfl closed
  | nested plain =>
      rw [List.append_assoc, List.cons_append]
      exact .nested plain
  | emptyName => exact .emptyName
  | invalidName plain filled unnamed =>
      rw [List.append_assoc, List.cons_append]
      exact .invalidName plain filled unnamed

/-- Where the scan fails because of a brace, it fails whatever follows. -/
theorem scan_append_error {position : Nat} {cs : List Char} {m : Malformed}
    (fails : scan position cs = .error m) (closed : m.reason ≠ .unclosed) (more : List Char) :
    scan position (cs ++ more) = .error m := by
  rcases exists_faulty_of_scan fails with ⟨c, rest, proper, rfl, faulty⟩
  rw [List.append_assoc]
  exact (faulty.append closed more).scan_behind proper

/-! ### Joined sources -/

/-- Names of two lists in order of first occurrence: those of the first one, and then
    the new ones. -/
theorem eraseDups_append_filter (names more : List String) :
    (names ++ more).eraseDups
      = names.eraseDups ++ more.eraseDups.filter fun n => n ∉ names.eraseDups := by
  rw [List.eraseDups_append, List.removeAll, eraseDups_filter]
  congr 1
  refine List.filter_congr fun n _ => ?_
  simp only [List.mem_eraseDups, List.elem_eq_mem, decide_not]

/-- The scan of a source gives its outline. -/
theorem ofSource?_ok_iff {source : String} {outline : Outline} :
    Outline.ofSource? source = .ok outline ↔
      ∃ occurrences, scan 0 source.toList = .ok occurrences
        ∧ outline = .ofOccurrences occurrences := by
  rw [Outline.ofSource?]
  split
  · next fails => simp [fails]
  · next reads => simp [reads, eq_comm]

/-- Where a source that parses is followed by another one, and no placeholder begins
    where they meet, the two parse if the second one does. Then the placeholders are
    those of the first one and behind them those of the second one, and only new names
    are added. What the second one is refused for, the two are refused for, further on
    by the length of the first one. A source that is refused, but not for a placeholder
    that is not closed, is refused for the same whatever follows. -/
theorem ofSource?_append (first second : String) :
    (∀ o, Outline.ofSource? first = .ok o → ¬ OpensBetween first second →
        ((∃ both, Outline.ofSource? (first ++ second) = .ok both)
            ↔ ∃ p, Outline.ofSource? second = .ok p)
          ∧ (∀ p, Outline.ofSource? second = .ok p →
              Outline.ofSource? (first ++ second) = .ok
                ⟨o.placeholders ++ p.placeholders.filter fun n => n ∉ o.placeholders,
                  o.occurrences ++ p.occurrences.map (Occurrence.shift (units first.toList))⟩)
          ∧ ∀ m, Outline.ofSource? second = .error m →
              Outline.ofSource? (first ++ second)
                = .error ⟨m.reason, m.fragment, m.position + units first.toList⟩)
      ∧ ∀ m, Outline.ofSource? first = .error m → m.reason ≠ .unclosed →
          Outline.ofSource? (first ++ second) = .error m := by
  refine ⟨?_, ?_⟩
  · intro o parses apart
    rcases exists_cut parses with ⟨c, hc⟩
    have found := hc.ofSource?_eq
    rw [parses, Except.ok.injEq] at found
    have guarded : c.text.getLast? = some '$' → second.toList.head? ≠ some '{' := by
      intro last opening
      exact apart ⟨hc.text_eq ▸ last, opening⟩
    -- The scan comes to the second source with nothing open, at another position only.
    have joined := scan_cut hc.toProper guarded 0
    rw [hc.text_eq, ← String.toList_append] at joined
    have succeeds : ∀ p, Outline.ofSource? second = .ok p →
        Outline.ofSource? (first ++ second) = .ok
          ⟨o.placeholders ++ p.placeholders.filter fun n => n ∉ o.placeholders,
            o.occurrences ++ p.occurrences.map (Occurrence.shift (units first.toList))⟩ := by
      intro p reads
      rcases ofSource?_ok_iff.mp reads with ⟨occurrences, scanned, rfl⟩
      rw [scan_shift_ok scanned] at joined
      refine ofSource?_ok_iff.mpr ⟨_, joined, ?_⟩
      have names : (occurrences.map (Occurrence.shift (units first.toList))).map Occurrence.name
          = occurrences.map Occurrence.name := by
        rw [List.map_map]
        rfl
      simp only [found, Outline.ofOccurrences, List.map_append, names, eraseDups_append_filter]
    have fails : ∀ m, Outline.ofSource? second = .error m →
        Outline.ofSource? (first ++ second)
          = .error ⟨m.reason, m.fragment, m.position + units first.toList⟩ := by
      intro m refused
      rw [scan_shift_error (ofSource?_error_iff.mp refused)] at joined
      exact ofSource?_error_iff.mpr joined
    refine ⟨⟨?_, ?_⟩, succeeds, fails⟩
    · rintro ⟨both, reads⟩
      cases second_eq : Outline.ofSource? second with
      | ok p => exact ⟨p, rfl⟩
      | error m =>
          rw [fails m second_eq] at reads
          cases reads
    · rintro ⟨p, reads⟩
      exact ⟨_, succeeds p reads⟩
  · intro m refused closed
    rw [ofSource?_error_iff] at refused ⊢
    rw [String.toList_append]
    exact scan_append_error refused closed _

/-- A `$` in front of a placeholder stays text, and an empty name stays one. -/
theorem ofSource?_append_of_dollar :
    let first := "$\x7ba\x7d$"
    let second := "$\x7bb\x7d$\x7ba\x7d"
    let empty := "$\x7b\x7d"
    ¬ OpensBetween first second
      ∧ Outline.ofSource? (first ++ second)
          = .ok ⟨["a", "b"], [⟨"a", 0, 4⟩, ⟨"b", 5, 9⟩, ⟨"a", 9, 13⟩]⟩
      ∧ Outline.ofSource? (empty ++ second) = .error ⟨.emptyName, empty, 0⟩ := by
  intro first second empty
  have apart : ¬ OpensBetween first second := by decide
  have hc : Cut.Of (.placed [] "a" (.last ['$'])) first := ⟨by decide, by decide⟩
  have hd : Cut.Of (.placed [] "b" (.placed [] "a" (.last []))) second := ⟨by decide, by decide⟩
  have text : empty.toList = ['$', '{', '}'] := by decide
  have faulty : Faulty 0 ['}'] ⟨.emptyName, String.ofList empty.toList, 0⟩ := text ▸ .emptyName
  have refused : Outline.ofSource? empty = .error ⟨.emptyName, empty, 0⟩ := by
    rw [ofSource?_error_iff, text, faulty.scan_eq, String.ofList_toList]
  refine ⟨apart, ?_, (ofSource?_append empty second).2 _ refused (by decide)⟩
  have joined := ((ofSource?_append first second).1 _ hc.ofSource?_eq apart).2.1 _ hd.ofSource?_eq
  rw [joined, Except.ok.injEq]
  decide

end Stencil
