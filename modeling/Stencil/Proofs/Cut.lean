import Stencil.Placeholder

/-!
# Cutting Sources at Their Placeholders

The grammar of template sources, beside the scan that reads them.

A source that parses is literal text and placeholders in turn. `Cut` is such a
division, written down without reference to how it is found: the literal texts
may contain anything but a `$` directly before an opening brace, and the names
are identifiers. The scan goes through a source once and looks ahead by one
character, so the two can only differ where a literal ends in `$`, where braces
stand next to a placeholder, or at the end of the source.

`scan_cut` walks the scan through a cut. The other direction,
`exists_cut_of_scan`, takes the scan apart case by case and puts every literal
character back in front of what was read behind it. That a source has one cut
only is not proved by comparing two of them character by character: both are
read by the same scan, so their placeholders are at the same places, and what
lies between these is then the same as well.

## Main definitions

* `placeholderText`: A placeholder as it stands in a source.
* `Occurrence.shift`: An occurrence that has moved.
* `Bare`: Literal text without the beginning of a placeholder.
* `Cut`, `Cut.text`: A source as literals and names, and put together again.
* `Cut.occurrencesFrom`: Where the placeholders of a cut are.
* `Cut.Of`: The cuts of a source.
* `Outline.Reports`: An outline says exactly what a cut says.

## Theorems

* `scan_cut`: The text of a cut is read up to its end, whatever follows.
* `scan_text`: Scanning the text of a cut finds its placeholders.
* `exists_cut_of_scan`: What the scan accepts has a cut.
* `Cut.eq_of_occurrencesFrom`: Text and places determine a cut.
* `Cut.Of.unique`: A source has at most one cut.
* `Outline.reports_ofOccurrences`: The outline of a cut reports it.
* `ofSource?_iff_cut`: A source parses exactly if it has a cut, there is only
  one, and the outline reports it.
-/

namespace Stencil

/-- The text of the placeholder with a name. -/
def placeholderText (name : String) : List Char :=
  '$' :: '{' :: (name.toList ++ ['}'])

/-- An occurrence that has moved. -/
def Occurrence.shift (moved : Int) (o : Occurrence) : Occurrence :=
  { o with start := o.start + moved, stop := o.stop + moved }

/-- Nowhere in literal text does an opening brace follow a `$`. -/
def Bare (literal : List Char) : Prop :=
  ¬ ['$', '{'] <:+: literal

instance (literal : List Char) : Decidable (Bare literal) :=
  inferInstanceAs (Decidable (¬ _))

/-- Literal texts with names between them. -/
inductive Cut where
  /-- Literal text alone. -/
  | last (literal : List Char)
  /-- Literal text, a placeholder, and the rest. -/
  | placed (literal : List Char) (name : String) (rest : Cut)
deriving DecidableEq

namespace Cut

/-- The source that a cut makes up. -/
def text : Cut → List Char
  | last l => l
  | placed l n rest => l ++ (placeholderText n ++ rest.text)

/-- The literal texts of a cut. -/
def literals : Cut → List (List Char)
  | last l => [l]
  | placed l _ rest => l :: rest.literals

/-- The names of the placeholders of a cut, in order. -/
def names : Cut → List String
  | last _ => []
  | placed _ n rest => n :: rest.names

/-- The placeholders of a cut whose text starts at a position: each starts
    behind all that precedes it, and takes up its own text. -/
def occurrencesFrom (position : Nat) : Cut → List Occurrence
  | last _ => []
  | placed l n rest =>
    let start := position + units l
    let stop := start + units (placeholderText n)
    ⟨n, start, stop⟩ :: rest.occurrencesFrom stop

/-- The literals of a cut are bare, and its names are identifiers. -/
structure Proper (c : Cut) : Prop where
  bare : ∀ l ∈ c.literals, Bare l
  named : ∀ n ∈ c.names, isName n.toList = true

instance (c : Cut) : Decidable c.Proper :=
  decidable_of_iff ((∀ l ∈ c.literals, Bare l) ∧ ∀ n ∈ c.names, isName n.toList = true)
    ⟨fun h => ⟨h.1, h.2⟩, fun h => ⟨h.bare, h.named⟩⟩

/-- A proper cut makes up a source. -/
structure Of (c : Cut) (source : String) : Prop extends c.Proper where
  text_eq : c.text = source.toList

theorem Proper.rest {l : List Char} {n : String} {rest : Cut} (h : (placed l n rest).Proper) :
    rest.Proper :=
  ⟨fun m hm => h.bare m (List.mem_cons_of_mem l hm),
    fun m hm => h.named m (List.mem_cons_of_mem n hm)⟩

/-- A cut with text in front of its first literal. -/
def prepend (front : List Char) : Cut → Cut
  | last l => last (front ++ l)
  | placed l n rest => placed (front ++ l) n rest

theorem text_prepend (front : List Char) (c : Cut) : (c.prepend front).text = front ++ c.text := by
  cases c with
  | last l => rfl
  | placed l n rest => rw [prepend, text, text, List.append_assoc]

theorem names_prepend (front : List Char) (c : Cut) : (c.prepend front).names = c.names := by
  cases c with
  | last l => rfl
  | placed l n rest => rfl

theorem names_occurrencesFrom (c : Cut) (position : Nat) :
    (c.occurrencesFrom position).map Occurrence.name = c.names := by
  induction c generalizing position with
  | last l => rfl
  | placed l n rest ih => simp only [occurrencesFrom, List.map_cons, names, ih]

end Cut

/-! ### Literals and names -/

theorem units_placeholderText (name : String) :
    units (placeholderText name) = 3 + units name.toList := by
  have dollar : unitsOf '$' = 1 := by decide
  have opening : unitsOf '{' = 1 := by decide
  have closing : unitsOf '}' = 1 := by decide
  simp only [placeholderText, units, units_append, dollar, opening, closing]
  omega

theorem unitsOf_pos (c : Char) : 0 < unitsOf c := by
  unfold unitsOf
  split <;> omega

/-- Texts that begin the same text and are equally long are the same. -/
theorem append_inj_units {l m x y : List Char} (same : l ++ x = m ++ y)
    (long : units l = units m) : l = m ∧ x = y := by
  induction l generalizing m with
  | nil =>
      cases m with
      | nil => exact ⟨rfl, same⟩
      | cons d ds =>
          -- Every character takes up a unit, so the text that goes on is longer.
          have := unitsOf_pos d
          simp only [units] at long
          omega
  | cons c cs ih =>
      cases m with
      | nil =>
          have := unitsOf_pos c
          simp only [units] at long
          omega
      | cons d ds =>
          rw [List.cons_append, List.cons_append, List.cons.injEq] at same
          rcases same with ⟨rfl, same⟩
          simp only [units] at long
          rcases ih same (by omega) with ⟨rfl, rest⟩
          exact ⟨rfl, rest⟩

theorem bare_nil : Bare [] := by
  intro h
  exact absurd (List.eq_nil_of_infix_nil h) (by simp only [reduceCtorEq, not_false_eq_true])

/-- A character in front of bare text leaves it bare, unless the two of them
    begin a placeholder. -/
theorem bare_cons_iff {c : Char} {l : List Char} :
    Bare (c :: l) ↔ Bare l ∧ ¬ (c = '$' ∧ ∃ more, l = '{' :: more) := by
  have head : ['$', '{'] <+: c :: l ↔ c = '$' ∧ ∃ more, l = '{' :: more := by
    rw [List.cons_prefix_cons]
    constructor
    · rintro ⟨rfl, more, rfl⟩
      exact ⟨rfl, more, rfl⟩
    · rintro ⟨rfl, more, rfl⟩
      exact ⟨rfl, more, rfl⟩
  rw [Bare, List.infix_cons_iff, not_or, head, and_comm, Bare]

/-- An identifier contains no brace. -/
theorem notBrace_of_isName {cs : List Char} (named : isName cs = true) :
    ∀ c ∈ cs, notBrace c = true := by
  have rest (c : Char) (h : isNameRest c = true) : notBrace c = true := by
    rw [notBrace, Bool.and_eq_true, bne_iff_ne, bne_iff_ne]
    constructor
    · rintro rfl
      exact absurd h (by decide)
    · rintro rfl
      exact absurd h (by decide)
  cases cs with
  | nil => simp only [List.not_mem_nil, false_implies, implies_true]
  | cons c cs =>
      rw [isName, Bool.and_eq_true, List.all_eq_true] at named
      intro d hd
      rcases List.mem_cons.mp hd with rfl | hd
      · exact rest d (by rw [isNameRest, named.1, Bool.true_or])
      · exact rest d (named.2 d hd)

/-- A character may join the first literal of a proper cut, unless it begins a
    placeholder there. -/
theorem Cut.Proper.cons {c : Cut} {d : Char} (proper : c.Proper)
    (clear : ∀ more, d = '$' → c.text = '{' :: more → False) : (c.prepend [d]).Proper := by
  cases c with
  | last l =>
      refine ⟨?_, proper.named⟩
      intro m hm
      rw [Cut.prepend, Cut.literals, List.mem_singleton] at hm
      rw [hm, List.singleton_append, bare_cons_iff]
      refine ⟨proper.bare l (List.mem_singleton_self l), ?_⟩
      rintro ⟨dollar, more, opening⟩
      exact clear more dollar opening
  | placed l n rest =>
      refine ⟨?_, proper.named⟩
      intro m hm
      rw [Cut.prepend, Cut.literals, List.mem_cons] at hm
      rcases hm with rfl | hm
      · rw [List.singleton_append, bare_cons_iff]
        refine ⟨proper.bare l List.mem_cons_self, ?_⟩
        rintro ⟨dollar, more, opening⟩
        exact clear _ dollar (by rw [Cut.text, opening, List.cons_append])
      · exact proper.rest.bare m hm

/-! ### Scanning -/

/-- Bare text is passed over, unless it ends in a `$` and an opening brace
    follows. -/
theorem scan_literal (position : Nat) {literal rest : List Char} (bare : Bare literal)
    (guarded : literal.getLast? = some '$' → rest.head? ≠ some '{') :
    scan position (literal ++ rest) = scan (position + units literal) rest := by
  induction literal generalizing position with
  | nil => rw [List.nil_append, units, Nat.add_zero]
  | cons c cs ih =>
      rw [bare_cons_iff] at bare
      -- The scan looks one character ahead, and behind the last one of a literal stands
      -- what follows the literal.
      have plain : ∀ more, c = '$' → cs ++ rest = '{' :: more → False := by
        intro more dollar opening
        cases cs with
        | nil => exact guarded (congrArg some dollar) (congrArg List.head? opening)
        | cons d ds =>
            rw [List.cons_append, List.cons.injEq] at opening
            exact bare.2 ⟨dollar, ds, by rw [opening.1]⟩
      have behind : cs.getLast? = some '$' → rest.head? ≠ some '{' := by
        intro last
        refine guarded ?_
        rw [List.getLast?_cons, last, Option.getD_some]
      rw [List.cons_append, scan, ih (position + unitsOf c) bare.1 behind, units, Nat.add_assoc]
      exact plain

/-- A placeholder is read as one occurrence. -/
theorem scan_placeholder (position : Nat) {name : String} (named : isName name.toList = true)
    (rest : List Char) :
    scan position (placeholderText name ++ rest) =
      match scan (position + units (placeholderText name)) rest with
      | .error e => .error e
      | .ok more =>
        .ok (⟨name, position, (position + units (placeholderText name) : Nat)⟩ :: more) := by
  -- The scan reads up to the next brace, which is the one that closes the placeholder.
  have clear := notBrace_of_isName named
  have closing : notBrace '}' = false := by decide
  have body : (name.toList ++ '}' :: rest).takeWhile notBrace = name.toList := by
    rw [List.takeWhile_append_of_pos clear, List.takeWhile_cons, closing]
    exact List.append_nil _
  have behind : (name.toList ++ '}' :: rest).dropWhile notBrace = '}' :: rest := by
    rw [List.dropWhile_append_of_pos clear, List.dropWhile_cons, closing]
    rfl
  have filled : name.toList ≠ [] := by
    intro h
    rw [h] at named
    exact absurd named (by decide)
  have long : units ('$' :: '{' :: (name.toList ++ ['}'])) = 3 + units name.toList :=
    units_placeholderText name
  rw [placeholderText, List.cons_append, List.cons_append, List.append_assoc,
    List.singleton_append, scan]
  split
  · next unclosed =>
      rw [behind] at unclosed
      exact absurd unclosed (by simp only [reduceCtorEq, not_false_eq_true])
  · next brace tail found =>
      rw [behind, List.cons.injEq] at found
      rcases found with ⟨rfl, rfl⟩
      have valid : ¬ isName name.toList = false := by
        rw [named]
        decide
      rewrite [if_neg (by decide), body, if_neg filled, if_neg valid, String.ofList_toList, long,
        ← Nat.add_assoc]
      rfl

/-- The text of a proper cut is read up to its end, whatever follows, unless it
    ends in a `$` and an opening brace follows. -/
theorem scan_cut {c : Cut} (proper : c.Proper) {rest : List Char}
    (guarded : c.text.getLast? = some '$' → rest.head? ≠ some '{') (position : Nat) :
    scan position (c.text ++ rest) =
      match scan (position + units c.text) rest with
      | .error e => .error e
      | .ok more => .ok (c.occurrencesFrom position ++ more) := by
  induction c generalizing position with
  | last l =>
      rw [Cut.text, scan_literal position (proper.bare l (List.mem_singleton_self l)) guarded]
      cases scan (position + units l) rest <;> rfl
  | placed l n behind ih =>
      have bare : Bare l := proper.bare l List.mem_cons_self
      have named : isName n.toList = true := proper.named n List.mem_cons_self
      -- A placeholder begins with a `$`, so a literal in front of it is passed over whole.
      have dollar : l.getLast? = some '$' →
          (placeholderText n ++ (behind.text ++ rest)).head? ≠ some '{' := fun _ => nofun
      have guarded' : behind.text.getLast? = some '$' → rest.head? ≠ some '{' := by
        intro last
        refine guarded ?_
        rw [Cut.text, List.getLast?_append, List.getLast?_append, last, Option.some_or,
          Option.some_or]
      rw [Cut.text, List.append_assoc, List.append_assoc, scan_literal position bare dollar,
        scan_placeholder _ named, ih proper.rest guarded', units_append, units_append,
        ← Nat.add_assoc, ← Nat.add_assoc]
      cases scan (position + units l + units (placeholderText n) + units behind.text) rest <;> rfl

/-- Scanning the text of a proper cut finds its placeholders. -/
theorem scan_text {c : Cut} (proper : c.Proper) (position : Nat) :
    scan position c.text = .ok (c.occurrencesFrom position) := by
  have stops : c.text.getLast? = some '$' → ([] : List Char).head? ≠ some '{' := fun _ => nofun
  have read := scan_cut proper stops position
  rw [List.append_nil, scan] at read
  rw [read]
  simp only [List.append_nil]

/-- What the scan accepts has a proper cut. The scan moves forward, so each case
    puts back what one step of it took off the front: a placeholder, or one
    character of a literal. -/
theorem exists_cut_of_scan {position : Nat} {cs : List Char} {occurrences : List Occurrence}
    (accepted : scan position cs = .ok occurrences) : ∃ c : Cut, c.Proper ∧ c.text = cs := by
  fun_induction scan position cs generalizing occurrences with
  | case1 =>
      refine ⟨.last [], ⟨?_, ?_⟩, rfl⟩
      · intro l hl
        rw [Cut.literals, List.mem_singleton] at hl
        exact hl ▸ bare_nil
      · intro n hn
        exact absurd hn List.not_mem_nil
  | case2 | case3 | case4 | case5 | case6 => cases accepted
  -- A placeholder: the literal in front of it is empty until the cases below add to it.
  | case7 position rest body brace tail found opening empty valid stop more next =>
      rename_i ih
      rcases ih next with ⟨c, proper, text⟩
      have stopped : notBrace brace = false := by
        have := List.head?_dropWhile_not notBrace rest
        rw [found] at this
        exact this
      have closing : brace = '}' := by
        rw [notBrace, Bool.and_eq_false_iff, bne_eq_false_iff_eq, bne_eq_false_iff_eq] at stopped
        exact stopped.resolve_left opening
      have whole : body ++ '}' :: tail = rest := by
        rw [← closing, ← found]
        exact List.takeWhile_append_dropWhile
      refine ⟨.placed [] (String.ofList body) c, ⟨?_, ?_⟩, ?_⟩
      · intro l hl
        rcases List.mem_cons.mp hl with rfl | hl
        · exact bare_nil
        · exact proper.bare l hl
      · intro n hn
        rcases List.mem_cons.mp hn with rfl | hn
        · rw [String.toList_ofList]
          simpa only [Bool.not_eq_false] using valid
        · exact proper.named n hn
      · simp only [Cut.text, placeholderText, String.toList_ofList, text, List.nil_append,
          List.cons_append, List.append_assoc, whole]
  | case8 position d rest plain ih =>
      rcases ih accepted with ⟨c, proper, text⟩
      refine ⟨c.prepend [d], proper.cons ?_, ?_⟩
      · intro more dollar opening
        exact plain more dollar (by rw [← text, opening])
      · rw [Cut.text_prepend, text, List.singleton_append]

namespace Cut

/-- The text of a cut and the places of its placeholders determine it. -/
theorem eq_of_occurrencesFrom {c d : Cut} {position : Nat} (text : c.text = d.text)
    (places : c.occurrencesFrom position = d.occurrencesFrom position) : c = d := by
  induction c generalizing d position with
  | last l =>
      cases d with
      | last m => rw [show l = m from text]
      | placed m k more => exact absurd places (by simp only [occurrencesFrom, reduceCtorEq,
          not_false_eq_true])
  | placed l n rest ih =>
      cases d with
      | last m => exact absurd places (by simp only [occurrencesFrom, reduceCtorEq,
          not_false_eq_true])
      | placed m k more =>
          simp only [occurrencesFrom, List.cons.injEq, Occurrence.mk.injEq] at places
          rcases places with ⟨⟨rfl, start, -⟩, behind⟩
          -- The next placeholder starts at the same place in both, so the literals are equally
          -- long.
          have long : units l = units m := by omega
          rcases append_inj_units text long with ⟨rfl, tails⟩
          rw [ih (List.append_cancel_left tails) behind]

/-- A source has at most one cut. -/
theorem Of.unique {c d : Cut} {source : String} (hc : c.Of source) (hd : d.Of source) : c = d := by
  have same : c.text = d.text := by rw [hc.text_eq, hd.text_eq]
  have places := scan_text hc.toProper 0
  rw [same, scan_text hd.toProper 0] at places
  exact eq_of_occurrencesFrom same (Except.ok.inj places).symm

end Cut

/-- The outline of a source is made up of the placeholders of its cut. -/
theorem Cut.Of.ofSource?_eq {c : Cut} {source : String} (h : c.Of source) :
    Outline.ofSource? source = .ok (Outline.ofOccurrences (c.occurrencesFrom 0)) := by
  rw [Outline.ofSource?, ← h.text_eq, scan_text h.toProper 0]

/-- What parses has a cut. -/
theorem exists_cut {source : String} {outline : Outline}
    (parses : Outline.ofSource? source = .ok outline) : ∃ c : Cut, c.Of source := by
  rw [Outline.ofSource?] at parses
  split at parses
  · cases parses
  · next occurrences accepted =>
      rcases exists_cut_of_scan accepted with ⟨c, proper, text⟩
      exact ⟨c, proper, text⟩

/-! ### First occurrences -/

/-- Leaving out elements keeps the order in which the others first occur. -/
theorem idxOf_lt_of_filter {p : String → Bool} {m n : String} {names : List String}
    (hm : p m = true) (hn : p n = true)
    (before : (names.filter p).idxOf m < (names.filter p).idxOf n) :
    names.idxOf m < names.idxOf n := by
  induction names with
  | nil => exact absurd before (Nat.lt_irrefl 0)
  | cons a names ih =>
      -- The first name is one of the two, or another one that stays, or it is left out.
      by_cases kept : p a = true
      · rw [List.filter_cons_of_pos kept, List.idxOf_cons, List.idxOf_cons] at before
        rw [List.idxOf_cons, List.idxOf_cons]
        by_cases ham : a = m
        · subst ham
          by_cases han : a = n
          · subst han
            exact absurd before (Nat.lt_irrefl _)
          · simp only [beq_self_eq_true, cond_true, beq_eq_false_iff_ne.mpr han, cond_false]
            omega
        · by_cases han : a = n
          · subst han
            simp only [beq_self_eq_true, cond_true, Nat.not_lt_zero] at before
          · simp only [beq_eq_false_iff_ne.mpr ham, beq_eq_false_iff_ne.mpr han, cond_false]
              at before ⊢
            have := ih (by omega)
            omega
      · -- What is left out is neither of the two, so both move by one place.
        have ham : a ≠ m := fun h => kept (h ▸ hm)
        have han : a ≠ n := fun h => kept (h ▸ hn)
        rw [List.filter_cons_of_neg kept] at before
        rw [List.idxOf_cons, List.idxOf_cons, beq_eq_false_iff_ne.mpr ham,
          beq_eq_false_iff_ne.mpr han]
        exact Nat.succ_lt_succ (ih before)

/-- What remains without repetitions is in order of first occurrence. Each step
    filters the rest, so the induction is on the length. -/
theorem pairwise_eraseDups (names : List String) :
    names.eraseDups.Pairwise fun m n => names.idxOf m < names.idxOf n := by
  induction len : names.length using Nat.strongRecOn generalizing names with
  | ind k ih =>
      cases names with
      | nil => exact List.Pairwise.nil
      | cons a names =>
          have shorter : (names.filter fun b => !b == a).length < k :=
            len ▸ Nat.lt_succ_of_le (List.length_filter_le _ names)
          have other {m : String} (hm : m ∈ (names.filter fun b => !b == a).eraseDups) :
              (!m == a) = true ∧ (a == m) = false := by
            have kept := (List.mem_filter.mp (List.mem_eraseDups.mp hm)).2
            have apart : ¬ m = a := by simpa using kept
            exact ⟨kept, beq_eq_false_iff_ne.mpr fun same => apart same.symm⟩
          rw [List.eraseDups_cons, List.pairwise_cons]
          refine ⟨?_, ?_⟩
          · intro m hm
            rw [List.idxOf_cons, List.idxOf_cons, beq_self_eq_true, (other hm).2]
            exact Nat.succ_pos _
          · refine (ih _ shorter _ rfl).imp_of_mem ?_
            intro m n hm hn before
            rw [List.idxOf_cons, List.idxOf_cons, (other hm).2, (other hn).2]
            exact Nat.succ_lt_succ (idxOf_lt_of_filter (other hm).1 (other hn).1 before)

/-- Filtering and leaving out repetitions can change places. -/
theorem eraseDups_filter (p : String → Bool) (names : List String) :
    (names.filter p).eraseDups = names.eraseDups.filter p := by
  induction len : names.length using Nat.strongRecOn generalizing names with
  | ind k ih =>
      cases names with
      | nil => rfl
      | cons a names =>
          have shorter : (names.filter fun b => !b == a).length < k :=
            len ▸ Nat.lt_succ_of_le (List.length_filter_le _ names)
          have inner := ih _ shorter (names.filter fun b => !b == a) rfl
          rw [List.eraseDups_cons]
          by_cases kept : p a = true
          · rw [List.filter_cons_of_pos kept, List.filter_cons_of_pos kept, List.eraseDups_cons,
              ← inner, List.filter_filter, List.filter_filter]
            simp only [Bool.and_comm]
          · -- The other filter has nothing to do: all that equals `a` is left out by `p`.
            rw [List.filter_cons_of_neg kept, List.filter_cons_of_neg kept, ← inner,
              List.filter_filter]
            congr 1
            refine List.filter_congr fun b hb => ?_
            by_cases same : b = a
            · subst same
              rw [Bool.not_eq_true] at kept
              rw [kept, Bool.false_and]
            · simp only [beq_eq_false_iff_ne.mpr same, Bool.not_false, Bool.and_true]

/-! ### What an outline says -/

namespace Cut

/-- Each placeholder of a cut is where its occurrence says, and none starts
    before the text of the cut. `before` is what precedes that text, so the
    placeholders found on the way down are still looked up in the whole. -/
theorem slice_of_mem {c : Cut} {before : List Char} {o : Occurrence}
    (mem : o ∈ c.occurrencesFrom (units before)) :
    slice (codeUnits (before ++ c.text)) o.start o.stop = codeUnits (placeholderText o.name)
      ∧ (units before : Int) ≤ o.start ∧ o.start < o.stop
      ∧ o.stop ≤ units (before ++ c.text) := by
  induction c generalizing before with
  | last l => exact absurd mem List.not_mem_nil
  | placed l n rest ih =>
      rw [occurrencesFrom, ← units_append, ← units_append, List.mem_cons] at mem
      rw [text, ← List.append_assoc before]
      rcases mem with rfl | mem
      · refine ⟨slice_codeUnits _ _ _, ?_, ?_, ?_⟩
        · simp only [units_append]
          omega
        · simp only [units_append, units_placeholderText]
          omega
        · simp only [units_append]
          omega
      · rcases ih mem with ⟨cut, low, order, high⟩
        rw [List.append_assoc] at cut high
        refine ⟨cut, ?_, order, high⟩
        simp only [units_append] at low
        omega

/-- Each placeholder of a cut ends before the next one starts. -/
theorem pairwise_occurrencesFrom (c : Cut) (before : List Char) :
    (c.occurrencesFrom (units before)).Pairwise fun o p => o.stop ≤ p.start := by
  induction c generalizing before with
  | last l => exact List.Pairwise.nil
  | placed l n rest ih =>
      rw [occurrencesFrom, ← units_append, ← units_append, List.pairwise_cons]
      exact ⟨fun p mem => (slice_of_mem mem).2.1, ih _⟩

end Cut

/-- An outline says exactly what a cut of a source says: the placeholders in
    order and where they are, and their names without repetitions in order of
    first occurrence. -/
structure Outline.Reports (outline : Outline) (c : Cut) (source : String) : Prop where
  names : outline.occurrences.map Occurrence.name = c.names
  offsets : outline.occurrences = c.occurrencesFrom 0
  slices : ∀ o ∈ outline.occurrences,
    slice (codeUnits source.toList) o.start o.stop = codeUnits (placeholderText o.name)
  within : ∀ o ∈ outline.occurrences, 0 ≤ o.start ∧ o.start < o.stop ∧ o.stop ≤ units source.toList
  apart : outline.occurrences.Pairwise fun o p => o.stop ≤ p.start
  mem_placeholders : ∀ n, n ∈ outline.placeholders ↔ n ∈ c.names
  distinct : outline.placeholders.Nodup
  firstFirst : outline.placeholders.Pairwise fun m n => c.names.idxOf m < c.names.idxOf n

/-- The outline of a cut reports it. -/
theorem Outline.reports_ofOccurrences {c : Cut} {source : String} (h : c.Of source) :
    (Outline.ofOccurrences (c.occurrencesFrom 0)).Reports c source := by
  have found {o : Occurrence} (mem : o ∈ c.occurrencesFrom 0) :=
    @Cut.slice_of_mem c [] o mem
  rw [List.nil_append, h.text_eq] at found
  have order := pairwise_eraseDups c.names
  have named := c.names_occurrencesFrom 0
  refine ⟨named, rfl, fun o mem => (found mem).1, fun o mem => (found mem).2,
    c.pairwise_occurrencesFrom [], ?_, ?_, ?_⟩
  · intro n
    rw [Outline.ofOccurrences, named, List.mem_eraseDups]
  · rw [Outline.ofOccurrences, named]
    refine order.imp ?_
    intro m n before same
    rw [same] at before
    exact Nat.lt_irrefl _ before
  · rw [Outline.ofOccurrences, named]
    exact order

/-- A source parses if and only if it is literal texts without the beginning of
    a placeholder, with placeholders of identifiers between them. There is only
    one such division of a source, and the outline says exactly what it says. -/
theorem ofSource?_iff_cut (source : String) :
    ((∃ outline, Outline.ofSource? source = .ok outline) ↔ ∃ c : Cut, c.Of source)
      ∧ (∀ c d : Cut, c.Of source → d.Of source → c = d)
      ∧ ∀ c : Cut, c.Of source →
          ∃ outline, Outline.ofSource? source = .ok outline ∧ outline.Reports c source := by
  refine ⟨⟨?_, ?_⟩, ?_, ?_⟩
  · rintro ⟨outline, parses⟩
    exact exists_cut parses
  · rintro ⟨c, h⟩
    exact ⟨_, h.ofSource?_eq⟩
  · intro c d hc hd
    exact hc.unique hd
  · intro c h
    exact ⟨_, h.ofSource?_eq, Outline.reports_ofOccurrences h⟩

/-- A `$` and a brace that stand next to placeholders belong to the literals. -/
theorem cut_of_dollars_and_braces :
    let source := "$$\x7ba\x7d\x7b$\x7bb\x7d\x7d$\x7ba\x7d$"
    let c : Cut := .placed ['$'] "a" (.placed ['{'] "b" (.placed ['}'] "a" (.last ['$'])))
    c.Of source
      ∧ ∃ outline, Outline.ofSource? source = .ok outline ∧ outline.Reports c source := by
  intro source c
  have h : c.Of source := ⟨by decide, by decide⟩
  exact ⟨h, (ofSource?_iff_cut source).2.2 c h⟩

end Stencil
