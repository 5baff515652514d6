import Stencil.Proofs.EscapedTerms

/-!
# Classes of Escaped Bodies

What stands between brackets in a body of a pattern and in the same body with more
escaped.

A slash between brackets is not escaped where a pattern is written, but that need not be
known here: it can be escaped there as well, and in sets it has to be. Every reader goes
through both bodies in the same steps, so what bounds the steps in one of them is enough
for the other.

## Main definitions

* `Pattern.Leaves`, `Pattern.SameElement`: What is left of both brackets.
* `Pattern.elementEnd`: What follows an element of a bracket.
* `Pattern.Carries`: What one reader reads, another reads from the body with more
  escaped.
* `Pattern.operands`: What follows the first operand of a set.

## Theorems

* `Pattern.bracket_leads`: The end of a bracket is found in both bodies.
* `Pattern.setClass_carries`: A class of sets is read from both bodies.
-/

namespace Stencil

namespace Pattern

variable {c d : Char} {cs ds shown : List Char}

/-! ### Brackets -/

/-- What is left of a bracket in both bodies. -/
structure Leaves (cs : List Char) (r r' : Remainder) : Prop where
  half : r.half = r'.half
  behind : Behind cs r.chars r'.chars

/-- The same element is read, and what is left of both brackets. -/
def SameElement {α : Type} (cs : List Char) (u v : α × Remainder) : Prop :=
  u.1 = v.1 ∧ Leaves cs u.2 v.2

/-- An inert character that is left of one bracket is left of the other. -/
theorem Leaves.next {r' : Remainder} {rest : List Char} (left : Leaves cs ⟨none, c :: rest⟩ r')
    (inert : isInert c = true) : ∃ rest', r' = ⟨none, c :: rest'⟩ ∧ Behind cs rest rest' := by
  rcases r' with ⟨half, chars⟩
  rcases left with ⟨half, behind⟩
  cases half
  rcases behind.next inert with ⟨rest', rfl, after⟩
  exact ⟨rest', rfl, after⟩

/-- What is no backslash was already left. -/
theorem Leaves.prior {r : Remainder} {rest' : List Char} (left : Leaves cs r ⟨none, c :: rest'⟩)
    (other : c ≠ '\\') : ∃ rest, r = ⟨none, c :: rest⟩ ∧ Behind cs rest rest' := by
  rcases r with ⟨half, chars⟩
  rcases left with ⟨half, behind⟩
  cases half
  rcases behind.prior other with ⟨rest, rfl, after⟩
  exact ⟨rest, rfl, after⟩

theorem Leaves.eq_nil {r : Remainder} (left : Leaves cs r ⟨none, []⟩) : r = ⟨none, []⟩ := by
  rcases r with ⟨half, chars⟩
  rcases left with ⟨half, behind⟩
  cases half
  exact congrArg _ behind.escapes.eq_nil

theorem literal_same (h : Escapes cs ds) (s : Survey) (c : Char) :
    SameElement (c :: cs) (literal s c cs) (literal s c ds) := by
  unfold literal
  split
  · exact ⟨rfl, rfl, (Behind.refl h).cons⟩
  · exact ⟨rfl, rfl, (Behind.refl h).cons⟩

/-- What is no backslash is an element by itself. -/
theorem element_literal (other : c ≠ '\\') (s : Survey) :
    element s ⟨none, c :: cs⟩ = .ok (some (literal s c cs).1, (literal s c cs).2) := by
  unfold element
  split
  · next same => cases same
  · next same => exact absurd (List.cons.inj same).1 other
  · next same => exact absurd (List.cons.inj same).1 other
  · next same =>
      cases same
      rfl
  · next same => cases same

/-- What is marked is one element. -/
theorem literal_marked (marks : Marks c shown) (s : Survey) :
    literal s c cs = (c.toNat, { chars := cs }) := by
  have mem := mem_variants marks.not_isInert
  rcases s with ⟨mode, captures, named⟩
  simp only [variants, List.mem_cons, List.not_mem_nil, or_false] at mem
  rcases mem with rfl | rfl | rfl | rfl | rfl | rfl <;> cases mode <;> rfl

theorem element_of_mem
    (mem : c ∈ ['/', 'n', 'r', 'u', '\n', '\r', '\u2028', '\u2029']) (s : Survey) :
    element s ⟨none, '\\' :: c :: cs⟩ = (do
      let (n, rest) ← escape s true (c :: cs)
      return (some n, { chars := rest })) := by
  simp only [List.mem_cons, List.not_mem_nil, or_false] at mem
  rcases mem with rfl | rfl | rfl | rfl | rfl | rfl | rfl | rfl <;> rfl

/-- The name of a line break as an element. -/
theorem element_name {name : List Char} (named : lineBreak? c = some name) (s : Survey) :
    element s ⟨none, '\\' :: (name ++ ds)⟩ = (do
      let (n, rest) ← escape s true (name ++ ds)
      return (some n, { chars := rest })) := by
  rcases head_of_lineBreak? named with ⟨d, tail, rfl, mem⟩
  exact element_of_mem (List.mem_cons_of_mem _ (List.mem_append_left _ mem)) s

theorem element_marked (marks : Marks c shown) (s : Survey) :
    element s ⟨none, '\\' :: (shown ++ ds)⟩ = .ok (some c.toNat, { chars := ds }) := by
  have reads : element s ⟨none, '\\' :: (shown ++ ds)⟩ = (do
      let (n, rest) ← escape s true (shown ++ ds)
      return (some n, { chars := rest })) := by
    rcases marks with ⟨rfl, rfl⟩ | named
    · exact element_of_mem (by decide) s
    · exact element_name named s
  rw [reads, escape_marked marks]
  rfl

/-- An element behind a backslash is read from both brackets. -/
theorem element_pair (shows : Shows c shown) (h : Escapes cs ds) (s : Survey) :
    Leads (SameElement ('\\' :: c :: cs)) (element s ⟨none, '\\' :: c :: cs⟩)
      (element s ⟨none, '\\' :: (shown ++ ds)⟩) := by
  have behind : Behind ('\\' :: c :: cs) cs ds := (Behind.refl h).cons.cons
  rcases shows with rfl | named
  · unfold element
    dsimp only [List.singleton_append]
    refine leads_ite (fun _ => leads_ok ⟨rfl, rfl, behind⟩) fun _ => ?_
    refine leads_ite (fun _ => leads_ok ⟨rfl, rfl, behind⟩) fun _ => ?_
    refine leads_ite (fun _ => ?_) fun _ => ?_
    · exact leads_bind (property_leads h s true _) fun _ _ same =>
        leads_ok ⟨rfl, rfl, behind.trans same.2⟩
    refine leads_ite (fun _ => ?_) fun _ => ?_
    · have same := literal_same h s c
      exact leads_ok ⟨congrArg some same.1, same.2.half, same.2.behind.cons⟩
    · exact leads_bind (escape_plain h s true) fun _ _ same =>
        leads_ok ⟨congrArg some same.1, rfl, same.2.cons⟩
  · rw [element_of_mem (List.mem_append_right ['/', 'n', 'r', 'u'] (mem_of_lineBreak? named)),
      element_name named]
    exact leads_bind (escape_leads (.inr named) h s true) fun _ _ same =>
      leads_ok ⟨congrArg some same.1, rfl, same.2.cons⟩

theorem element_whole (h : Escapes cs ds) (s : Survey) :
    Leads (SameElement cs) (element s ⟨none, cs⟩) (element s ⟨none, ds⟩) := by
  cases h with
  | nil => exact leads_error _ _
  | last => exact leads_error _ _
  | @plain c cs ds other rest =>
      rw [element_literal other, element_literal other]
      have same := literal_same rest s c
      exact leads_ok ⟨congrArg some same.1, same.2⟩
  | pair shows rest => exact element_pair shows rest s
  | @fresh c shown cs ds marks rest =>
      rw [element_literal marks.ne_backslash, literal_marked marks, element_marked marks]
      exact leads_ok ⟨rfl, rfl, (Behind.refl rest).cons⟩

/-- An element is read from both brackets. -/
theorem element_leads {r r' : Remainder} (left : Leaves cs r r') (s : Survey) :
    Leads (SameElement cs) (element s r) (element s r') := by
  rcases r with ⟨half, rest⟩
  rcases r' with ⟨half', rest'⟩
  rcases left with ⟨half, behind⟩
  cases half
  cases half with
  | some low => exact leads_ok ⟨rfl, rfl, behind⟩
  | none =>
      exact leads_mono (element_whole behind.escapes s) fun _ _ same =>
        ⟨same.1, same.2.half, behind.trans same.2.behind⟩

/-- What follows an element of a bracket, given how what comes next is read: that may be
    the other end of a range. -/
def elementEnd (s : Survey) (next : Remainder → Except Flaw (List Char)) (low : Option Nat)
    (r : Remainder) : Except Flaw (List Char) :=
  match r with
  | ⟨none, ['-']⟩ => .error .openClass
  | ⟨none, '-' :: ']' :: cs⟩ => .ok cs
  | ⟨none, '-' :: cs⟩ => do
    let (high, r) ← element s { chars := cs }
    match low, high with
    | some low, some high => if high < low then throw .rangeOrder else next r
    | _, _ => if s.strict then throw .wrongClass else next r
  | r => next r

theorem bracket_succ {bound : Nat} {s : Survey} {r : Remainder} (some : r ≠ ⟨none, []⟩)
    (opened : ∀ cs, r ≠ ⟨none, ']' :: cs⟩) :
    bracket s (bound + 1) r = (do
      let (low, r) ← element s r
      elementEnd s (bracket s bound) low r) := by
  rw [bracket]
  · rfl
  · exact some
  · exact opened

/-- What follows an element is found in both bodies. -/
theorem elementEnd_leads {next next' : Remainder → Except Flaw (List Char)} {r r' : Remainder}
    (goes_on : ∀ {r r' : Remainder}, Leaves cs r r' → Leads (Behind cs) (next r) (next' r'))
    (left : Leaves cs r r') (s : Survey) (low : Option Nat) :
    Leads (Behind cs) (elementEnd s next low r) (elementEnd s next' low r') := by
  rw [elementEnd.eq_def s next low r]
  split
  · exact leads_error _ _
  · rcases left.next (by decide) with ⟨_, rfl, after⟩
    rcases after.next (by decide) with ⟨ds, rfl, closed⟩
    exact leads_ok closed
  · next cs' ends closes =>
      rcases left.next (by decide) with ⟨ds, rfl, after⟩
      rw [elementEnd]
      · have second : Leaves cs ⟨none, cs'⟩ ⟨none, ds⟩ := ⟨rfl, after⟩
        refine leads_bind (element_leads second s) ?_
        rintro ⟨high, r₂⟩ ⟨high', r₂'⟩ ⟨same, left₂⟩
        cases same
        have beyond := goes_on left₂
        -- A class at an end of a range is an error only where reading is strict.
        have wrong : Leads (Behind cs)
            (if s.strict then throw .wrongClass else next r₂)
            (if s.strict then throw .wrongClass else next' r₂') :=
          leads_ite (fun _ => leads_error _ _) fun _ => beyond
        cases low with
        | none => exact wrong
        | some low =>
            cases high with
            | none => exact wrong
            | some high => exact leads_ite (fun _ => leads_error _ _) fun _ => beyond
      · rintro rfl
        exact ends after.escapes.eq_nil
      · rintro _ rfl
        rcases after.prior (by decide) with ⟨_, same, -⟩
        exact closes _ same
  · next ends closes other =>
      rw [elementEnd]
      · exact goes_on left
      · rintro rfl
        rcases left.prior (by decide) with ⟨_, same, -⟩
        exact other _ same
      · rintro _ rfl
        rcases left.prior (by decide) with ⟨_, same, -⟩
        exact other _ same
      · rintro _ rfl
        rcases left.prior (by decide) with ⟨_, same, -⟩
        exact other _ same

/-- The end of a bracket is found in both bodies. -/
theorem bracket_leads {bound bound' : Nat} (enough : bound ≤ bound') {r r' : Remainder}
    (left : Leaves cs r r') (s : Survey) :
    Leads (Behind cs) (bracket s bound r) (bracket s bound' r') := by
  induction bound generalizing bound' r r' with
  | zero => exact leads_error _ _
  | succ bound ih =>
      rcases exists_bound enough with ⟨bound', rfl, within⟩
      by_cases empty : r = ⟨none, []⟩
      · subst empty
        exact leads_error _ _
      by_cases closed : ∃ rest, r = ⟨none, ']' :: rest⟩
      · rcases closed with ⟨rest, rfl⟩
        rcases left.next (by decide) with ⟨rest', rfl, after⟩
        exact leads_ok after
      rw [bracket_succ empty fun rest same => closed ⟨rest, same⟩, bracket_succ]
      · refine leads_bind (element_leads left s) ?_
        rintro ⟨low, r₁⟩ ⟨low', r₁'⟩ ⟨same, after⟩
        cases same
        exact elementEnd_leads (fun left => ih within left) after s low
      · rintro rfl
        exact empty left.eq_nil
      · rintro _ rfl
        rcases left.prior (by decide) with ⟨_, same, -⟩
        exact closed ⟨_, same⟩

/-! ### Sets -/

/-- What one reader reads from a body, the other reads from the body with more escaped. -/
def Carries {α : Type} (f g : List Char → Except Flaw (α × List Char)) : Prop :=
  ∀ cs ds, Escapes cs ds → Leads (SameBehind cs) (f cs) (g ds)

theorem Carries.behind {α : Type} {f g : List Char → Except Flaw (α × List Char)}
    {rest rest' : List Char} (carries : Carries f g) (behind : Behind cs rest rest') :
    Leads (SameBehind cs) (f rest) (g rest') :=
  leads_mono (carries _ _ behind.escapes) fun _ _ => behind.same

theorem setChar_of_backslash (s : Survey) (letter : c ≠ 'b') :
    setChar s ('\\' :: c :: cs) = escape s true (c :: cs) := by
  rw [setChar]
  exact fun _ same => letter (List.cons.inj same).1

theorem setChar_shown (shows : Shows c shown) (letter : c ≠ 'b') (s : Survey) :
    setChar s ('\\' :: (shown ++ ds)) = escape s true (shown ++ ds) := by
  rcases shows with rfl | named
  · exact setChar_of_backslash s letter
  · rcases head_of_lineBreak? named with ⟨d, tail, rfl, mem⟩
    refine setChar_of_backslash s ?_
    rintro rfl
    exact absurd mem (by decide)

theorem setChar_other (other : c ≠ '\\') (s : Survey) :
    setChar s (c :: cs) = if classChars.contains c then .error .bareInClass
      else if doubledChars.contains c && cs.head? = some c then .error .wrongOperation
      else .ok (c.toNat, cs) := by
  rw [setChar]
  · exact fun _ same => absurd same other
  · exact other

/-- A character of a set is read from both bodies. -/
theorem setChar_carries (s : Survey) : Carries (setChar s) (setChar s) := by
  intro cs ds h
  cases h with
  | nil => exact leads_error _ _
  | last => exact leads_error _ _
  | @plain c cs ds other rest =>
      rw [setChar_other other, setChar_other other]
      refine leads_ite (fun _ => leads_error _ _) fun _ => ?_
      -- The next character is the same one in the other body only if it is in this one.
      by_cases doubled : (doubledChars.contains c && decide (cs.head? = some c)) = true
      · rw [if_pos doubled]
        exact leads_error _ _
      · have single : ¬ (doubledChars.contains c && decide (ds.head? = some c)) = true := by
          intro again
          simp only [Bool.and_eq_true, decide_eq_true_eq] at again doubled
          rcases List.head?_eq_some_iff.mp again.2 with ⟨_, rfl⟩
          rcases rest.of_other other with ⟨_, rfl, -⟩
          exact doubled ⟨again.1, rfl⟩
        rw [if_neg doubled, if_neg single]
        exact leads_ok ⟨rfl, (Behind.refl rest).cons⟩
  | @pair c shown cs ds shows rest =>
      by_cases letter : c = 'b'
      · subst letter
        rw [shows_of_inert shows (by decide)]
        exact leads_ok ⟨rfl, (Behind.refl rest).cons.cons⟩
      · rw [setChar_of_backslash s letter, setChar_shown shows letter]
        exact leads_mono (escape_leads shows rest s true) fun _ _ same => ⟨same.1, same.2.cons⟩
  | @fresh c shown cs ds marks rest =>
      rw [setChar_other marks.ne_backslash]
      rcases marks with ⟨rfl, rfl⟩ | named
      · exact leads_error _ _
      · have letter : c ≠ 'b' := by
          rintro rfl
          exact absurd (mem_of_lineBreak? named) (by decide)
        rw [setChar_shown (.inr named) letter, escape_name s true named]
        split
        · exact leads_error _ _
        split
        · exact leads_error _ _
        · exact leads_ok ⟨rfl, (Behind.refl rest).cons⟩

/-- A list of texts is read from both bodies. -/
theorem textList_carries {bound bound' : Nat} (enough : bound ≤ bound') (s : Survey)
    (length : Nat) : Carries (textList s bound length) (textList s bound' length) := by
  induction bound generalizing bound' length with
  | zero =>
      intro cs ds h
      rw [textList]
      exact leads_error _ _
  | succ bound ih =>
      rcases exists_bound enough with ⟨bound', rfl, within⟩
      intro cs ds h
      rw [textList.eq_def s (bound + 1) length cs]
      split
      · exact leads_error _ _
      · exact leads_error _ _
      · rcases h.of_inert (by decide) with ⟨ds, rfl, rest⟩
        exact leads_ok ⟨rfl, (Behind.refl rest).cons⟩
      · next bound₂ length₂ cs same =>
        cases same
        rcases h.of_inert (by decide) with ⟨ds, rfl, rest⟩
        rw [textList]
        refine leads_bind (ih within 0 cs ds rest) ?_
        rintro ⟨more, left⟩ ⟨more', left'⟩ ⟨same, after⟩
        cases same
        exact leads_ok ⟨rfl, after.cons⟩
      · next same some closed bar =>
        cases same
        rw [textList]
        · refine leads_bind (setChar_carries s _ ds h) ?_
          rintro ⟨n, left⟩ ⟨n', left'⟩ ⟨-, after⟩
          exact (ih within _).behind after
        · exact h.ne_nil some
        · exact h.ne_append ['}'] (by decide) closed
        · exact h.ne_append ['|'] (by decide) bar

/-- A character as an operand. -/
def charOperand (s : Survey) (cs : List Char) : Except Flaw (Operand × List Char) := do
  let (n, rest) ← setChar s cs
  return (.char n, rest)

theorem charOperand_carries (s : Survey) : Carries (charOperand s) (charOperand s) := by
  intro cs ds h
  refine leads_bind (setChar_carries s cs ds h) ?_
  rintro ⟨n, left⟩ ⟨n', left'⟩ ⟨same, after⟩
  cases same
  exact leads_ok ⟨rfl, after⟩

variable {inner inner' : List Char → Except Flaw (Bool × List Char)}

/-- What is neither a backslash nor a bracket is an operand by itself. -/
theorem operand_other (other : c ≠ '\\') (bracket : c ≠ '[') (s : Survey) :
    operand s inner (c :: cs) = charOperand s (c :: cs) := by
  unfold operand
  dsimp only
  split
  · next same => exact absurd (List.cons.inj same).1 other
  · next same => exact absurd (List.cons.inj same).1 bracket
  · rfl

theorem operand_of_mem
    (mem : c ∈ ['/', 'n', 'r', 'u', '\n', '\r', '\u2028', '\u2029']) (s : Survey) :
    operand s inner ('\\' :: c :: cs) = charOperand s ('\\' :: c :: cs) := by
  simp only [List.mem_cons, List.not_mem_nil, or_false] at mem
  rcases mem with rfl | rfl | rfl | rfl | rfl | rfl | rfl | rfl <;> rfl

theorem operand_marked (marks : Marks c shown) (s : Survey) :
    operand s inner ('\\' :: (shown ++ ds)) = charOperand s ('\\' :: (shown ++ ds)) := by
  rcases marks with ⟨rfl, rfl⟩ | named
  · exact operand_of_mem (by decide) s
  · rcases head_of_lineBreak? named with ⟨d, tail, rfl, mem⟩
    exact operand_of_mem (List.mem_cons_of_mem _ (List.mem_append_left _ mem)) s

/-- An operand behind a backslash is read from both bodies. -/
theorem operand_plain (h : Escapes cs ds) (s : Survey) :
    Leads (SameBehind ('\\' :: c :: cs)) (operand s inner ('\\' :: c :: cs))
      (operand s inner' ('\\' :: c :: ds)) := by
  unfold operand
  dsimp only
  refine leads_ite (fun _ => ?_) fun _ => ?_
  · split
    · next rest =>
        rcases h.of_inert (by decide) with ⟨ds, rfl, inside⟩
        refine leads_bind (textList_carries (Nat.succ_le_succ inside.length_le) s 0 _ _ inside) ?_
        rintro ⟨texts, left⟩ ⟨texts', left'⟩ ⟨same, after⟩
        cases same
        exact leads_ok ⟨rfl, after.cons.cons.cons⟩
    · exact leads_error _ _
  refine leads_ite (fun _ => leads_ok ⟨rfl, (Behind.refl h).cons.cons⟩) fun _ => ?_
  refine leads_ite (fun _ => ?_) fun _ => ?_
  · refine leads_bind (property_leads h s true _) ?_
    rintro ⟨texts, left⟩ ⟨texts', left'⟩ ⟨same, after⟩
    cases same
    exact leads_ok ⟨rfl, after.cons.cons⟩
  · exact charOperand_carries s _ _ (.pair .self h)

/-- An operand is read from both bodies, if a class in it is. -/
theorem operand_carries (carries : Carries inner inner') (s : Survey) :
    Carries (operand s inner) (operand s inner') := by
  intro cs ds h
  have single := charOperand_carries s cs ds h
  cases h with
  | nil => exact single
  | last => exact single
  | @plain c cs ds other rest =>
      by_cases bracket : c = '['
      · subst bracket
        refine leads_bind (carries cs ds rest) ?_
        rintro ⟨texts, left⟩ ⟨texts', left'⟩ ⟨same, after⟩
        cases same
        exact leads_ok ⟨rfl, after.cons⟩
      · rw [operand_other other bracket, operand_other other bracket]
        exact single
  | @pair c shown cs ds shows rest =>
      rcases shows with rfl | named
      · exact operand_plain rest s
      · rw [operand_of_mem (List.mem_append_right ['/', 'n', 'r', 'u'] (mem_of_lineBreak? named)),
          operand_marked (.inr named)]
        exact single
  | @fresh c shown cs ds marks rest =>
      have bracket : c ≠ '[' := by
        rintro rfl
        exact absurd marks.not_isInert (by decide)
      rw [operand_other marks.ne_backslash bracket, operand_marked marks]
      exact single

variable {next next' : List Char → Except Flaw (Operand × List Char)}

/-- A union is read from both bodies if its operands are. -/
theorem union_carries (carries : Carries next next') {bound bound' : Nat} (enough : bound ≤ bound')
    (texts : Bool) (low : Option Nat) :
    Carries (union next bound texts low) (union next' bound' texts low) := by
  induction bound generalizing bound' texts low with
  | zero =>
      intro cs ds h
      rw [union]
      exact leads_error _ _
  | succ bound ih =>
      rcases exists_bound enough with ⟨bound', rfl, within⟩
      intro cs ds h
      -- The cases are those of the first body. The second one is read by the same case, as
      -- escaping neither makes a mark nor takes one away.
      rw [union.eq_def next (bound + 1) texts low cs]
      split
      · exact leads_error _ _
      · exact leads_error _ _
      · rcases h.of_inert (by decide) with ⟨ds, rfl, rest⟩
        exact leads_ok ⟨rfl, (Behind.refl rest).cons⟩
      · exact leads_error _ _
      · exact leads_error _ _
      · next single same =>
        cases same
        rcases h.of_inert (by decide) with ⟨ds, rfl, rest⟩
        rw [union]
        · refine leads_bind (carries _ ds rest) ?_
          rintro ⟨operand, left⟩ ⟨operand', left'⟩ ⟨same, after⟩
          cases same
          cases operand with
          | char high =>
              exact leads_ite (fun _ => leads_error _ _) fun _ => (ih within _ _).behind after.cons
          | set more => exact leads_error _ _
        · exact rest.ne_append ['-'] (by decide) single
      · next same given closed double start range =>
        cases same
        rw [union]
        · refine leads_bind (carries _ ds h) ?_
          rintro ⟨operand, left⟩ ⟨operand', left'⟩ ⟨same, after⟩
          cases same
          cases operand with
          | char n => exact (ih within _ _).behind after
          | set more => exact (ih within _ _).behind after
        · exact h.ne_nil given
        · exact h.ne_append [']'] (by decide) closed
        · exact h.ne_append ['-', '-'] (by decide) double
        · exact fun tail low => h.ne_append ['-'] (by decide) (fun rest => start rest low) tail
        · intro n tail low
          exact h.ne_append ['-'] (by decide) (fun rest => range n rest low) tail

/-- An intersection is read from both bodies if its operands are. -/
theorem intersection_carries (carries : Carries next next') {bound bound' : Nat}
    (enough : bound ≤ bound') (texts : Bool) :
    Carries (intersection next bound texts) (intersection next' bound' texts) := by
  induction bound generalizing bound' texts with
  | zero =>
      intro cs ds h
      rw [intersection]
      exact leads_error _ _
  | succ bound ih =>
      rcases exists_bound enough with ⟨bound', rfl, within⟩
      intro cs ds h
      rw [intersection.eq_def next (bound + 1) texts cs]
      split
      · exact leads_error _ _
      · exact leads_error _ _
      · rcases h.of_inert (by decide) with ⟨ds, rfl, rest⟩
        exact leads_ok ⟨rfl, (Behind.refl rest).cons⟩
      · exact leads_error _ _
      · next single same =>
        cases same
        rcases h.of_append ['&', '&'] (by decide) with ⟨ds, rfl, rest⟩
        rw [List.cons_append, List.cons_append, List.nil_append, intersection]
        · refine leads_bind (carries _ ds rest) ?_
          rintro ⟨operand, left⟩ ⟨operand', left'⟩ ⟨same, after⟩
          cases same
          exact (ih within _).behind after.cons.cons
        · exact rest.ne_append ['&'] (by decide) single
      · exact leads_error _ _

/-- A difference is read from both bodies if its operands are. -/
theorem difference_leads (carries : Carries next next') {bound bound' : Nat}
    (enough : bound ≤ bound') (h : Escapes cs ds) :
    Leads (Behind cs) (difference next bound cs) (difference next' bound' ds) := by
  induction bound generalizing bound' cs ds with
  | zero =>
      rw [difference]
      exact leads_error _ _
  | succ bound ih =>
      rcases exists_bound enough with ⟨bound', rfl, within⟩
      rw [difference.eq_def next (bound + 1) cs]
      split
      · exact leads_error _ _
      · exact leads_error _ _
      · rcases h.of_inert (by decide) with ⟨ds, rfl, rest⟩
        exact leads_ok (Behind.refl rest).cons
      · next same =>
        cases same
        rcases h.of_append ['-', '-'] (by decide) with ⟨ds, rfl, rest⟩
        rw [List.cons_append, List.cons_append, List.nil_append, difference]
        refine leads_bind (carries _ ds rest) ?_
        rintro ⟨operand, left⟩ ⟨operand', left'⟩ ⟨same, after⟩
        exact leads_mono (ih within after.escapes) fun _ _ => after.cons.cons.trans
      · exact leads_error _ _

/-! ### Classes -/

/-- Whether a class is a complement. -/
def isComplement (cs : List Char) : Bool :=
  cs.head? = some '^'

/-- What is behind the mark of a complement, if there is one. -/
def unmarked (cs : List Char) : List Char :=
  if cs.head? = some '^' then cs.drop 1 else cs

/-- A complement is one in both bodies. -/
theorem unmarked_behind (h : Escapes cs ds) :
    isComplement ds = isComplement cs ∧ Behind cs (unmarked cs) (unmarked ds) := by
  have same : ds.head? = some '^' ↔ cs.head? = some '^' := h.head?_iff (by decide)
  refine ⟨decide_eq_decide.mpr same, ?_⟩
  unfold unmarked
  by_cases marked : cs.head? = some '^'
  · rw [if_pos marked, if_pos (same.mpr marked)]
    rcases List.head?_eq_some_iff.mp marked with ⟨cs, rfl⟩
    rcases h.of_inert (by decide) with ⟨ds, rfl, rest⟩
    exact (Behind.refl rest).cons
  · rw [if_neg marked, if_neg (mt same.mp marked)]
    exact .refl h

/-- The operands of a class behind the first one, given whether the class is a complement. -/
def operands (next : List Char → Except Flaw (Operand × List Char)) (bound : Nat)
    (negated : Bool) (first : Operand) (rest : List Char) : Except Flaw (Bool × List Char) :=
  match rest with
  | '-' :: '-' :: _ =>
    if negated && first.hasTexts then .error .textsExcluded
    else do return (first.hasTexts, ← difference next bound rest)
  | '&' :: '&' :: _ => intersection next bound first.hasTexts rest
  | rest =>
    match first with
    | .char n => union next bound false (some n) rest
    | .set texts => union next bound texts none rest

theorem setClass_closed {depth : Nat} {rest : List Char} (closed : unmarked cs = ']' :: rest)
    (s : Survey) : setClass s (depth + 1) cs = .ok (false, rest) := by
  unfold unmarked at closed
  rw [setClass]
  dsimp only
  rw [closed]
  rfl

theorem setClass_succ {depth : Nat} (opened : ∀ rest, unmarked cs ≠ ']' :: rest) (s : Survey) :
    setClass s (depth + 1) cs = (do
      let next := operand s (setClass s depth)
      let (first, rest) ← next (unmarked cs)
      let (texts, rest) ←
        operands next ((unmarked cs).length + 1) (isComplement cs) first rest
      if isComplement cs && texts then throw .textsExcluded
      else return (texts, rest)) := by
  unfold unmarked at opened ⊢
  unfold isComplement
  rw [setClass]
  dsimp only
  split
  · next closed => exact absurd closed (opened _)
  refine bind_congr fun u => ?_
  rcases u with ⟨first, rest⟩
  dsimp only
  split
  · unfold operands
    split
    · rfl
    · exact (bind_assoc _ _ _).symm
  · rfl
  · next subtracts meets =>
    cases first with
    | char n =>
        rw [operands]
        · exact subtracts
        · exact meets
    | set texts =>
        rw [operands]
        · exact subtracts
        · exact meets

/-- What is behind the first operand of a class is read from both bodies. -/
theorem operands_leads (carries : Carries next next') {bound bound' : Nat}
    (enough : bound ≤ bound') (negated : Bool) (first : Operand) (h : Escapes cs ds) :
    Leads (SameBehind cs) (operands next bound negated first cs)
      (operands next' bound' negated first ds) := by
  rw [operands.eq_def next bound negated first cs]
  split
  · rcases h.of_append ['-', '-'] (by decide) with ⟨ds, rfl, -⟩
    refine leads_ite (fun _ => leads_error _ _) fun _ => ?_
    exact leads_bind (difference_leads carries enough h) fun _ _ after => leads_ok ⟨rfl, after⟩
  · rcases h.of_append ['&', '&'] (by decide) with ⟨ds, rfl, -⟩
    exact intersection_carries carries enough _ _ _ h
  · next subtracts meets =>
    have subtracts' := h.ne_append ['-', '-'] (by decide) subtracts
    have meets' := h.ne_append ['&', '&'] (by decide) meets
    cases first with
    | char n =>
        rw [operands]
        · exact union_carries carries enough _ _ _ _ h
        · exact subtracts'
        · exact meets'
    | set texts =>
        rw [operands]
        · exact union_carries carries enough _ _ _ _ h
        · exact subtracts'
        · exact meets'

/-- A class of sets is read from both bodies. -/
theorem setClass_carries {depth depth' : Nat} (enough : depth ≤ depth') (s : Survey) :
    Carries (setClass s depth) (setClass s depth') := by
  induction depth generalizing depth' with
  | zero => exact fun _ _ _ => leads_error _ _
  | succ depth ih =>
      rcases exists_bound enough with ⟨depth', rfl, within⟩
      intro cs ds h
      rcases unmarked_behind h with ⟨negated, behind⟩
      by_cases closed : ∃ rest, unmarked cs = ']' :: rest
      · rcases closed with ⟨rest, closed⟩
        rw [closed] at behind
        rcases behind.next (by decide) with ⟨rest', closed', after⟩
        rw [setClass_closed closed, setClass_closed closed']
        exact leads_ok ⟨rfl, after⟩
      · have carries := operand_carries (ih within) s
        rw [setClass_succ fun rest same => closed ⟨rest, same⟩, setClass_succ]
        · refine leads_bind (carries.behind behind) ?_
          rintro ⟨first, rest⟩ ⟨first', rest'⟩ ⟨same, after⟩
          cases same
          dsimp only
          rw [negated]
          refine leads_bind (operands_leads carries
            (Nat.succ_le_succ behind.escapes.length_le) _ _ after.escapes) ?_
          rintro ⟨texts, left⟩ ⟨texts', left'⟩ ⟨same, after'⟩
          cases same
          exact leads_ite (fun _ => leads_error _ _) fun _ => leads_ok ⟨rfl, after.trans after'⟩
        · intro rest same
          rw [same] at behind
          rcases behind.prior (by decide) with ⟨_, same, -⟩
          exact closed ⟨_, same⟩

end Pattern

end Stencil
