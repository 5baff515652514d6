import Stencil.Proofs.EscapedClasses

/-!
# Well-Formed Escaped Bodies

A body of a pattern that is well-formed stays so when more of it is escaped.

The body is read step by step, and a step leads to the same groups and names in both
bodies. How many groups there are was counted before, and is the same as well: behind a
backslash nothing opens a group.

## Theorems

* `Pattern.step_leads`, `Pattern.readWithin_leads`: A step, and all of them.
* `Pattern.count_same`: Both bodies capture as many groups.
* `Pattern.check_of_escapes`: A body with more escaped is well-formed as well.
* `Pattern.escapes_escapeFrom`: Escaping what would end a body leaves it the same body.
-/

namespace Stencil

namespace Pattern

variable {c d : Char} {cs ds shown : List Char}

/-! ### Steps -/

/-- The end of a class is found in both bodies. -/
theorem classEnd_leads (h : Escapes cs ds) (s : Survey) :
    Leads (Behind cs) (classEnd s cs) (classEnd s ds) := by
  rcases s with ⟨mode, captures, named⟩
  have left : Leaves cs ⟨none, unmarked cs⟩ ⟨none, unmarked ds⟩ := ⟨rfl, (unmarked_behind h).2⟩
  have enough : 2 * cs.length + 1 ≤ 2 * ds.length + 1 :=
    Nat.succ_le_succ (Nat.mul_le_mul_left 2 h.length_le)
  cases mode with
  | loose => exact bracket_leads enough left _
  | strict => exact bracket_leads enough left _
  | sets =>
      refine leads_bind (setClass_carries (Nat.succ_le_succ h.length_le) _ cs ds h) ?_
      exact fun _ _ same => leads_ok same.2

/-- What a new backslash was put in front of is a term by itself. -/
theorem step_marked (marks : Marks c shown) (s : Survey) (p : Progress) :
    step s p c cs = do return (p, ← quantifier s true cs) := by
  have mem := mem_variants marks.not_isInert
  simp only [variants, List.mem_cons, List.not_mem_nil, or_false] at mem
  rcases mem with rfl | rfl | rfl | rfl | rfl | rfl
  · exact absurd rfl marks.ne_backslash
  all_goals rfl

theorem step_plain (h : Escapes cs ds) (other : c ≠ '\\') (s : Survey) (p : Progress) :
    Leads (SameBehind cs) (step s p c cs) (step s p c ds) := by
  have term := term_leads (.refl h) s true p
  unfold step
  dsimp only
  split
  · exact openGroup_leads h p
  · cases closeGroup p with
    | error flaw => exact leads_error flaw _
    | ok u => exact term_leads (.refl h) s _ u.2
  · exact leads_ok ⟨rfl, .refl h⟩
  · exact leads_ok ⟨rfl, .refl h⟩
  · exact leads_ok ⟨rfl, .refl h⟩
  · exact leads_error _ _
  · exact leads_error _ _
  · exact leads_error _ _
  · exact leads_bind (classEnd_leads h s) fun _ _ behind => term_leads behind s true p
  · exact absurd rfl other
  · -- A brace that opens no bounds stands for itself, and must do so in both bodies.
    have same := interval?_rel (.plain other h)
    generalize interval? ('\x7b' :: cs) = x at same
    generalize interval? ('\x7b' :: ds) = y at same
    cases same with
    | some _ => exact leads_error _ _
    | none =>
        refine leads_ite (fun _ => leads_error _ _) fun _ => ?_
        exact leads_ite (fun _ => leads_error _ _) fun _ => term
  · exact leads_ite (fun _ => leads_error _ _) fun _ => term
  · exact leads_ite (fun _ => leads_error _ _) fun _ => term
  · exact term

/-- A step leads to the same point in both bodies. -/
theorem step_leads (h : Escapes (c :: cs) (d :: ds)) (s : Survey) (p : Progress) :
    Leads (SameBehind cs) (step s p c cs) (step s p d ds) := by
  cases h with
  | last => exact leads_error _ _
  | plain other rest => exact step_plain rest other s p
  | pair shows rest => exact escapedTerm_leads shows rest s p
  | fresh marks rest =>
      -- The same step goes over one character here, and over an escape there.
      rw [step_marked marks]
      change Leads _ _ (escapedTerm s p _)
      rw [escapedTerm_marked marks]
      exact term_leads (.refl rest) s true p

/-- What has been read of both bodies is the same. -/
theorem readWithin_leads {bound bound' : Nat} (long : cs.length < bound)
    (enough : bound ≤ bound') (h : Escapes cs ds) (s : Survey) (p : Progress) :
    Leads Eq (readWithin s bound p cs) (readWithin s bound' p ds) := by
  -- Every step leaves less than there was, so it is never the bound that ends the reading.
  induction bound generalizing bound' p cs ds with
  | zero => exact absurd long (Nat.not_lt_zero _)
  | succ bound ih =>
      rcases exists_bound enough with ⟨bound', rfl, within⟩
      cases cs with
      | nil =>
          rw [h.of_nil]
          exact fun p same => ⟨p, same, rfl⟩
      | cons c cs =>
          cases ds with
          | nil => exact absurd h.eq_nil (List.cons_ne_nil _ _)
          | cons d ds =>
              refine leads_bind (step_leads h s p) ?_
              rintro ⟨p, left⟩ ⟨p', left'⟩ ⟨same, behind⟩
              cases same
              exact ih (Nat.lt_of_le_of_lt behind.le (Nat.lt_of_succ_lt_succ long)) within
                behind.escapes p

/-! ### Bodies -/

theorem count_shown (shows : Shows c shown) (inBracket : Bool) :
    count inBracket ('\\' :: (shown ++ ds)) = count inBracket ds := by
  rcases shows with rfl | named
  · rfl
  · have mem := lineBreak?_cases named
    simp only [List.mem_cons, List.not_mem_nil, or_false] at mem
    rcases mem with rfl | rfl | rfl | rfl <;> rfl

/-- Both bodies capture as many groups, and name one or none. -/
theorem count_same (h : Escapes cs ds) (inBracket : Bool) :
    count inBracket ds = count inBracket cs := by
  -- The marks that count are all inert, so escaping leaves every one of them in its place.
  fun_induction count inBracket cs generalizing ds with
  | case1 inBracket =>
      rw [h.of_nil]
      rfl
  | case2 inBracket c cs ih =>
      rcases h.of_backslash with ⟨shown, ds, rfl, shows, rest⟩
      rw [count_shown shows, ih rest]
  | case3 inBracket cs ih =>
      rcases h.of_inert (by decide) with ⟨ds, rfl, rest⟩
      rw [count, ih rest]
  | case4 inBracket cs ih =>
      rcases h.of_inert (by decide) with ⟨ds, rfl, rest⟩
      rw [count, ih rest]
  | case5 inBracket cs n named counts none ih =>
      rcases h.of_append ['(', '?', '<'] (by decide) with ⟨ds, rfl, rest⟩
      rw [← decide_eq_decide.mpr (rest.head?_iff (show isInert '=' = true by decide)),
        ← decide_eq_decide.mpr (rest.head?_iff (show isInert '!' = true by decide))] at none
      change count inBracket ('(' :: '?' :: '<' :: ds) = _
      rw [count, ih rest, counts]
      exact if_pos none
  | case6 inBracket cs n named counts one ih =>
      rcases h.of_append ['(', '?', '<'] (by decide) with ⟨ds, rfl, rest⟩
      rw [← decide_eq_decide.mpr (rest.head?_iff (show isInert '=' = true by decide)),
        ← decide_eq_decide.mpr (rest.head?_iff (show isInert '!' = true by decide))] at one
      change count inBracket ('(' :: '?' :: '<' :: ds) = _
      rw [count, ih rest, counts]
      exact if_neg one
  | case7 inBracket cs unnamed ih =>
      rcases h.of_append ['(', '?'] (by decide) with ⟨ds, rfl, rest⟩
      change count inBracket ('(' :: '?' :: ds) = _
      rw [count, ih rest]
      exact rest.ne_append ['<'] (by decide) unnamed
  | case8 inBracket cs unnamed special n named counts ih =>
      rcases h.of_inert (by decide) with ⟨ds, rfl, rest⟩
      have special' := rest.ne_append ['?'] (by decide) special
      rw [count, ih rest, counts]
      · exact fun ds => special' ('<' :: ds)
      · exact special'
  | case9 inBracket c cs escape opens closes named special group ih =>
      cases h with
      | last => rfl
      | plain other rest =>
          rw [count, ih rest]
          · exact fun _ _ same => absurd same other
          · exact opens
          · exact closes
          · exact fun _ same => absurd same group
          · exact fun _ same => absurd same group
          · exact group
      | pair shows rest => exact absurd rfl (escape _ _ rfl)
      | fresh marks rest => rw [count_shown marks.shows, ih rest]

/-- A body with more escaped is well-formed as well. -/
theorem check_of_escapes {mode : Mode} {source written : String}
    (h : Escapes source.toList written.toList) (fine : check mode source = .ok ()) :
    check mode written = .ok () := by
  have leads : Leads Eq (check mode source) (check mode written) := by
    unfold check
    dsimp only
    rw [count_same h]
    refine leads_bind
      (readWithin_leads (Nat.lt_succ_self _) (Nat.succ_le_succ h.length_le) h _ {}) ?_
    rintro p _ rfl
    exact leads_ite (fun _ => leads_ok rfl) fun _ => leads_error _ _
  rcases leads () fine with ⟨_, fine', -⟩
  exact fine'

/-! ### Escaping -/

theorem escapeFrom_backslash (inClass : Bool) (rest : List Char) :
    escapeFrom false inClass ('\\' :: rest) = '\\' :: escapeFrom true inClass rest := by
  cases inClass <;> rfl

theorem escapeFrom_escaped (inClass : Bool) (c : Char) (cs : List Char) :
    ∃ shown, Shows c shown
      ∧ escapeFrom true inClass (c :: cs) = shown ++ escapeFrom false inClass cs := by
  have state : (c == '\\' && !true) = false := Bool.and_false _
  rw [escapeFrom, state]
  cases found : lineBreak? c with
  | some name => exact ⟨name, .inr found, rfl⟩
  | none =>
      have plain : ¬ (c = '/' && !true && !inClass) = true := by
        rw [Bool.not_true, Bool.and_false, Bool.false_and]
        exact Bool.false_ne_true
      exact ⟨[c], .self, congrArg (· ++ _) (if_neg plain)⟩

/-- Escaping what would end a body leaves it the same body, with more escaped. -/
theorem escapes_escapeFrom (inClass : Bool) (cs : List Char) :
    Escapes cs (escapeFrom false inClass cs) := by
  -- A character behind a backslash is read with it, so both are taken together.
  suffices both : Escapes cs (escapeFrom false inClass cs)
      ∧ Escapes ('\\' :: cs) ('\\' :: escapeFrom true inClass cs) from both.1
  induction cs generalizing inClass with
  | nil => exact ⟨.nil, .last⟩
  | cons c cs ih =>
      constructor
      · by_cases backslash : c = '\\'
        · subst backslash
          rw [escapeFrom_backslash]
          exact (ih inClass).2
        have state : (c == '\\' && !false) = false := by
          rw [beq_false_of_ne backslash, Bool.false_and]
        rw [escapeFrom, state]
        cases found : lineBreak? c with
        | some name => exact .fresh (.inr found) (ih _).1
        | none =>
            dsimp only
            split
            · next slash =>
                simp only [Bool.and_eq_true, decide_eq_true_eq] at slash
                exact .fresh (.inl ⟨slash.1.1, rfl⟩) (ih _).1
            · exact .plain backslash (ih _).1
      · rcases escapeFrom_escaped inClass c cs with ⟨shown, shows, written⟩
        rw [written]
        exact .pair shows (ih inClass).1

end Pattern

end Stencil
