import Stencil.Json
import Stencil.Proofs.Digits
import Stencil.Text.Units

/-!
# Reading JSON

The documents that texts are by the grammar of JSON, and reading back what was
written.

`Json.read?` follows the grammar. Blanks may stand around every document and
every sign, texts are read as code units, since an escape may give one half of a
character, and numbers are rounded to the nearest double. A bound on the depth
takes the place of an argument that reading ends; two steps of it for each
character are enough, as whatever nests brings a bracket along.

Only what follows a number can run into it, so what is read back is read in front
of anything that does not continue a number. Numbers are those that are integers
of at most 53 bits; for others, reading back is a matter of rounding and not of
the grammar.

## Main definitions

* `Json.read?`: The document that a text is.
* `Json.Whole`: Documents whose numbers are integers.
* `Json.Ends`: Texts that do not continue a number.

## Theorems

* `Json.readUnits?_quote`: Reading a quoted text.
* `Json.read?_print`: Reading a document back.
-/

namespace Stencil

namespace Json

/-! ### The grammar -/

/-- Whether a character may stand between the parts of a document. -/
def isBlank (c : Char) : Bool :=
  c = ' ' || c = '\t' || c = '\n' || c = '\r'

/-- The code unit that a letter stands for after a backslash. -/
def unescape? (c : Char) : Option Nat :=
  if c = '"' ∨ c = '\\' ∨ c = '/' then some c.toNat
  else if c = 'b' then some 8
  else if c = 't' then some 9
  else if c = 'n' then some 10
  else if c = 'f' then some 12
  else if c = 'r' then some 13
  else none

/-- The code units in front of a closing quote, and what follows it. -/
def readUnits? : List Char → Option (List Nat × List Char)
  | [] => none
  | '"' :: rest => some ([], rest)
  | '\\' :: 'u' :: a :: b :: c :: d :: rest => do
    let u ← Number.readDigits? 16 0 [a, b, c, d]
    let (us, rest) ← readUnits? rest
    return (u :: us, rest)
  | '\\' :: c :: rest => do
    let u ← unescape? c
    let (us, rest) ← readUnits? rest
    return (u :: us, rest)
  | c :: rest =>
    if c.toNat < 32 then none
    else do
      let (us, rest) ← readUnits? rest
      return (halves c ++ us, rest)

/-- The text in front of a closing quote. -/
def readText? (cs : List Char) : Option (String × List Char) :=
  (readUnits? cs).map fun (us, rest) => (String.ofList (ofCodeUnits us), rest)

/-- At least one digit. -/
def readRun? (cs : List Char) : Option (List Char × List Char) :=
  if cs.takeWhile Char.isDigit = [] then none
  else some (cs.takeWhile Char.isDigit, cs.dropWhile Char.isDigit)

/-- The digits of a fraction, if there is one. -/
def readFraction? : List Char → Option (List Char × List Char)
  | '.' :: rest => readRun? rest
  | rest => some ([], rest)

/-- The digits of an exponent. -/
def readPower? (cs : List Char) : Option (Nat × List Char) := do
  let (digits, rest) ← readRun? cs
  return (← Number.readDigits? 10 0 digits, rest)

/-- An exponent, if there is one. -/
def readExponent? : List Char → Option (Int × List Char)
  | 'e' :: rest | 'E' :: rest =>
    match rest with
    | '-' :: rest => (readPower? rest).map fun (n, rest) => (-(n : Int), rest)
    | '+' :: rest => (readPower? rest).map fun (n, rest) => ((n : Int), rest)
    | rest => (readPower? rest).map fun (n, rest) => ((n : Int), rest)
  | rest => some (0, rest)

/-- A number behind its sign. Zero is the only number of several digits that may
    begin with a zero, so it has one. -/
def readNumber? (negative : Bool) (cs : List Char) : Option (Json × List Char) := do
  let (whole, rest) ← readRun? cs
  let (fraction, rest) ← readFraction? rest
  let (exponent, rest) ← readExponent? rest
  let digits ← Number.readDigits? 10 0 (whole ++ fraction)
  if whole.head? = some '0' ∧ whole.length ≠ 1 then none
  else
    return (number (Number.ofScientific negative digits (exponent - fraction.length)), rest)

/-- A document without parts that is no text. -/
def readSimple? : List Char → Option (Json × List Char)
  | 'n' :: 'u' :: 'l' :: 'l' :: rest => some (null, rest)
  | 't' :: 'r' :: 'u' :: 'e' :: rest => some (boolean true, rest)
  | 'f' :: 'a' :: 'l' :: 's' :: 'e' :: rest => some (boolean false, rest)
  | '-' :: rest => readNumber? true rest
  | rest => readNumber? false rest

mutual

/-- A document, with a bound on its depth, and what follows it. -/
def readValue? : Nat → List Char → Option (Json × List Char)
  | 0, _ => none
  | bound + 1, cs =>
    match cs.dropWhile isBlank with
    | '"' :: rest => (readText? rest).map fun (s, rest) => (text s, rest)
    | '[' :: rest =>
      match rest.dropWhile isBlank with
      | ']' :: rest => some (array [], rest)
      | rest => (readItems? bound rest).map fun (items, rest) => (array items, rest)
    | '{' :: rest =>
      match rest.dropWhile isBlank with
      | '}' :: rest => some (object [], rest)
      | rest => (readMembers? bound rest).map fun (members, rest) => (object members, rest)
    | rest => readSimple? rest

/-- At least one item, up to the end of the array. -/
def readItems? : Nat → List Char → Option (List Json × List Char)
  | 0, _ => none
  | bound + 1, cs => do
    let (item, rest) ← readValue? bound cs
    match rest.dropWhile isBlank with
    | ',' :: rest =>
      let (items, rest) ← readItems? bound rest
      return (item :: items, rest)
    | ']' :: rest => return ([item], rest)
    | _ => none

/-- At least one member, up to the end of the object. -/
def readMembers? : Nat → List Char → Option (List (String × Json) × List Char)
  | 0, _ => none
  | bound + 1, cs =>
    match cs.dropWhile isBlank with
    | '"' :: rest => do
      let (name, rest) ← readText? rest
      match rest.dropWhile isBlank with
      | ':' :: rest =>
        let (value, rest) ← readValue? bound rest
        match rest.dropWhile isBlank with
        | ',' :: rest =>
          let (members, rest) ← readMembers? bound rest
          return ((name, value) :: members, rest)
        | '}' :: rest => return ([(name, value)], rest)
        | _ => none
      | _ => none
    | _ => none

end

/-- The document that a text is. -/
def read? (cs : List Char) : Option Json :=
  match readValue? (2 * cs.length + 1) cs with
  | some (j, rest) => if rest.all isBlank then some j else none
  | none => none

/-! ### What is read back -/

/-- Documents whose numbers are integers of at most 53 bits. -/
inductive Whole : Json → Prop
  | null : Whole null
  | boolean (b : Bool) : Whole (boolean b)
  | number (i : Int) (safe : i.natAbs ≤ Number.maxSafe) : Whole (number (Number.ofInt i))
  | text (s : String) : Whole (text s)
  | array (items : List Json) (each : ∀ j ∈ items, Whole j) : Whole (array items)
  | object (members : List (String × Json)) (each : ∀ e ∈ members, Whole e.2) :
      Whole (object members)

/-- A text that does not continue a number. -/
def Ends (rest : List Char) : Prop :=
  ∀ c ∈ rest.head?, c.isDigit = false ∧ c ≠ '.' ∧ c ≠ 'e' ∧ c ≠ 'E'

variable {rest : List Char}

/-! ### Texts -/

/-- An escaped character is read as its code units. -/
theorem readUnits?_escape (c : Char) (rest : List Char) :
    readUnits? (escape c ++ rest)
      = (readUnits? rest).bind fun (us, rest) => some (halves c ++ us, rest) := by
  by_cases quote : c = '"'
  · subst quote
    rfl
  by_cases backslash : c = '\\'
  · subst backslash
    rfl
  by_cases control : c.val.toNat < 32
  · -- Every control character has an escape of its own.
    have small : c.toNat < 32 := control
    rw [← Char.ofNat_toNat c]
    generalize c.toNat = n at small
    interval_cases n <;> rfl
  · have plain : escape c = [c] := by
      rw [escape, if_neg quote, if_neg backslash, if_neg control]
    have printable : ¬ c.toNat < 32 := control
    rw [plain, List.singleton_append, readUnits?.eq_def]
    split
    · next h => cases h
    · next h => exact absurd (List.cons.inj h).1 quote
    · next h => exact absurd (List.cons.inj h).1 backslash
    · next h => exact absurd (List.cons.inj h).1 backslash
    · next h =>
        cases h
        rw [if_neg printable]
        rfl

/-- A quoted text is read as its code units. -/
theorem readUnits?_quote (cs rest : List Char) :
    readUnits? (cs.flatMap escape ++ '"' :: rest) = some (codeUnits cs, rest) := by
  induction cs with
  | nil => rw [List.flatMap_nil, List.nil_append, readUnits?, codeUnits]
  | cons c cs ih =>
      rw [List.flatMap_cons, List.append_assoc, readUnits?_escape, ih]
      rfl

theorem readText?_quote (s : String) (rest : List Char) :
    readText? (s.toList.flatMap escape ++ '"' :: rest) = some (s, rest) := by
  rw [readText?, readUnits?_quote, Option.map_some]
  simp only [ofCodeUnits_codeUnits, String.ofList_toList]

/-! ### Numbers -/

theorem readRun?_digits {digits : List Char} (some : digits ≠ [])
    (all : ∀ c ∈ digits, c.isDigit = true) (ends : ∀ c ∈ rest.head?, c.isDigit = false) :
    readRun? (digits ++ rest) = .some (digits, rest) := by
  have none : rest.takeWhile Char.isDigit = [] ∧ rest.dropWhile Char.isDigit = rest := by
    cases rest with
    | nil => exact ⟨rfl, rfl⟩
    | cons c rest =>
        have stop : c.isDigit = false := ends c rfl
        rw [List.takeWhile_cons, List.dropWhile_cons, stop]
        exact ⟨rfl, rfl⟩
  rw [readRun?, List.takeWhile_append_of_pos all, List.dropWhile_append_of_pos all, none.1, none.2,
    List.append_nil, if_neg some]

theorem readFraction?_ends (ends : Ends rest) : readFraction? rest = some ([], rest) := by
  unfold readFraction?
  split
  · exact absurd rfl (ends '.' rfl).2.1
  · rfl

theorem readExponent?_ends (ends : Ends rest) : readExponent? rest = some (0, rest) := by
  unfold readExponent?
  split
  · exact absurd rfl (ends 'e' rfl).2.2.1
  · exact absurd rfl (ends 'E' rfl).2.2.2
  · rfl

/-- The digits of an integer are read as the nearest double. -/
theorem readNumber?_toDigits (negative : Bool) (n : Nat) (ends : Ends rest) :
    readNumber? negative (Nat.toDigits 10 n ++ rest)
      = some (number (Number.ofScientific negative n 0), rest) := by
  rcases toDigits_eq_cons n with ⟨c, cs, digits, -, zero⟩
  have all : ∀ d ∈ Nat.toDigits 10 n, d.isDigit = true :=
    fun d hd => Nat.isDigit_of_mem_toDigits (by decide) (by decide) hd
  have run : readRun? (Nat.toDigits 10 n ++ rest) = some (Nat.toDigits 10 n, rest) :=
    readRun?_digits (by rw [digits]; exact List.cons_ne_nil c cs) all fun d hd => (ends d hd).1
  have canonical : ¬ ((Nat.toDigits 10 n).head? = some '0' ∧ (Nat.toDigits 10 n).length ≠ 1) := by
    rw [digits, List.head?_cons]
    rintro ⟨leading, several⟩
    rw [zero (Option.some.inj leading)] at several
    exact several rfl
  rw [readNumber?, run]
  change (readFraction? rest).bind _ = _
  rw [readFraction?_ends ends]
  change (readExponent? rest).bind _ = _
  rw [readExponent?_ends ends]
  change (Number.readDigits? 10 0 (Nat.toDigits 10 n ++ [])).bind _ = _
  rw [List.append_nil, readDigits?_toDigits]
  exact if_neg canonical

/-- An integer is read back. -/
theorem readSimple?_integer {i : Int} (safe : i.natAbs ≤ Number.maxSafe) (ends : Ends rest) :
    readSimple? ((integerText i).toList ++ rest) = some (number (Number.ofInt i), rest) := by
  have back := readNumber?_toDigits (decide (i < 0)) i.natAbs ends
  rw [Number.ofScientific_ofInt safe] at back
  rw [integerText, String.toList_ofList, ← back]
  by_cases negative : i < 0
  · rw [if_pos negative, decide_eq_true negative]
    rfl
  · rw [if_neg negative, decide_eq_false negative, List.nil_append]
    rcases toDigits_eq_cons i.natAbs with ⟨c, cs, digits, digit, -⟩
    rw [digits, List.cons_append]
    unfold readSimple?
    split
    all_goals first
      | rfl
      | next h =>
          rw [(List.cons.inj h).1] at digit
          cases digit

/-! ### Documents -/

theorem ends_cons {c : Char} (sign : c = ',' ∨ c = ']' ∨ c = '}') : Ends (c :: rest) := by
  intro d hd
  cases Option.some.inj hd
  rcases sign with rfl | rfl | rfl <;> decide

/-- The text of an integer as a number. -/
theorem print_ofInt {i : Int} (safe : i.natAbs ≤ Number.maxSafe) :
    (number (Number.ofInt i)).print = (integerText i).toList := by
  have finite : ∃ negative significand exponent,
      Number.ofInt i = .finite negative significand exponent := by
    rw [Number.ofInt, Number.dyadic]
    split <;> exact ⟨_, _, _, rfl⟩
  rcases finite with ⟨negative, significand, exponent, same⟩
  rw [print, ← Number.text_ofInt safe, same, printNumber]

/-- What an integer begins with. -/
theorem integerText_eq_cons (i : Int) :
    ∃ c cs, (integerText i).toList = c :: cs ∧ (c = '-' ∨ c.isDigit = true) := by
  rcases toDigits_eq_cons i.natAbs with ⟨c, cs, digits, digit, -⟩
  rw [integerText, String.toList_ofList]
  split
  · exact ⟨_, _, rfl, .inl rfl⟩
  · exact ⟨c, cs, digits, .inr digit⟩

theorem isBlank_sign {c : Char} (sign : c = '-' ∨ c.isDigit = true) : isBlank c = false := by
  have other : ∀ b : Char, b ≠ '-' → b.isDigit = false → decide (c = b) = false := by
    intro b minus digit
    rw [decide_eq_false_iff_not]
    rintro rfl
    rcases sign with same | same
    · exact minus same
    · rw [same] at digit
      cases digit
  simp only [isBlank, other ' ' (by decide) rfl, other '\t' (by decide) rfl,
    other '\n' (by decide) rfl, other '\r' (by decide) rfl, Bool.or_self]

/-- What a document begins with. -/
theorem print_eq_cons {j : Json} (whole : j.Whole) :
    ∃ c cs, j.print = c :: cs ∧ isBlank c = false ∧ c ≠ ']' := by
  cases whole with
  | null => exact ⟨_, _, rfl, by decide, by decide⟩
  | boolean b => cases b <;> exact ⟨_, _, rfl, by decide, by decide⟩
  | number i safe =>
      rcases integerText_eq_cons i with ⟨c, cs, same, sign⟩
      refine ⟨c, cs, (print_ofInt safe).trans same, isBlank_sign sign, ?_⟩
      rintro rfl
      rcases sign with h | h <;> cases h
  | text s => exact ⟨_, _, rfl, by decide, by decide⟩
  | array items _ => exact ⟨_, _, by rw [print]; rfl, by decide, by decide⟩
  | object members _ => exact ⟨_, _, by rw [print]; rfl, by decide, by decide⟩

/-- A document is read back in front of anything that ends it, with enough depth. -/
def ReadBack (j : Json) : Prop :=
  ∀ n rest, 2 * j.print.length < n → Ends rest → readValue? n (j.print ++ rest) = some (j, rest)

/-- Items are read back if each of them is. -/
theorem readItems?_print {items : List Json} (some : items ≠ [])
    (back : ∀ j ∈ items, j.ReadBack) {n : Nat}
    (enough : 2 * (printItems items).length + 2 ≤ n) :
    readItems? n (printItems items ++ ']' :: rest) = .some (items, rest) := by
  induction items generalizing n with
  | nil => exact absurd rfl some
  | cons item items ih =>
      obtain ⟨m, rfl⟩ : ∃ m, n = m + 1 := ⟨n - 1, by omega⟩
      have first := back item List.mem_cons_self m
      cases items with
      | nil =>
          rw [printItems] at enough ⊢
          rw [readItems?, first (']' :: rest) (by omega) (ends_cons (.inr (.inl rfl)))]
          rfl
      | cons next items =>
          rw [printItems, List.length_append, List.length_cons] at enough
          have others := ih (List.cons_ne_nil next items)
            (fun j hj => back j (List.mem_cons_of_mem item hj)) (n := m) (by omega)
          rw [printItems, List.append_assoc, List.cons_append, readItems?,
            first (',' :: (printItems (next :: items) ++ ']' :: rest)) (by omega)
              (ends_cons (.inl rfl))]
          change (readItems? m (printItems (next :: items) ++ ']' :: rest)).bind _ = _
          rw [others]
          rfl

/-- Members are read back if each of their documents is. -/
theorem readMembers?_print {members : List (String × Json)} (some : members ≠ [])
    (back : ∀ e ∈ members, e.2.ReadBack) {n : Nat}
    (enough : 2 * (printMembers members).length + 2 ≤ n) :
    readMembers? n (printMembers members ++ '}' :: rest) = .some (members, rest) := by
  induction members generalizing n with
  | nil => exact absurd rfl some
  | cons e members ih =>
      rcases e with ⟨name, value⟩
      obtain ⟨m, rfl⟩ : ∃ m, n = m + 1 := ⟨n - 1, by omega⟩
      -- Up to the end of its value, a member is read the same whatever follows.
      have member : ∀ tail, Ends tail → 2 * value.print.length < m →
          readMembers? (m + 1) (quote name.toList ++ ':' :: (value.print ++ tail))
            = match tail.dropWhile isBlank with
              | ',' :: rest => (readMembers? m rest).bind fun (members, rest) =>
                .some ((name, value) :: members, rest)
              | '}' :: rest => .some ([(name, value)], rest)
              | _ => none := by
        intro tail ends deep
        rw [quote, List.cons_append, List.cons_append, List.append_assoc, List.singleton_append,
          readMembers?]
        change (readText? (name.toList.flatMap escape ++ '"' :: _)).bind _ = _
        rw [readText?_quote]
        change (readValue? m (value.print ++ tail)).bind _ = _
        rw [back _ List.mem_cons_self m tail deep ends]
        rfl
      cases members with
      | nil =>
          rw [printMembers, List.length_append, List.length_cons] at enough
          rw [printMembers, List.append_assoc, List.cons_append,
            member _ (ends_cons (.inr (.inr rfl))) (by omega)]
          rfl
      | cons next members =>
          rw [printMembers, List.length_append, List.length_cons, List.length_append,
            List.length_cons] at enough
          have others := ih (List.cons_ne_nil next members)
            (fun e he => back e (List.mem_cons_of_mem _ he)) (n := m) (by omega)
          rw [printMembers, List.append_assoc, List.cons_append, List.append_assoc,
            List.cons_append, member _ (ends_cons (.inl rfl)) (by omega)]
          change (readMembers? m (printMembers (next :: members) ++ '}' :: rest)).bind _ = _
          rw [others]
          rfl

/-- What is no text, array or object is read as a number or a word. -/
theorem readValue?_simple {c : Char} {cs : List Char} (solid : isBlank c = false)
    (other : c ≠ '"' ∧ c ≠ '[' ∧ c ≠ '{') (n : Nat) :
    readValue? (n + 1) (c :: cs) = readSimple? (c :: cs) := by
  rw [readValue?, List.dropWhile_cons, solid]
  change (match c :: cs with
    | '"' :: rest => _
    | '[' :: rest => _
    | '{' :: rest => _
    | rest => readSimple? rest) = _
  split
  · next h => exact absurd (List.cons.inj h).1 other.1
  · next h => exact absurd (List.cons.inj h).1 other.2.1
  · next h => exact absurd (List.cons.inj h).1 other.2.2
  · rfl

theorem readBack_text (s : String) : (text s).ReadBack := by
  rintro (_ | n) rest enough ends
  · omega
  · rw [print, quote, List.cons_append, List.cons_append, List.append_assoc,
      List.singleton_append, readValue?]
    change (readText? (s.toList.flatMap escape ++ '"' :: rest)).map _ = _
    rw [readText?_quote]
    rfl

theorem readBack_ofInt {i : Int} (safe : i.natAbs ≤ Number.maxSafe) :
    (number (Number.ofInt i)).ReadBack := by
  rintro (_ | n) rest enough ends
  · omega
  · rw [print_ofInt safe, ← readSimple?_integer safe ends]
    -- A sign or a digit comes first, so this is no text, array or object.
    rcases integerText_eq_cons i with ⟨c, cs, same, sign⟩
    rw [same, List.cons_append]
    refine readValue?_simple (isBlank_sign sign) ?_ n
    refine ⟨?_, ?_, ?_⟩ <;> rintro rfl <;> rcases sign with h | h <;> cases h

/-- What stands behind the bracket of an array that is not empty. -/
theorem printItems_eq_cons {item : Json} (whole : item.Whole) (items : List Json) :
    ∃ c cs, printItems (item :: items) = c :: cs ∧ isBlank c = false ∧ c ≠ ']' := by
  rcases print_eq_cons whole with ⟨c, cs, same, solid, apart⟩
  cases items with
  | nil => exact ⟨c, _, by rw [printItems, same], solid, apart⟩
  | cons next items => exact ⟨c, _, by rw [printItems, same, List.cons_append], solid, apart⟩

/-- An array is read back if its items are. -/
theorem readBack_array {items : List Json} (whole : ∀ j ∈ items, j.Whole)
    (each : ∀ j ∈ items, j.ReadBack) : (array items).ReadBack := by
  rintro (_ | n) rest enough ends
  · omega
  · rw [print, List.length_append, List.length_cons, List.length_singleton] at enough
    rw [print, List.append_assoc, List.cons_append, List.singleton_append, readValue?]
    cases items with
    | nil => rfl
    | cons item items =>
        have back : readItems? n (printItems (item :: items) ++ ']' :: rest)
            = some (item :: items, rest) :=
          readItems?_print (List.cons_ne_nil item items) each (by omega)
        rcases printItems_eq_cons (whole item List.mem_cons_self) items with
          ⟨c, cs, same, solid, apart⟩
        rw [same, List.cons_append] at back ⊢
        -- The first item does not begin like the end of the array, so items are read.
        change (match (c :: (cs ++ ']' :: rest)).dropWhile isBlank with
          | ']' :: _ => _
          | rest => (readItems? n rest).map _) = _
        rw [List.dropWhile_cons, solid]
        change (match c :: (cs ++ ']' :: rest) with
          | ']' :: _ => _
          | rest => (readItems? n rest).map _) = _
        split
        · next h => exact absurd (List.cons.inj h).1 apart
        · rw [back]
          rfl

/-- An object is read back if the documents of its members are. -/
theorem readBack_object {members : List (String × Json)} (each : ∀ e ∈ members, e.2.ReadBack) :
    (object members).ReadBack := by
  rintro (_ | n) rest enough ends
  · omega
  · rw [print, List.length_append, List.length_cons, List.length_singleton] at enough
    rw [print, List.append_assoc, List.cons_append, List.singleton_append, readValue?]
    cases members with
    | nil => rfl
    | cons e members =>
        have back : readMembers? n (printMembers (e :: members) ++ '}' :: rest)
            = some (e :: members, rest) :=
          readMembers?_print (List.cons_ne_nil e members) each (by omega)
        -- The name of the first member begins with a quote, so members are read.
        have begins : ∃ cs, printMembers (e :: members) ++ '}' :: rest = '"' :: cs := by
          cases members with
          | nil => exact ⟨_, rfl⟩
          | cons next members => exact ⟨_, rfl⟩
        rcases begins with ⟨cs, same⟩
        rw [same] at back ⊢
        change (readMembers? n ('"' :: cs)).map _ = _
        rw [back]
        rfl

/-- Every document whose numbers are integers is read back. -/
theorem Whole.readBack {j : Json} (whole : j.Whole) : j.ReadBack := by
  induction whole with
  | null =>
      rintro (_ | n) rest enough ends
      · omega
      · rfl
  | boolean b =>
      rintro (_ | n) rest enough ends
      · omega
      · cases b <;> rfl
  | text s => exact readBack_text s
  | number i safe => exact readBack_ofInt safe
  | array items each ih => exact readBack_array each ih
  | object members each ih => exact readBack_object ih

/-- Reading a document back. -/
theorem read?_print {j : Json} (whole : j.Whole) : read? j.print = some j := by
  have back := whole.readBack (2 * j.print.length + 1) [] (Nat.lt_succ_self _) nofun
  rw [List.append_nil] at back
  rw [read?, back]
  rfl

end Json

end Stencil
