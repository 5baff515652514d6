import Stencil.Bytes.Base64
import Stencil.Bytes.Utf8

/-!
# Octets as Text and Back

What reading UTF-8 and writing base64 leave of octets: everything.

Octets are well-formed UTF-8 if they are what some characters are written as, each by
itself. For one character `Utf8.Spells` lists what is possible, a row for each length,
and that is exactly how characters are written: each row has a character, and each
character is in a row. The ranges of the second octet are what makes the first half
true. Without them there would be rows for code points that belong to a shorter one,
for surrogates, and for code points beyond the last.

Base64 is read strictly. Four characters are one group, the last group may be padded,
and the bits of a digit that no octet takes have to be zero. What octets are written as
is read like that.

## Main definitions

* `Utf8.IsWellFormed`: Octets that characters are written as.
* `Utf8.Spells`: The octets of one character.
* `Utf8.withoutMark`: Octets without a byte order mark.
* `Base64.decode?`: The octets that a text stands for.

## Theorems

* `Utf8.decode?_eq_some_iff`: Which characters octets stand for.
* `Utf8.exists_read?_iff`: Only octets that are not well-formed cannot be read.
* `Utf8.toUTF8_of_read?`: What is read is written as the octets, without a byte order
  mark.
* `Base64.decode?_encode`: The text of octets stands for them.
-/

namespace Stencil

theorem toNat_octet {n : Nat} (small : n < 256) : (UInt8.ofNat n).toNat = n := by
  rw [UInt8.toNat_ofNat']
  omega

theorem octet_eq {n : Nat} {a : UInt8} (same : n = a.toNat) : UInt8.ofNat n = a := by
  rw [same, UInt8.ofNat_toNat]

namespace Utf8

/-- Whether octets are what some characters are written as. -/
def IsWellFormed (octets : List UInt8) : Prop :=
  octets.toByteArray.IsValidUTF8

/-- The octets of one character and its code point. -/
inductive Spells : List UInt8 → Nat → Prop
  | one (a : UInt8) (first : a.toNat < 0x80) : Spells [a] a.toNat
  | two (a b : UInt8) (first : 0xC2 ≤ a.toNat ∧ a.toNat ≤ 0xDF)
      (second : within 0x80 0xBF b = true) :
      Spells [a, b] ((a.toNat - 0xC0) * 64 + payload b)
  | three (a b c : UInt8) (first : 0xE0 ≤ a.toNat ∧ a.toNat ≤ 0xEF)
      (second : within (secondRange a.toNat).1 (secondRange a.toNat).2 b = true)
      (third : within 0x80 0xBF c = true) :
      Spells [a, b, c] ((a.toNat - 0xE0) * 4096 + payload b * 64 + payload c)
  | four (a b c d : UInt8) (first : 0xF0 ≤ a.toNat ∧ a.toNat ≤ 0xF4)
      (second : within (secondRange a.toNat).1 (secondRange a.toNat).2 b = true)
      (third : within 0x80 0xBF c = true) (fourth : within 0x80 0xBF d = true) :
      Spells [a, b, c, d]
        ((a.toNat - 0xF0) * 262144 + payload b * 4096 + payload c * 64 + payload d)

/-- Octets without a byte order mark in front of them. -/
def withoutMark : List UInt8 → List UInt8
  | 0xEF :: 0xBB :: 0xBF :: rest => rest
  | octets => octets

variable {w rest octets : List UInt8} {n m : Nat} {a b : UInt8} {c : Char} {cs : List Char}

/-! ### One octet -/

theorem within_iff {low high : Nat} :
    within low high b = true ↔ low ≤ b.toNat ∧ b.toNat ≤ high := by
  simp only [within, Bool.and_eq_true, decide_eq_true_eq]

/-- The octets that continue a character are in one range. -/
theorem continues_iff (b : UInt8) :
    within 0x80 0xBF b = true ↔ 0x80 ≤ b.toNat ∧ b.toNat ≤ 0xBF :=
  within_iff

/-- An octet that continues a character carries what is above `80`. -/
theorem toNat_eq_payload (continues : within 0x80 0xBF b = true) :
    b.toNat = payload b + 0x80 ∧ payload b < 0x40 := by
  have range := within_iff.mp continues
  rw [payload]
  omega

/-- The second octet continues the character as the others do. Its narrow ranges keep out
    what is overlong, the surrogates, and what is beyond the last code point. -/
theorem second_iff :
    within (secondRange n).1 (secondRange n).2 b = true ↔
      within 0x80 0xBF b = true ∧ (n = 0xE0 → 0xA0 ≤ b.toNat) ∧ (n = 0xED → b.toNat ≤ 0x9F)
        ∧ (n = 0xF0 → 0x90 ≤ b.toNat) ∧ (n = 0xF4 → b.toNat ≤ 0x8F) := by
  rw [within_iff, within_iff, secondRange]
  split
  · omega
  split
  · omega
  split
  · omega
  split <;> omega

/-! ### One character -/

namespace Spells

theorem cast (spells : Spells w m) (same : m = n) : Spells w n :=
  same ▸ spells

/-- Every row has a code point that is a character. -/
theorem valid (spells : Spells w n) : n.isValidChar := by
  change n < 0xD800 ∨ 0xDFFF < n ∧ n < 0x110000
  cases spells with
  | one a first => omega
  | two a b first second =>
      have := toNat_eq_payload second
      omega
  | three a b c first second third =>
      rcases second_iff.mp second with ⟨second, overlong, surrogate, -, -⟩
      have := toNat_eq_payload second
      have := toNat_eq_payload third
      omega
  | four a b c d first second third fourth =>
      rcases second_iff.mp second with ⟨second, -, -, overlong, beyond⟩
      have := toNat_eq_payload second
      have := toNat_eq_payload third
      have := toNat_eq_payload fourth
      omega

/-- The octets of a row are how its character is written. -/
theorem eq_encode (spells : Spells w n) : w = String.utf8EncodeChar (Char.ofNat n) := by
  have code : (Char.ofNat n).val.toNat = n := by
    rw [Char.ofNat, dif_pos spells.valid]
    rfl
  rw [String.utf8EncodeChar, code]
  cases spells with
  | one a first => rw [if_pos (by omega), UInt8.ofNat_toNat]
  | two a b first second =>
      have := toNat_eq_payload second
      rw [if_neg (by omega), if_pos (by omega), octet_eq (a := a) (by omega),
        octet_eq (a := b) (by omega)]
  | three a b c first second third =>
      rcases second_iff.mp second with ⟨second, overlong, -, -, -⟩
      have := toNat_eq_payload second
      have := toNat_eq_payload third
      rw [if_neg (by omega), if_neg (by omega), if_pos (by omega), octet_eq (a := a) (by omega),
        octet_eq (a := b) (by omega), octet_eq (a := c) (by omega)]
  | four a b c d first second third fourth =>
      rcases second_iff.mp second with ⟨second, -, -, overlong, -⟩
      have := toNat_eq_payload second
      have := toNat_eq_payload third
      have := toNat_eq_payload fourth
      rw [if_neg (by omega), if_neg (by omega), if_neg (by omega), octet_eq (a := a) (by omega),
        octet_eq (a := b) (by omega), octet_eq (a := c) (by omega), octet_eq (a := d) (by omega)]

/-- The octets that a character is written as are a row. -/
theorem encode (c : Char) : Spells (String.utf8EncodeChar c) c.val.toNat := by
  have valid : c.val.toNat < 0xD800 ∨ 0xDFFF < c.val.toNat ∧ c.val.toNat < 0x110000 := c.valid
  rw [String.utf8EncodeChar]
  generalize c.val.toNat = n at valid
  -- The octets as numbers again; `low`, `middle` and `high` are what they carry.
  split
  · next one =>
      have first := toNat_octet (n := n) (by omega)
      exact (Spells.one (.ofNat n) (by omega)).cast first
  have last : (UInt8.ofNat (n % 0x40 + 0x80)).toNat = n % 0x40 + 0x80 := toNat_octet (by omega)
  have continues := continues_iff (.ofNat (n % 0x40 + 0x80))
  have low := toNat_eq_payload (continues.mpr (by omega))
  split
  · next one two =>
      have first := toNat_octet (n := n / 64 % 0x20 + 0xC0) (by omega)
      refine Spells.cast (.two _ _ (by omega) (continues.mpr (by omega))) (by omega)
  have inner : (UInt8.ofNat (n / 64 % 0x40 + 0x80)).toNat = n / 64 % 0x40 + 0x80 :=
    toNat_octet (by omega)
  have goesOn := continues_iff (.ofNat (n / 64 % 0x40 + 0x80))
  have middle := toNat_eq_payload (goesOn.mpr (by omega))
  split
  · next one two three =>
      have first := toNat_octet (n := n / 4096 % 0x10 + 0xE0) (by omega)
      refine Spells.cast (.three _ _ _ (by omega) (second_iff.mpr ⟨goesOn.mpr (by omega), ?_⟩)
        (continues.mpr (by omega))) (by omega)
      omega
  · next one two three =>
      have first := toNat_octet (n := n / 262144 % 0x08 + 0xF0) (by omega)
      have second : (UInt8.ofNat (n / 4096 % 0x40 + 0x80)).toNat = n / 4096 % 0x40 + 0x80 :=
        toNat_octet (by omega)
      have starts := continues_iff (.ofNat (n / 4096 % 0x40 + 0x80))
      have high := toNat_eq_payload (starts.mpr (by omega))
      refine Spells.cast (.four _ _ _ _ (by omega) (second_iff.mpr ⟨starts.mpr (by omega), ?_⟩)
        (goesOn.mpr (by omega)) (continues.mpr (by omega))) (by omega)
      omega

/-- What a row starts with is read as its character. -/
theorem decode?_append (spells : Spells w n) (rest : List UInt8) :
    decode? (w ++ rest) = (decode? rest).map (Char.ofNat n :: ·) := by
  rw [decode?.eq_def]
  cases spells with
  | one a first => simp only [List.cons_append, List.nil_append, first, if_true]
  | two a b first second =>
      simp only [List.cons_append, List.nil_append]
      rw [if_neg (by omega), if_pos first, if_pos second]
  | three a b c first second third =>
      simp only [List.cons_append, List.nil_append]
      rw [if_neg (by omega), if_neg (by omega), if_pos first]
      simp only [second, third, Bool.and_self, if_true]
  | four a b c d first second third fourth =>
      simp only [List.cons_append, List.nil_append]
      rw [if_neg (by omega), if_neg (by omega), if_neg (by omega), if_pos first]
      simp only [second, third, fourth, Bool.and_self, if_true]

end Spells

/-- Octets that are read start with a row. -/
theorem exists_spells (decoded : decode? (a :: octets) = some cs) :
    ∃ w rest n, a :: octets = w ++ rest ∧ Spells w n
      ∧ (decode? rest).map (Char.ofNat n :: ·) = some cs := by
  rw [decode?.eq_def] at decoded
  dsimp only at decoded
  split at decoded
  · next first => exact ⟨[a], octets, _, rfl, .one a first, decoded⟩
  split at decoded
  · next first =>
      split at decoded
      · next b rest =>
          split at decoded
          · next second => exact ⟨[a, b], rest, _, rfl, .two a b first second, decoded⟩
          · cases decoded
      · cases decoded
  split at decoded
  · next first =>
      split at decoded
      · next b c rest =>
          split at decoded
          · next valid =>
              rcases Bool.and_eq_true_iff.mp valid with ⟨second, third⟩
              exact ⟨[a, b, c], rest, _, rfl, .three a b c first second third, decoded⟩
          · cases decoded
      · cases decoded
  split at decoded
  · next first =>
      split at decoded
      · next b c d rest =>
          split at decoded
          · next valid =>
              rcases Bool.and_eq_true_iff.mp valid with ⟨valid, fourth⟩
              rcases Bool.and_eq_true_iff.mp valid with ⟨second, third⟩
              exact ⟨[a, b, c, d], rest, _, rfl, .four a b c d first second third fourth, decoded⟩
          · cases decoded
      · cases decoded
  cases decoded

/-! ### All of them -/

/-- Octets stand for the characters that they are written as. -/
theorem decode?_eq_some_iff :
    decode? octets = some cs ↔ octets = cs.flatMap String.utf8EncodeChar := by
  constructor
  · intro decoded
    induction cs generalizing octets with
    | nil =>
        cases octets with
        | nil => rfl
        | cons a octets =>
            rcases exists_spells decoded with ⟨w, rest, n, -, -, mapped⟩
            rcases Option.map_eq_some_iff.mp mapped with ⟨tail, -, same⟩
            cases same
    | cons c cs ih =>
        cases octets with
        | nil => cases decoded
        | cons a octets =>
            rcases exists_spells decoded with ⟨w, rest, n, parts, spells, mapped⟩
            rcases Option.map_eq_some_iff.mp mapped with ⟨tail, there, same⟩
            cases same
            rw [parts, List.flatMap_cons, ← spells.eq_encode, ih there]
  · rintro rfl
    induction cs with
    | nil => rfl
    | cons c cs ih =>
        have same : Char.ofNat c.val.toNat = c := Char.ofNat_toNat c
        rw [List.flatMap_cons, (Spells.encode c).decode?_append, ih, same]
        rfl

theorem isWellFormed_iff :
    IsWellFormed octets ↔ ∃ cs : List Char, octets = cs.flatMap String.utf8EncodeChar := by
  constructor
  · rintro ⟨cs, same⟩
    refine ⟨cs, ?_⟩
    have same := congrArg (fun bytes : ByteArray => bytes.data.toList) same
    rwa [List.utf8Encode, List.toList_data_toByteArray, List.toList_data_toByteArray] at same
  · rintro ⟨cs, rfl⟩
    exact ⟨cs, rfl⟩

theorem exists_decode?_iff : (∃ cs, decode? octets = some cs) ↔ IsWellFormed octets := by
  simp only [isWellFormed_iff, decode?_eq_some_iff]

instance : Decidable (IsWellFormed octets) :=
  decidable_of_iff ((decode? octets).isSome = true)
    (by rw [Option.isSome_iff_exists, exists_decode?_iff])

theorem read?_eq : read? octets = decode? (withoutMark octets) := by
  rw [read?.eq_def]
  split
  · rfl
  · next other => rw [withoutMark.eq_2 octets other]

/-- A byte order mark is a character, so that octets are well-formed with it if they are
    without. -/
theorem isWellFormed_withoutMark : IsWellFormed (withoutMark octets) ↔ IsWellFormed octets := by
  rw [withoutMark.eq_def]
  split
  · next rest =>
      have mark : Spells [0xEF, 0xBB, 0xBF] 0xFEFF := .three 0xEF 0xBB 0xBF (by decide) rfl rfl
      have append := mark.decode?_append rest
      rw [← exists_decode?_iff, ← exists_decode?_iff]
      change _ ↔ ∃ cs, decode? ([0xEF, 0xBB, 0xBF] ++ rest) = some cs
      rw [append]
      cases decode? rest with
      | none => exact ⟨nofun, nofun⟩
      | some cs => exact ⟨fun _ => ⟨_, rfl⟩, fun _ => ⟨_, rfl⟩⟩
  · rfl

/-- Only octets that are not well-formed cannot be read. -/
theorem exists_read?_iff : (∃ cs, read? octets = some cs) ↔ IsWellFormed octets := by
  rw [read?_eq, exists_decode?_iff, isWellFormed_withoutMark]

/-- The text that is read is written as the octets, except for a byte order mark. -/
theorem toUTF8_of_read? (reads : read? octets = some cs) :
    (String.ofList cs).toUTF8 = (withoutMark octets).toByteArray := by
  rw [read?_eq] at reads
  rw [String.toUTF8_eq_toByteArray, String.toByteArray_ofList, List.utf8Encode,
    decode?_eq_some_iff.mp reads]

end Utf8

namespace Base64

/-- The digit that a character stands for. -/
def value? (c : Char) : Option Nat :=
  alphabet.idxOf? c

/-- The octets that a text stands for. It consists of groups of four characters, only the
    last of which may be padded, and what its padding cuts off from a digit is zero. -/
def decode? : List Char → Option (List UInt8)
  | [] => some []
  | [x, y, '=', '='] => do
    let a ← value? x
    let b ← value? y
    if b % 16 = 0 then some [.ofNat (a * 4 + b / 16)] else none
  | [x, y, z, '='] => do
    let a ← value? x
    let b ← value? y
    let c ← value? z
    if c % 4 = 0 then some [.ofNat (a * 4 + b / 16), .ofNat (b % 16 * 16 + c / 4)] else none
  | x :: y :: z :: u :: rest => do
    let a ← value? x
    let b ← value? y
    let c ← value? z
    let d ← value? u
    let octets ← decode? rest
    return .ofNat (a * 4 + b / 16) :: .ofNat (b % 16 * 16 + c / 4) :: .ofNat (c % 4 * 64 + d)
      :: octets
  | _ => none

variable {n : Nat}

theorem value?_digit (small : n < 64) : value? (digit n) = some n := by
  have all : ∀ n : Fin 64, value? (digit n) = some n.val := by decide +kernel
  exact all ⟨n, small⟩

theorem digit_ne_pad (small : n < 64) : digit n ≠ '=' := by
  intro same
  have none : value? '=' = none := by decide +kernel
  rw [← same, value?_digit small] at none
  cases none

/-- The text of octets stands for them. -/
theorem decode?_encode (octets : List UInt8) : decode? (encode octets) = some octets := by
  fun_induction encode octets with
  | case1 => rfl
  | case2 a n =>
      have := a.toNat_lt
      have first : UInt8.ofNat (n / 64 * 4 + n % 64 / 16) = a := octet_eq (by omega)
      rw [decode?, value?_digit (by omega), value?_digit (by omega)]
      -- The bits of the last digit that are cut off are those that the shift has brought in.
      change (if n % 64 % 16 = 0 then _ else _) = _
      rw [if_pos (by omega), first]
  | case3 a b n =>
      have := a.toNat_lt
      have := b.toNat_lt
      have first : UInt8.ofNat (n / 4096 * 4 + n / 64 % 64 / 16) = a := octet_eq (by omega)
      have second : UInt8.ofNat (n / 64 % 64 % 16 * 16 + n % 64 / 4) = b := octet_eq (by omega)
      rw [decode?, value?_digit (by omega), value?_digit (by omega), value?_digit (by omega)]
      · change (if n % 64 % 4 = 0 then _ else _) = _
        rw [if_pos (by omega), first, second]
      -- A digit is no padding, so the row of two digits does not apply.
      · exact fun pad => absurd pad (digit_ne_pad (by omega))
  | case4 a b c rest n ih =>
      have := a.toNat_lt
      have := b.toNat_lt
      have := c.toNat_lt
      have first : UInt8.ofNat (n / 262144 * 4 + n / 4096 % 64 / 16) = a := octet_eq (by omega)
      have second : UInt8.ofNat (n / 4096 % 64 % 16 * 16 + n / 64 % 64 / 4) = b :=
        octet_eq (by omega)
      have third : UInt8.ofNat (n / 64 % 64 % 4 * 64 + n % 64) = c := octet_eq (by omega)
      rw [decode?, value?_digit (by omega), value?_digit (by omega), value?_digit (by omega),
        value?_digit (by omega), ih]
      · change some _ = _
        rw [first, second, third]
      · exact fun pad => absurd pad (digit_ne_pad (by omega))
      · exact fun pad => absurd pad (digit_ne_pad (by omega))

end Base64

end Stencil
