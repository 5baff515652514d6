import Stencil.Calendar
import Stencil.Text.Blank

/-!
# Reading Dates

The instant that a text names.

A text in the extended format is read strictly: a year of four digits, or of
six with a sign, then perhaps month and day, and behind a `T` the time of day
with an offset. Without an offset the time is taken as UTC.

Any other text is read freely. Numbers are parts of the time if a colon follows
or the time has begun, and parts of the date otherwise; names of months and of
zones count by their first letters, and words in front of the first number
count for nothing, nor does what is in parentheses. Of a date in numbers the
month comes first unless the first number cannot be a day, and years below 100
are those around 2000.

## Main definitions

* `Token`, `Token.ofText`: What a text is made of.
* `Reading`: What has been read so far.
* `Reading.strict`, `Reading.free`: The two ways of reading.
* `Instant.read?`: The instant that a text names.
-/

namespace Stencil

/-- What a word in a date means. -/
inductive DateWord where
  | month (n : Nat)
  /-- The half of a day, by the hour at which it starts. -/
  | half (start : Nat)
  /-- A zone, by its offset in hours, and whether it is named by one letter. -/
  | zone (hours : Int) (short : Bool)
  /-- What stands between a date and a time. -/
  | separator
  | unknown
deriving DecidableEq

/-- What a text is made of. -/
inductive Token where
  /-- A number and how many digits it has. -/
  | number (n length : Nat)
  | sign (c : Char)
  | word (w : DateWord)
  | blank
  | other
deriving DecidableEq

namespace Token

/-- The words that mean something, by their first three letters. -/
def words : List (String × DateWord) :=
  [("jan", .month 1), ("feb", .month 2), ("mar", .month 3), ("apr", .month 4), ("may", .month 5),
    ("jun", .month 6), ("jul", .month 7), ("aug", .month 8), ("sep", .month 9), ("oct", .month 10),
    ("nov", .month 11), ("dec", .month 12), ("am", .half 0), ("pm", .half 12),
    ("ut", .zone 0 false), ("utc", .zone 0 false), ("z", .zone 0 true), ("gmt", .zone 0 false),
    ("cdt", .zone (-5) false), ("cst", .zone (-6) false), ("edt", .zone (-4) false),
    ("est", .zone (-5) false), ("mdt", .zone (-6) false), ("mst", .zone (-7) false),
    ("pdt", .zone (-7) false), ("pst", .zone (-8) false), ("t", .separator)]

/-- What a word means. Only the names of months may be longer than the letters
    that count. -/
def ofWord (cs : List Char) : Token :=
  match words.lookup (String.ofList ((cs.take 3).map Char.toLower)) with
  | some (.month n) => .word (.month n)
  | some w => .word (if cs.length ≤ 3 then w else .unknown)
  | none => .word .unknown

/-- The value of the first nine digits behind leading zeros. -/
def valueOf (digits : List Char) : Nat :=
  ((digits.dropWhile (· == '0')).take 9).foldl (fun n c => 10 * n + (c.toNat - '0'.toNat)) 0

/-- Whether a character belongs to a word. -/
def isWordChar (c : Char) : Bool :=
  'A' ≤ c && !isBlank c

/-- What is left of a text behind the parenthesis that closes one of so many
    open ones. -/
def skipParentheses : Nat → List Char → List Char
  | 0, cs => cs
  | _, [] => []
  | depth + 1, c :: cs =>
    if c = ')' then skipParentheses depth cs
    else if c = '(' then skipParentheses (depth + 2) cs
    else skipParentheses (depth + 1) cs

/-- The tokens of a text, with a bound on their number. -/
def ofTextWithin : Nat → List Char → List Token
  | 0, _ => []
  | _, [] => []
  | bound + 1, c :: cs =>
    if c.isDigit then
      let digits := c :: cs.takeWhile Char.isDigit
      .number (valueOf digits) digits.length :: ofTextWithin bound (cs.dropWhile Char.isDigit)
    else if [':', '-', '+', '.', ')'].contains c then .sign c :: ofTextWithin bound cs
    else if isWordChar c then
      ofWord (c :: cs.takeWhile isWordChar) :: ofTextWithin bound (cs.dropWhile isWordChar)
    else if isBlank c then .blank :: ofTextWithin bound (cs.dropWhile isBlank)
    else if c = '(' then .other :: ofTextWithin bound (skipParentheses 1 cs)
    else .other :: ofTextWithin bound cs

/-- The tokens of a text, which ends at a NUL. -/
def ofText (s : String) : List Token :=
  ofTextWithin (s.length + 1) (s.toList.takeWhile (· ≠ '\x00'))

end Token

/-- What has been read of a date: the numbers of the day and of the time in
    their order, and the offset from UTC with its sign. -/
structure Reading where
  day : List Int := []
  month : Option Nat := none
  extended : Bool := false
  time : List Nat := []
  half : Option Nat := none
  negative : Option Bool := none
  hour : Option Nat := none
  minute : Option Nat := none
  hasNumber : Bool := false
deriving DecidableEq

namespace Reading

/-- Whether a number is that of a day. -/
def isDay (n : Int) : Bool := 1 ≤ n && n ≤ 31

/-- Whether a number is that of a month. -/
def isMonth (n : Int) : Bool := 1 ≤ n && n ≤ 12

/-- Whether a number is one of minutes or of seconds. -/
def isSixtieth (n : Nat) : Bool := n < 60

/-- Another part of the date, of which there are three. -/
def addDay? (s : Reading) (n : Int) : Option Reading :=
  if s.day.length < 3 then some { s with day := s.day ++ [n] } else none

/-- Another part of the time, of which there are four. -/
def addTime? (s : Reading) (n : Nat) : Option Reading :=
  if s.time.length < 4 then some { s with time := s.time ++ [n] } else none

/-- The last part of the time. Where there are four already, it counts for
    nothing. -/
def endTime (s : Reading) (n : Nat) : Reading :=
  { s with time := (s.time ++ n :: List.replicate 4 0).take 4 }

/-- Whether a number can be the next part of a time that has begun. -/
def expects (s : Reading) (n : Nat) : Bool :=
  match s.time.length with
  | 1 | 2 => isSixtieth n
  | 3 => n < 1000
  | _ => false

/-- A zone with an offset in hours. -/
def inZone (s : Reading) (hours : Int) : Reading :=
  { s with negative := some (hours < 0), hour := some hours.natAbs, minute := some 0 }

/-- Milliseconds from the digits behind a point. -/
def milliseconds (n length : Nat) : Nat :=
  if length ≤ 3 then n * tenTo (3 - length) else n / tenTo (min length 9 - 3)

/-! ### The extended format -/

/-- How strict reading ends. -/
inductive Strict where
  | complete (s : Reading)
  | refused
  /-- The text has another format from some token on. -/
  | rest (s : Reading) (ts : List Token)

/-- The offset behind a time of day. -/
def strictOffset (s : Reading) (ts : List Token) : Strict :=
  let offset (c : Char) (hour minute : Nat) (rest : List Token) : Strict :=
    if rest = [] && hour < 24 && isSixtieth minute then
      .complete { s with negative := some (c == '-'), hour := some hour, minute := some minute }
    else .refused
  match ts with
  | [] => .complete s
  | [.word (.zone 0 true)] => .complete (s.inZone 0)
  | .sign c :: .number n 4 :: rest =>
    if c = '+' || c = '-' then offset c (n / 100) (n % 100) rest else .refused
  | .sign c :: .number hour 2 :: .sign ':' :: .number minute 2 :: rest =>
    if c = '+' || c = '-' then offset c hour minute rest else .refused
  | _ => .refused

/-- The time of day. The end of a day is its hour 24. -/
def strictTime (s : Reading) (ts : List Token) : Strict :=
  match ts with
  | .number hour 2 :: .sign ':' :: .number minute 2 :: rest =>
    let fits (n : Nat) : Bool := isSixtieth n && (hour < 24 || n = 0)
    if 24 < hour || !fits minute then .refused
    else
      match rest with
      | .sign ':' :: .number second 2 :: .sign '.' :: .number n length :: rest =>
        if fits second && (hour < 24 || n = 0) then
          strictOffset { s with time := [hour, minute, second, milliseconds n length] } rest
        else .refused
      | .sign ':' :: .number second 2 :: rest =>
        if fits second then strictOffset { s with time := [hour, minute, second] } rest
        else .refused
      | .sign ':' :: _ => .refused
      | rest => strictOffset { s with time := [hour, minute] } rest
  | _ => .refused

/-- What follows a date. A date alone is one in UTC. -/
def strictRest (s : Reading) (ts : List Token) : Strict :=
  match ts with
  | [] => .complete { s.inZone 0 with extended := true }
  | .word .separator :: rest => strictTime { s with extended := true } rest
  | ts => .rest s ts

/-- The day of the month, if there is one. -/
def strictDay (s : Reading) (ts : List Token) : Strict :=
  match ts with
  | .sign '-' :: .number n 2 :: rest =>
    if isDay n then strictRest { s with day := s.day ++ [(n : Int)] } rest
    else .rest s (.number n 2 :: rest)
  | .sign '-' :: rest => .rest s rest
  | ts => strictRest s ts

/-- The month, if there is one. -/
def strictMonth (year : Int) (ts : List Token) : Strict :=
  let s : Reading := { day := [year], hasNumber := true }
  match ts with
  | .sign '-' :: .number n 2 :: rest =>
    if isMonth n then strictDay { s with day := [year, n] } rest
    else .rest s (.number n 2 :: rest)
  | .sign '-' :: rest => .rest s rest
  | ts => strictRest s ts

/-- A date in the extended format. -/
def strict (ts : List Token) : Strict :=
  match ts with
  | .number n 4 :: rest => strictMonth n rest
  | .sign '+' :: .number n 6 :: rest => strictMonth n rest
  | .sign '-' :: .number n 6 :: rest =>
    if n = 0 then .rest {} (.sign '-' :: rest) else strictMonth (-n) rest
  | ts => .rest {} ts

/-! ### Other formats -/

/-- Whether what follows may follow the last part of a time. -/
def mayFollowTime : List Token → Bool
  | [] | .blank :: _ | .word (.zone 0 true) :: _ => true
  | .sign c :: _ => c == '+' || c == '-'
  | _ => false

/-- The tokens without a sign in front of them. -/
def skip (c : Char) : List Token → List Token
  | .sign d :: rest => if c = d then rest else .sign d :: rest
  | ts => ts

/-- Reading a number, with what follows it. -/
def freeNumber (s : Reading) (n : Nat) (ts : List Token) : Option (Reading × List Token) :=
  match ts with
  | .sign ':' :: .sign ':' :: rest =>
    if s.time = [] then some ({ s with time := [n, 0] }, rest) else none
  | .sign ':' :: rest => do return (← s.addTime? n, skip '.' rest)
  | ts =>
    let rest := skip '.' ts
    if rest ≠ ts && s.expects n then do
      match rest with
      | .number ms length :: rest =>
        return ((← s.addTime? n).endTime (milliseconds ms length), rest)
      | _ => none
    else if s.hour.isSome && s.minute.isNone && isSixtieth n then
      some ({ s with minute := some n }, rest)
    else if s.expects n then
      if mayFollowTime rest then some (s.endTime n, rest) else none
    else do return (← s.addDay? n, skip '-' rest)

/-- Reading a word, with what follows it. -/
def freeWord (s : Reading) (w : DateWord) (ts : List Token) : Option (Reading × List Token) :=
  let unknown : Option (Reading × List Token) :=
    if s.hasNumber then none
    else
      match ts with
      | .number _ _ :: _ => none
      | ts => some (s, ts)
  match w with
  | .half start => if s.time = [] then unknown else some ({ s with half := some start }, ts)
  | .month n => some ({ s with month := some n }, skip '-' ts)
  | .zone hours _ => if s.hasNumber then some (s.inZone hours, ts) else unknown
  | .separator | .unknown => unknown

/-- Reading an offset behind its sign. -/
def freeOffset (s : Reading) (c : Char) (ts : List Token) : Option (Reading × List Token) :=
  let (n, length, rest) := match ts with
    | .number n length :: rest => (n, length, rest)
    | ts => (0, 0, ts)
  let s := { s with negative := some (c == '-'), hasNumber := true }
  match rest with
  | .sign ':' :: _ => some ({ s with hour := some n, minute := none }, rest)
  | _ =>
    if length = 1 || length = 2 then some ({ s with hour := some n, minute := some 0 }, rest)
    else if length = 3 || length = 4 then
      some ({ s with hour := some (n / 100), minute := some (n % 100) }, rest)
    else none

/-- Reading a sign, with what follows it. -/
def freeSign (s : Reading) (c : Char) (ts : List Token) : Option (Reading × List Token) :=
  let signed := c == '+' || c == '-'
  if signed && ((s.hour = some 0 && s.minute = some 0) || s.time ≠ []) then freeOffset s c ts
  else if (signed || c == ')') && s.hasNumber then none
  else some (s, ts)

/-- Reading tokens, at most so many. -/
def free : Nat → Reading → List Token → Option Reading
  | 0, s, _ => some s
  | _, s, [] => some s
  | bound + 1, s, t :: ts =>
    let step := match t with
      | .number n _ => freeNumber { s with hasNumber := true } n ts
      | .word w => freeWord s w ts
      | .sign c => freeSign s c ts
      | .blank | .other => some (s, ts)
    match step with
    | some (s, ts) => free bound s ts
    | none => none

/-! ### Instants -/

/-- Year, month and day. -/
def civil? (s : Reading) : Option (Int × Int × Int) :=
  match s.day ++ List.replicate (3 - s.day.length) 1 with
  | [a, b, c] =>
    let (year, month, day) := match s.month with
      | none => if s.extended || !isDay a then (a, b, c) else (c, a, b)
      | some month => if isDay a then (b, (month : Int), a) else (a, (month : Int), b)
    let year :=
      if s.extended then year
      else if 0 ≤ year ∧ year < 50 then year + 2000
      else if 50 ≤ year ∧ year < 100 then year + 1900
      else year
    if s.day ≠ [] && isMonth month && isDay day then some (year, month, day) else none
  | _ => none

/-- Milliseconds since midnight. -/
def clock? (s : Reading) : Option Nat :=
  match s.time ++ List.replicate (4 - s.time.length) 0 with
  | [hour, minute, second, ms] => do
    let hour ← match s.half with
      | none => some hour
      | some start => if hour ≤ 12 then some (hour % 12 + start) else none
    let whole := ((hour * 60 + minute) * 60 + second) * 1000 + ms
    if hour < 24 && isSixtieth minute && isSixtieth second && ms < 1000 then return whole
    else if whole = 24 * 3600000 && hour = 24 then return whole
    else none
  | _ => none

/-- The offset from UTC in milliseconds. Its seconds are counted with 32 bits,
    of which the highest has to stay clear. -/
def offset? (s : Reading) : Option Int :=
  let seconds : Nat := (s.hour.getD 0 * 60 + s.minute.getD 0) * 60 % twoTo 32
  match s.negative with
  | none => some 0
  | some negative =>
    if twoTo 31 ≤ seconds then none
    else some (if negative then -(seconds * 1000 : Nat) else (seconds * 1000 : Nat))

end Reading

namespace Instant

/-- How many days a calendar day is after the first of 1970. -/
def daysOf (year month day : Int) : Int :=
  let year := if month ≤ 2 then year - 1 else year
  let era := year / 400
  let yearOfEra := year % 400
  let dayOfYear := (153 * ((month + 9) % 12) + 2) / 5 + day - 1
  era * 146097 + yearOfEra * 365 + yearOfEra / 4 - yearOfEra / 100 + dayOfYear - 719468

/-- The instant that a reading comes to. -/
def ofReading? (s : Reading) : Option Instant := do
  let (year, month, day) ← s.civil?
  let ms := daysOf year month day * 86400000 + (← s.clock?) - (← s.offset?)
  if -reach ≤ ms ∧ ms ≤ reach then return ms else none

/-- The instant that a text names. -/
def read? (s : String) : Option Instant :=
  let ts := Token.ofText s
  match Reading.strict ts with
  | .complete s => ofReading? s
  | .refused => none
  | .rest s ts => do ofReading? (← Reading.free (ts.length + 1) s ts)

end Instant

end Stencil
