import Weave.Moment.Basic

/-!
# Reading moments

A moment is written as a day, a time of the day, both, or as a distance from now or from
the day that is given. A day without a time begins at midnight. The parts may come in any
order, each of them once.
-/
namespace Weave.Moment

/-- A piece of the text of a moment. -/
inductive Piece where
  | number (sign : Option Char) (digits : Bytes)
  | word (letters : Bytes)
  | mark (c : Char)
deriving Repr, DecidableEq

/-- The pieces of a text, with gaps as marks of their own. The number bounds how many
there are. -/
def pieces : Nat → Bytes → List Piece
  | 0, _ => []
  | _, [] => []
  | fuel + 1, c :: rest =>
    let isLetter (c : Char) : Bool := c.isAlpha
    if c.isDigit then
      let digits := (c :: rest).takeWhile Char.isDigit
      .number none digits :: pieces fuel ((c :: rest).drop digits.length)
    else if isLetter c then
      let letters := (c :: rest).takeWhile isLetter
      .word (letters.map Char.toLower) :: pieces fuel ((c :: rest).drop letters.length)
    else if (c = '+' || c = '-') && rest.head?.any Char.isDigit then
      let digits := rest.takeWhile Char.isDigit
      .number (some c) digits :: pieces fuel (rest.drop digits.length)
    else if c = ' ' || c = '\t' || c = ',' || c = '\n' then
      match pieces fuel rest with
      | .mark ' ' :: more => .mark ' ' :: more
      | more => .mark ' ' :: more
    else .mark c :: pieces fuel rest

def value (digits : Bytes) : Nat :=
  digits.foldl (fun n d => n * 10 + (d.toNat - 48)) 0

/-- What has been read of a moment. -/
structure Reading where
  day : Option (Int × Nat × Nat) := none
  /-- Hours, minutes, seconds and nanoseconds. -/
  clock : Option (Nat × Nat × Nat × Nat) := none
  /-- How many minutes the zone is ahead. -/
  ahead : Option Int := none
  weekday : Option Nat := none
  months : Int := 0
  days : Int := 0
  nanos : Int := 0
  /-- Whether there is a distance. -/
  isShifted : Bool := false
deriving Repr, DecidableEq

/-- How long a unit is: months, days and seconds. -/
def units : List (String × Int × Int × Int) :=
  [("year", 12, 0, 0), ("month", 1, 0, 0), ("fortnight", 0, 14, 0), ("week", 0, 7, 0),
   ("day", 0, 1, 0), ("hour", 0, 0, 3600), ("minute", 0, 0, 60), ("min", 0, 0, 60),
   ("second", 0, 0, 1), ("sec", 0, 0, 1)]

def unit? (word : Bytes) : Option (Int × Int × Int) :=
  let plain := if word.getLast? = some 's' then word.dropLast else word
  (units.lookup (String.ofList plain)).or (units.lookup (String.ofList word))

def shift (r : Reading) (n : Int) (u : Int × Int × Int) : Reading :=
  { r with
    months := r.months + n * u.1, days := r.days + n * u.2.1
    nanos := r.nanos + n * u.2.2 * perSecond, isShifted := true }

/-- The place of a name in a list, of which three letters are enough. -/
def indexOf? (names : List String) (word : Bytes) : Option Nat :=
  names.findIdx? fun name =>
    let name := name.toLower.toList
    name = word || (name.take 3 = word)

def setDay? (r : Reading) (year : Int) (month day : Nat) : Option Reading :=
  if r.day.isSome || month < 1 || 12 < month || day < 1 || daysInMonth year month < day then none
  else some { r with day := some (year, month, day) }

/-- A year of two digits lies in the hundred years that begin with 1969. -/
def fullYear (digits : Bytes) : Int :=
  let n : Int := value digits
  if digits.length ≤ 2 then (if n < 69 then n + 2000 else n + 1900) else n

def setClock? (r : Reading) (hour minute second nano : Nat) : Option Reading :=
  if r.clock.isSome || 23 < hour || 59 < minute || 60 < second then none
  else some { r with clock := some (hour, minute, second, nano) }

/-- The nanoseconds that digits behind a point make. -/
def fraction (digits : Bytes) : Nat :=
  let kept := digits.take 9
  value (kept ++ List.replicate (9 - kept.length) '0')

/-- An hour of half a day. -/
def hourOf (hour : Nat) (half : Bytes) : Option Nat :=
  if hour < 1 || 12 < hour then none
  else if half = "am".toList then some (hour % 12)
  else if half = "pm".toList then some (hour % 12 + 12)
  else none

/-- A zone that begins with its sign: hours and maybe minutes. -/
def aheadOf (sign : Char) (digits : Bytes) (minutes : Nat) : Int :=
  let n : Int := if digits.length ≤ 2 then value digits * 60 + minutes
    else value digits / 100 * 60 + value digits % 100
  if sign = '-' then -n else n

def isZone (word : Bytes) : Bool :=
  ["z", "utc", "gmt", "ut"].any fun z => z.toList = word

/-- Goes on behind a time of the day: half a day, or a zone. -/
def behindClock (r : Reading) (hour minute second nano : Nat) (rest : List Piece) :
    Option (Reading × List Piece) := do
  match rest with
  | .number (some sign) digits :: .mark ':' :: .number none minutes :: rest =>
    return ({ (← setClock? r hour minute second nano) with
      ahead := some (aheadOf sign digits (value minutes)) }, rest)
  | .number (some sign) digits :: rest =>
    return ({ (← setClock? r hour minute second nano) with
      ahead := some (aheadOf sign digits 0) }, rest)
  | .mark ' ' :: .word half :: rest =>
    match hourOf hour half with
    | some hour => return (← setClock? r hour minute second nano, rest)
    | none => return (← setClock? r hour minute second nano, .word half :: rest)
  | .word half :: rest =>
    match hourOf hour half with
    | some hour => return (← setClock? r hour minute second nano, rest)
    | none => return (← setClock? r hour minute second nano, .word half :: rest)
  | rest => return (← setClock? r hour minute second nano, rest)

/-- Reads the next part of a moment. -/
def readPart (now : Moment) (r : Reading) : List Piece → Option (Reading × List Piece)
  | .mark ' ' :: rest => some (r, rest)
  | .number none y :: .number (some '-') m :: .number (some '-') d :: rest => do
    let r ← setDay? r (fullYear y) (value m) (value d)
    match rest with
    | .word ['t'] :: rest => return (r, rest)
    | rest => return (r, rest)
  | .number none a :: .mark '/' :: .number none b :: .mark '/' :: .number none c :: rest => do
    if a.length = 4 then return (← setDay? r (value a) (value b) (value c), rest)
    else return (← setDay? r (fullYear c) (value a) (value b), rest)
  | .number none a :: .mark '/' :: .number none b :: rest => do
    return (← setDay? r now.year (value a) (value b), rest)
  | .number none h :: .mark ':' :: .number none m :: .mark ':' :: .number none s :: .mark '.'
      :: .number none f :: rest =>
    behindClock r (value h) (value m) (value s) (fraction f) rest
  | .number none h :: .mark ':' :: .number none m :: .mark ':' :: .number none s :: rest =>
    behindClock r (value h) (value m) (value s) 0 rest
  | .number none h :: .mark ':' :: .number none m :: rest =>
    behindClock r (value h) (value m) 0 0 rest
  | .number none d :: .mark ' ' :: .word w :: .mark ' ' :: .number none y :: rest =>
    dayThenMonth r d w y rest
  | .word w :: .mark ' ' :: .number none d :: .mark ' ' :: .number none y :: rest =>
    monthThenDay r w d y rest
  | .number sign n :: .mark ' ' :: .word w :: rest => counted r sign n w rest
  | .number sign n :: .word w :: rest => counted r sign n w rest
  | .number (some sign) n :: rest =>
    if r.clock.isSome && r.ahead.isNone then
      some ({ r with ahead := some (aheadOf sign n 0) }, rest)
    else none
  | .number none n :: rest => do
    if n.length = 8 then
      let (y, m, d) := (value (n.take 4), value ((n.drop 4).take 2), value (n.drop 6))
      return (← setDay? r y m d, rest)
    else if n.length = 4 then return (← setClock? r (value (n.take 2)) (value (n.drop 2)) 0 0, rest)
    else if n.length ≤ 2 then return (← setClock? r (value n) 0 0 0, rest)
    else none
  | .word w :: rest => named r w rest
  | _ => none
where
  dayThenMonth (r : Reading) (d w y : Bytes) (rest : List Piece) :
      Option (Reading × List Piece) := do
    match indexOf? monthNames w with
    | some m => return (← setDay? r (fullYear y) (m + 1) (value d), rest)
    | none => counted r none d w (.mark ' ' :: .number none y :: rest)
  monthThenDay (r : Reading) (w d y : Bytes) (rest : List Piece) :
      Option (Reading × List Piece) := do
    match indexOf? monthNames w with
    | some m =>
      match rest with
      | .mark ':' :: _ =>
        return (← setDay? r now.year (m + 1) (value d), .number none y :: rest)
      | _ => return (← setDay? r (fullYear y) (m + 1) (value d), rest)
    | none => named r w (.mark ' ' :: .number none d :: .mark ' ' :: .number none y :: rest)
  counted (r : Reading) (sign : Option Char) (n w : Bytes) (rest : List Piece) :
      Option (Reading × List Piece) := do
    let count : Int := if sign = some '-' then -value n else value n
    match unit? w, hourOf (value n) w, indexOf? monthNames w with
    | some u, _, _ =>
      match rest with
      | .mark ' ' :: .word ago :: rest =>
        if ago = "ago".toList then return (shift r (-count) u, rest)
        else return (shift r count u, .mark ' ' :: .word ago :: rest)
      | rest => return (shift r count u, rest)
    | none, some hour, _ => return (← setClock? r hour 0 0 0, rest)
    | none, none, some m => return (← setDay? r now.year (m + 1) (value n), rest)
    | none, none, none =>
      if (isZone w || (indexOf? dayNames w).isSome) && sign.isNone then
        return (← setClock? r (value n) 0 0 0, .word w :: rest)
      else none
  named (r : Reading) (w : Bytes) (rest : List Piece) : Option (Reading × List Piece) := do
    match String.ofList w with
    | "now" => return ({ r with isShifted := true }, rest)
    | "today" => return ({ r with isShifted := true }, rest)
    | "yesterday" => return (shift r (-1) (0, 1, 0), rest)
    | "tomorrow" => return (shift r 1 (0, 1, 0), rest)
    | "noon" => return (← setClock? r 12 0 0 0, rest)
    | "midnight" => return (← setClock? r 0 0 0 0, rest)
    | "next" => relative r 1 rest
    | "last" => relative r (-1) rest
    | "this" => relative r 0 rest
    | _ =>
      match indexOf? dayNames w, indexOf? monthNames w, rest with
      | some d, _, rest => return ({ r with weekday := some d }, rest)
      | none, some m, .mark ' ' :: .number none d :: rest =>
        return (← setDay? r now.year (m + 1) (value d), rest)
      | _, _, rest =>
        if isZone w then return ({ r with ahead := some 0 }, rest)
        else
          let (u) ← unit? w
          match rest with
          | .mark ' ' :: .word ago :: rest =>
            if ago = "ago".toList then return (shift r (-1) u, rest)
            else return (shift r 1 u, .mark ' ' :: .word ago :: rest)
          | rest => return (shift r 1 u, rest)
  relative (r : Reading) (n : Int) (rest : List Piece) : Option (Reading × List Piece) := do
    match rest with
    | .mark ' ' :: .word w :: rest => return (shift r n (← unit? w), rest)
    | _ => none

/-- Reads all parts. The number bounds how many there are. -/
def readParts (now : Moment) : Nat → Reading → List Piece → Option Reading
  | _, r, [] => some r
  | 0, _, _ => none
  | fuel + 1, r, ps => do
    let (r, rest) ← readPart now r ps
    readParts now fuel r rest

/-- The time that has been read, where now is given. -/
def Reading.time (r : Reading) (now : Moment) : Int :=
  let (year, month, day) := r.day.getD (now.year, now.month, now.day)
  let isPlain := r.day.isNone && r.clock.isNone && r.weekday.isNone && r.isShifted
  let (hour, minute, second, nano) := r.clock.getD
    (if isPlain then (now.hour, now.minute, now.second, now.nano) else (0, 0, 0, 0))
  let day := dayNumber year (month + r.months) (day + r.days)
  let day := match r.weekday, r.day with
    | some d, none => day + ((d : Int) - (day + 4)) % 7
    | _, _ => day
  (day * 86400 + hour * 3600 + minute * 60 + second - r.ahead.getD 0 * 60) * perSecond + nano
    + r.nanos

/-- The seconds behind an at sign. -/
def ofSeconds? (t : Bytes) : Option Int :=
  let (negative, t) := if t.head? = some '-' then (true, t.drop 1) else (false, t)
  let whole := t.takeWhile Char.isDigit
  let part := t.drop whole.length
  let n : Int := value whole * perSecond
  if whole = [] then none
  else if part = [] then some (if negative then -n else n)
  else if part.head? = some '.' && (part.drop 1).all Char.isDigit then
    some (if negative then -n - fraction (part.drop 1) else n + fraction (part.drop 1))
  else none

/-- The time that a text tells. -/
def read? (now : Int) (t : Bytes) : Option Int :=
  match t.dropWhile (· = ' ') with
  | '@' :: seconds => ofSeconds? seconds
  | t =>
    let today := ofTime now
    (readParts today (2 * t.length + 1) {} (pieces t.length t)).map fun r => r.time today

/-- The time that a row of digits tells: maybe a year, then month, day, hour and minute,
and maybe seconds behind a point. -/
def ofDigits? (now : Int) (t : Bytes) : Option Int := do
  let digits := t.takeWhile Char.isDigit
  let second ← match t.drop digits.length with
    | [] => some 0
    | ['.', a, b] => if a.isDigit && b.isDigit then some (value [a, b]) else none
    | _ => none
  let n := digits.length
  if n != 8 && n != 10 && n != 12 then none
  else
    let year := if n = 8 then (ofTime now).year else fullYear (digits.take (n - 8))
    let rest := digits.drop (n - 8)
    let two (i : Nat) : Nat := value ((rest.drop i).take 2)
    let r ← setClock? (← setDay? {} year (two 0) (two 2)) (two 4) (two 6) second 0
    return r.time (ofTime now)

example : ["2020-01-01", "@1.5", "Jan 1 2020 00:00", "2020-01-02 1 day ago", "2020-13-01"].map
    (fun t => read? 0 t.toList) =
    [some 1577836800000000000, some 1500000000, some 1577836800000000000,
     some 1577836800000000000, none] := by decide +kernel

end Weave.Moment
