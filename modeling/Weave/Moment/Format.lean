import Weave.Moment.Basic

/-!
# Moments as text

A format is a text with signs behind percent marks, each of which stands for a part of a
moment: its year, the name of its day, and so on. Between the mark and the sign may stand
how a number is filled up, and to which width. All times are those of the zone of
Greenwich.
-/
namespace Weave.Moment

/-- How a part is filled up. -/
inductive Fill where
  | zeros
  | blanks
  | nothing
deriving Repr, DecidableEq

/-- What a sign asks for. -/
structure Sign where
  fill : Option Fill := none
  isUpper : Bool := false
  swaps : Bool := false
  width : Option Nat := none
  colons : Nat := 0
deriving Repr, DecidableEq

def filled (s : Sign) (usual : Fill) (width : Nat) (n : Int) : Bytes :=
  let digits := Text.ofNat n.natAbs
  let sign := if n < 0 then ['-'] else []
  let width := s.width.getD width
  let gap := width - digits.length - sign.length
  match s.fill.getD usual with
  | .zeros => sign ++ List.replicate gap '0' ++ digits
  | .blanks => List.replicate gap ' ' ++ sign ++ digits
  | .nothing => sign ++ digits

def named (s : Sign) (name : String) : Bytes :=
  let t := name.toList
  let t := if s.isUpper || s.swaps then t.map Char.toUpper else t
  let gap := s.width.getD 0 - t.length
  List.replicate gap (if s.fill = some .zeros then '0' else ' ') ++ t

/-- A name that is swapped into the small letters. -/
def lowered (s : Sign) (name : String) : Bytes :=
  named { s with isUpper := false, swaps := false }
    (if s.swaps then name.toLower else name)

def take3 (name : String) : String := String.ofList (name.toList.take 3)

/-- The hour of half a day. -/
def hour12 (m : Moment) : Nat := if m.hour % 12 = 0 then 12 else m.hour % 12

/-- The distance to the zone of Greenwich. -/
def zone (colons : Nat) : Bytes :=
  (match colons with
    | 0 => "+0000"
    | 1 => "+00:00"
    | 2 => "+00:00:00"
    | _ => "+00").toList

/-- What other formats some signs stand for. -/
def compounds : List (Char × String) :=
  [('D', "%m/%d/%y"), ('F', "%Y-%m-%d"), ('T', "%H:%M:%S"), ('R', "%H:%M"), ('r', "%I:%M:%S %p"),
   ('c', "%a %b %e %H:%M:%S %Y"), ('x', "%m/%d/%y"), ('X', "%H:%M:%S")]

/-- The part of a moment that a letter stands for. -/
def part? (m : Moment) (s : Sign) (c : Char) : Option Bytes :=
  let month := (monthNames[m.month - 1]?).getD ""
  let day := (dayNames[m.weekday]?).getD ""
  let two (n : Int) : Option Bytes := some (filled s .zeros 2 n)
  match c with
  | 'Y' => some (filled s .zeros 1 m.year)
  | 'C' => two (m.year / 100)
  | 'y' => two (m.year % 100)
  | 'm' => two m.month
  | 'd' => two m.day
  | 'e' => some (filled s .blanks 2 m.day)
  | 'H' => two m.hour
  | 'k' => some (filled s .blanks 2 m.hour)
  | 'I' => two (hour12 m)
  | 'l' => some (filled s .blanks 2 (hour12 m))
  | 'M' => two m.minute
  | 'S' => two m.second
  | 'N' =>
    let digits := filled {} .zeros 9 m.nano
    some (match s.fill with
      | some .nothing => (digits.reverse.dropWhile (· = '0')).reverse
      | _ => (digits.take (s.width.getD 9)) ++ List.replicate (s.width.getD 9 - 9) '0')
  | 's' => some (filled s .zeros 1 (m.time / perSecond))
  | 'j' => some (filled s .zeros 3 (m.dayOfYear + 1))
  | 'u' => some (filled s .zeros 1 (if m.weekday = 0 then 7 else m.weekday))
  | 'w' => some (filled s .zeros 1 m.weekday)
  | 'U' => two ((m.dayOfYear + 7 - m.weekday) / 7)
  | 'W' => two ((m.dayOfYear + 7 - (m.weekday + 6) % 7) / 7)
  | 'V' => two m.week.2
  | 'G' => some (filled s .zeros 1 m.week.1)
  | 'g' => two (m.week.1 % 100)
  | 'q' => some (filled s .zeros 1 ((m.month + 2) / 3))
  | 'a' => some (named s (take3 day))
  | 'A' => some (named s day)
  | 'b' => some (named s (take3 month))
  | 'h' => some (named s (take3 month))
  | 'B' => some (named s month)
  | 'p' => some (lowered s (if m.hour < 12 then "AM" else "PM"))
  | 'P' => some (lowered s (if m.hour < 12 then "am" else "pm"))
  | 'z' => some (zone s.colons)
  | 'Z' => some (lowered s "UTC")
  | 'n' => some ['\n']
  | 't' => some ['\t']
  | '%' => some ['%']
  | _ => none

/-- The marks between a percent sign and its letter, and what is behind them. -/
def readSign : Nat → Bytes → Sign → Sign × Bytes
  | 0, t, s => (s, t)
  | fuel + 1, t, s =>
    match t with
    | '-' :: rest => readSign fuel rest { s with fill := some .nothing }
    | '_' :: rest => readSign fuel rest { s with fill := some .blanks }
    | '0' :: rest => readSign fuel rest { s with fill := some .zeros }
    | '^' :: rest => readSign fuel rest { s with isUpper := true }
    | '#' :: rest => readSign fuel rest { s with swaps := true }
    | ':' :: rest => readSign fuel rest { s with colons := s.colons + 1 }
    | c :: rest =>
      if c.isDigit then
        let digits := (c :: rest).takeWhile Char.isDigit
        let n := digits.foldl (fun n d => n * 10 + (d.toNat - 48)) 0
        readSign fuel ((c :: rest).drop digits.length) { s with width := some n }
      else (s, t)
    | [] => (s, t)

/-- A moment by a format. The number bounds how long the format is, with what some signs
stand for. -/
def format (m : Moment) : Nat → Bytes → Bytes
  | 0, _ => []
  | _, [] => []
  | fuel + 1, '%' :: rest =>
    let (sign, behind) := readSign rest.length rest {}
    match behind with
    | [] => '%' :: rest
    | c :: behind =>
      match compounds.lookup c, part? m sign c with
      | some inner, _ =>
        let t := format m fuel inner.toList
        let t := if sign.isUpper then t.map Char.toUpper else t
        List.replicate (sign.width.getD 0 - t.length) ' ' ++ t ++ format m fuel behind
      | none, some t => t ++ format m fuel behind
      | none, none =>
        '%' :: rest.take (rest.length - behind.length) ++ format m fuel behind
  | fuel + 1, c :: rest => c :: format m fuel rest

/-- A moment by a format. -/
def shownBy (m : Moment) (t : String) : Bytes :=
  m.format (t.length + 32) t.toList

example : String.ofList ((ofTime 86399000000000).shownBy "%a %-d %_m %^b %F %T %10Y|%E") =
    "Thu 1  1 JAN 1970-01-01 23:59:59 0000001970|%E" := by decide +kernel

end Weave.Moment
