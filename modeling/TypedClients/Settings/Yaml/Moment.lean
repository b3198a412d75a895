import TypedClients.Failure
import TypedClients.Settings.Calendar
import TypedClients.Settings.Numeral

/-!
# Dates and times in YAML

The form of dates and times, and which of them exist.
-/
namespace TypedClients.Settings.Yaml

open TypedClients.Text

/-- The distance from universal time. -/
structure Offset where
  west : Bool
  hours : Nat
  minutes : Nat
  deriving DecidableEq, Repr

structure TimeOfDay where
  hour : Nat
  minute : Nat
  second : Nat
  offset : Option Offset
  deriving DecidableEq, Repr

structure Moment where
  year : Nat
  month : Nat
  day : Nat
  time : Option TimeOfDay
  deriving DecidableEq, Repr

/-- Exactly so many digits, and what follows. -/
def exactDigits (count : Nat) (cs : List Char) : Option (Nat × List Char) :=
  let ds := cs.take count
  if ds.length = count ∧ ds.all isDigit then some (decimalValue ds, cs.drop count) else none

/-- One or two digits, as many as there are. -/
def shortDigits (cs : List Char) : Option (Nat × List Char) := exactDigits 2 cs <|> exactDigits 1 cs

/-- What follows a character that has to come next. -/
def after (c : Char) : List Char → Option (List Char)
  | d :: cs => if c = d then some cs else none
  | [] => none

def skipBlanks (cs : List Char) : List Char := cs.dropWhile fun c => c == ' ' || c == '\t'

/-- The offset that ends a time; `none` inside if the time has none. -/
def readOffset (cs : List Char) : Option (Option Offset) :=
  let hours (west : Bool) (cs : List Char) : Option (Option Offset) := do
    let (hours, cs) ← shortDigits cs
    match cs with
    | [] => return some ⟨west, hours, 0⟩
    | cs => do
        let (minutes, cs) ← exactDigits 2 (← after ':' cs)
        guard cs.isEmpty
        return some ⟨west, hours, minutes⟩
  match cs, skipBlanks cs with
  | [], _ => some none
  | _, ['Z'] => some none
  | _, '+' :: cs => hours false cs
  | _, '-' :: cs => hours true cs
  | _, _ => none

/-- What follows the mark between date and time. -/
def afterSeparator : List Char → Option (List Char)
  | 'T' :: cs | 't' :: cs => some cs
  | cs => if (skipBlanks cs).length < cs.length then some (skipBlanks cs) else none

def readTime (cs : List Char) : Option TimeOfDay := do
  let (hour, cs) ← shortDigits cs
  let (minute, cs) ← exactDigits 2 (← after ':' cs)
  let (second, cs) ← exactDigits 2 (← after ':' cs)
  let cs := match cs with
    | '.' :: rest => rest.dropWhile isDigit
    | cs => cs
  return ⟨hour, minute, second, ← readOffset cs⟩

namespace Moment

def read (cs : List Char) : Option Moment := do
  let (year, cs) ← exactDigits 4 cs
  let (month, cs) ← shortDigits (← after '-' cs)
  let (day, cs) ← shortDigits (← after '-' cs)
  if cs.isEmpty then return ⟨year, month, day, none⟩
  return ⟨year, month, day, some (← readTime (← afterSeparator cs))⟩

/-- The length of a date that is written in full. -/
def fullLength : Nat := 10

/-- Whether a text has the form of a date or a time. A date alone is written in full. -/
def isForm (cs : List Char) : Bool :=
  (read cs).any fun m => m.time.isSome || cs.length == fullLength

end Moment

/-- The number of seconds of a day. -/
def daySeconds : Int := 86400

/-- The offset in seconds. -/
def Offset.seconds (o : Offset) : Int :=
  let n : Int := (o.hours * 60 + o.minutes) * 60
  if o.west then -n else n

/-- The number with its sign. -/
def signedDecimal (n : Int) : String := (if n < 0 then "-" else "") ++ decimal n.natAbs

/-- The text of a duration of at least a day. -/
def durationText (seconds : Int) : String :=
  let rest := seconds.emod daySeconds
  "datetime.timedelta(days=" ++ signedDecimal (seconds.ediv daySeconds) ++
    (if rest = 0 then "" else ", seconds=" ++ signedDecimal rest) ++ ")"

/-- What does not exist about a time. Its offset is looked at first. -/
def Moment.problem? (m : Moment) : Option String :=
  let offset := (m.time.bind (·.offset)).map Offset.seconds
  let hour := (m.time.map (·.hour)).getD 0
  let minute := (m.time.map (·.minute)).getD 0
  let second := (m.time.map (·.second)).getD 0
  match offset.filter fun n => daySeconds ≤ n.natAbs with
  | some n => some ("offset must be a timedelta strictly between -timedelta(hours=24) and " ++
      "timedelta(hours=24), not " ++ durationText n ++ ".")
  | none =>
      if m.year = 0 then some "year 0 is out of range"
      else if m.month = 0 ∨ 12 < m.month then some "month must be in 1..12"
      else if m.day = 0 ∨ daysIn m.year m.month < m.day then some "day is out of range for month"
      else if 23 < hour then some "hour must be in 0..23"
      else if 59 < minute then some "minute must be in 0..59"
      else if 59 < second then some "second must be in 0..59"
      else none

end TypedClients.Settings.Yaml
