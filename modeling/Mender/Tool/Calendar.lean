import Mender.Tool.Showing

/-!
# Dates

Seconds and the days they fall on, by the calendar that has a leap year in every fourth year, but
not in three of four centuries. All clocks show the same time everywhere.
-/

namespace Mender.Calendar

/-- A day of the calendar. -/
structure Day where
  year : Int
  month : Nat
  day : Nat
  deriving DecidableEq, Repr

/-- The days of four centuries. -/
def cycle : Int := 146097

/-- The days from the first of March of the year zero to the first of January 1970. -/
def epoch : Int := 719468

/-- The number of a day, counted from the first of January 1970. The month and the day may be out of
their ranges: they count on into the neighbouring years and months. -/
def Day.number (d : Day) : Int :=
  let months := d.year * 12 + d.month - 3
  let year := Int.fdiv months 12
  let month := months - 12 * year
  let era := Int.fdiv year 400
  let inEra := year - 400 * era
  era * cycle + inEra * 365 + inEra / 4 - inEra / 100 + (153 * month + 2) / 5 + d.day - 1 - epoch

/-- The day of a number. -/
def dayOf (number : Int) : Day :=
  let n := number + epoch
  let era := Int.fdiv n cycle
  let inEra := n - era * cycle
  let year := (inEra - inEra / 1460 + inEra / 36524 - inEra / 146096) / 365
  let inYear := inEra - (365 * year + year / 4 - year / 100)
  let month := (5 * inYear + 2) / 153
  let day := inYear - (153 * month + 2) / 5 + 1
  let isNext : Bool := 10 ≤ month
  { year := year + era * 400 + if isNext then 1 else 0
    month := (if isNext then month - 9 else month + 3).toNat, day := day.toNat }

/-- A second of a day, counted from its start, and the number of the day. -/
def split (seconds : Int) : Int × Nat :=
  let day := Int.fdiv seconds 86400
  (day, (seconds - 86400 * day).toNat)

/-- The names of the days of the week. -/
def dayNames : List Octets :=
  ["Sunday", "Monday", "Tuesday", "Wednesday", "Thursday", "Friday", "Saturday"]

/-- The names of the months. -/
def monthNames : List Octets :=
  ["January", "February", "March", "April", "May", "June", "July", "August", "September", "October",
    "November", "December"]

/-- The number of a day in its week, which starts on a Sunday. -/
def weekday (number : Int) : Nat :=
  (Int.fmod (number + 4) 7).toNat

/-- The number of a day in its year, which starts at zero. -/
def yearday (number : Int) : Nat :=
  (number - ({ dayOf number with month := 1, day := 1 } : Day).number).toNat

/-- The year and the week of a day, when weeks start on a Monday and belong to the year that most of
their days are in. -/
def week (number : Int) : Int × Nat :=
  let thursday := number - (weekday (number - 1)) + 3
  ((dayOf thursday).year, yearday thursday / 7 + 1)

/-! ## Formats -/

/-- How a part of a date is filled up and changed. -/
structure Manner where
  fill : Option Char := some '0'
  width : Nat := 0
  upper : Bool := false

/-- A text filled up on the left. -/
def Manner.filled (m : Manner) (s : Octets) : Octets :=
  let s := if m.upper then String.ofList (s.toList.map Char.toUpper) else s
  match m.fill with
  | some c => String.ofList (List.replicate (m.width - s.length) c) ++ s
  | none => s

/-- The format that a letter stands for. -/
def longer? : Char → Option Octets
  | 'c' => some "%a %b %e %H:%M:%S %Y"
  | 'D' | 'x' => some "%m/%d/%y"
  | 'F' => some "%Y-%m-%d"
  | 'T' | 'X' => some "%H:%M:%S"
  | 'R' => some "%H:%M"
  | 'r' => some "%I:%M:%S %p"
  | _ => none

/-- The number that a letter stands for, its usual width and what fills it up. -/
def number? (seconds : Int) (letter : Char) : Option (Int × Nat × Char) :=
  let (number, second) := split seconds
  let day := dayOf number
  let hour := second / 3600
  let half := if hour % 12 = 0 then 12 else hour % 12
  match letter with
  | 'Y' => some (day.year, 4, '0')
  | 'C' => some (Int.fdiv day.year 100, 2, '0')
  | 'y' => some (Int.fmod day.year 100, 2, '0')
  | 'G' => some ((week number).1, 4, '0')
  | 'g' => some (Int.fmod (week number).1 100, 2, '0')
  | 'V' => some ((week number).2, 2, '0')
  | 'U' => some ((yearday number + 7 - weekday number) / 7, 2, '0')
  | 'W' => some ((yearday number + 7 - weekday (number - 1)) / 7, 2, '0')
  | 'm' => some (day.month, 2, '0')
  | 'q' => some ((day.month + 2) / 3, 1, '0')
  | 'd' => some (day.day, 2, '0')
  | 'e' => some (day.day, 2, ' ')
  | 'j' => some (yearday number + 1, 3, '0')
  | 'u' => some (weekday (number - 1) + 1, 1, '0')
  | 'w' => some (weekday number, 1, '0')
  | 'H' => some (hour, 2, '0')
  | 'k' => some (hour, 2, ' ')
  | 'I' => some (half, 2, '0')
  | 'l' => some (half, 2, ' ')
  | 'M' => some (second / 60 % 60, 2, '0')
  | 'S' => some (second % 60, 2, '0')
  | 's' => some (seconds, 1, '0')
  | 'N' => some (0, 9, '0')
  | _ => none

/-- The text that a letter stands for. -/
def text? (seconds : Int) (letter : Char) : Option Octets :=
  let (number, second) := split seconds
  let month := (monthNames[(dayOf number).month - 1]?).getD ""
  let day := (dayNames[weekday number]?).getD ""
  let short (s : Octets) : Octets := String.ofList (s.toList.take 3)
  match letter with
  | 'A' => some day
  | 'a' => some (short day)
  | 'B' => some month
  | 'b' | 'h' => some (short month)
  | 'p' => some (if second < 43200 then "AM" else "PM")
  | 'P' => some (if second < 43200 then "am" else "pm")
  | 'Z' => some "UTC"
  | 'z' => some "+0000"
  | 'n' => some "\n"
  | 't' => some "\t"
  | '%' => some "%"
  | _ => none

/-- Reads what stands between a percent sign and its letter. -/
def readManner (m : Manner) (filled : Bool) : List Char → Manner × Bool × List Char
  | '-' :: cs => readManner { m with fill := none } true cs
  | '_' :: cs => readManner { m with fill := some ' ' } true cs
  | '0' :: cs => readManner { m with fill := some '0' } true cs
  | '^' :: cs => readManner { m with upper := true } filled cs
  | cs =>
    let digits := cs.takeWhile Char.isDigit
    ({ m with width := min 999 (Octets.value digits) }, filled, cs.drop digits.length)

/-- Writes a time in a format. -/
def formatted : Nat → Int → List Char → Octets
  | 0, _, _ => ""
  | _, _, [] => ""
  | fuel + 1, seconds, '%' :: cs =>
    let (m, filled, rest) := readManner {} false cs
    match rest with
    | [] => String.ofList ('%' :: cs)
    | ':' :: 'z' :: rest => "+00:00" ++ formatted fuel seconds rest
    | letter :: rest =>
      let shown : Octets :=
        match longer? letter, number? seconds letter, text? seconds letter with
        | some f, _, _ =>
          ({ m with fill := if filled then m.fill else some ' ' } : Manner).filled
            (formatted fuel seconds f.toList)
        | _, some (n, width, fill), _ =>
          let fill := if filled then m.fill else some fill
          let m := { m with fill, width := max width m.width }
          if n < 0 then "-" ++ { m with width := m.width - 1 }.filled (toString (-n))
          else m.filled (toString n)
        | _, _, some s => ({ m with fill := if filled then m.fill else some ' ' } : Manner).filled s
        | _, _, _ => String.ofList ('%' :: cs.take (cs.length - rest.length))
      shown ++ formatted fuel seconds rest
  | fuel + 1, seconds, c :: cs => String.singleton c ++ formatted fuel seconds cs

/-- Writes a time in a format. -/
def format (seconds : Int) (form : Octets) : Octets :=
  formatted (form.length + 20) seconds form.toList

/-! ## Reading -/

/-- What the words of a date say. -/
structure Told where
  day : Option Day := none
  second : Option Nat := none
  /-- Months, days and seconds that are added. -/
  months : Int := 0
  days : Int := 0
  seconds : Int := 0
  /-- A time of a day was told last, so that a zone may follow. -/
  awaitsZone : Bool := false

/-- The numbers between marks. -/
def numbersBetween (mark : Char) (s : Octets) : Option (List Nat) :=
  (Text.splitText [mark] s.toList).mapM fun cs => Amount.digits? (String.ofList cs)

/-- Reads a day of the calendar. -/
def readDay? (s : Octets) : Option Day :=
  match numbersBetween '-' s, numbersBetween '/' s with
  | some [year, month, day], _ => checked year month day
  | _, some [month, day, year] => checked year month day
  | _, _ =>
    let n := s.toList.length
    if n = 8 && Octets.isNumber s then
      let value (a b : Nat) : Nat := Octets.value ((s.toList.drop a).take b)
      checked (value 0 4) (value 4 2) (value 6 2)
    else none
where
  /-- A day, if the calendar has it. -/
  checked (year month day : Nat) : Option Day :=
    let d : Day := ⟨year, month, day⟩
    if dayOf d.number = d then some d else none

/-- Reads a time of a day. -/
def readSecond? (s : Octets) : Option Nat :=
  match numbersBetween ':' s with
  | some [h, m] => if h < 24 && m < 60 then some (h * 3600 + m * 60) else none
  | some [h, m, t] => if h < 24 && m < 60 && t ≤ 60 then some (h * 3600 + m * 60 + t) else none
  | _ => none

/-- Adds so many of a unit. -/
def Told.plus (t : Told) (n : Int) (unit : Octets) : Option Told :=
  let unit := if unit.endsWith "s" && unit.length != 1 then String.ofList unit.toList.dropLast
    else unit
  match unit with
  | "year" => some { t with months := t.months + 12 * n }
  | "month" => some { t with months := t.months + n }
  | "fortnight" => some { t with days := t.days + 14 * n }
  | "week" => some { t with days := t.days + 7 * n }
  | "day" => some { t with days := t.days + n }
  | "hour" => some { t with seconds := t.seconds + 3600 * n }
  | "minute" | "min" => some { t with seconds := t.seconds + 60 * n }
  | "second" | "sec" => some { t with seconds := t.seconds + n }
  | _ => none

/-- A number with a sign, and what follows it. -/
def signed? (s : Octets) : Option (Int × Octets) :=
  let (sign, cs) : Int × List Char := match s.toList with
    | '-' :: cs => (-1, cs)
    | '+' :: cs => (1, cs)
    | cs => (1, cs)
  let digits := cs.takeWhile Char.isDigit
  if digits.isEmpty then none
  else some (sign * Octets.value digits, String.ofList (cs.drop digits.length))

/-- The seconds that a zone is ahead, told behind a time of a day by hours or hours and minutes. -/
def zone? (s : Octets) : Option Int :=
  let digits := s.toList.drop 1
  match signed? s with
  | some (n, "") =>
    if !(s.startsWith "+" || s.startsWith "-") then none
    else if digits.length ≤ 2 then some (3600 * n)
    else if digits.length = 4 then some (3600 * Int.tdiv n 100 + 60 * Int.tmod n 100)
    else none
  | _ => none

/-- Reads the words of a date. -/
def readWords (t : Told) : List Octets → Option Told
  | [] => some t
  | w :: rest =>
    let zone := if t.awaitsZone then zone? w else none
    let t := { t with awaitsZone := false }
    match zone with
    | some ahead => readWords { t with seconds := t.seconds - ahead } rest
    | none =>
    match w with
    | "now" | "today" | "utc" | "gmt" | "z" => readWords t rest
    | "yesterday" => readWords { t with days := t.days - 1 } rest
    | "tomorrow" => readWords { t with days := t.days + 1 } rest
    | _ =>
      match readDay? w, readSecond? w, signed? w, rest with
      | some day, _, _, rest => if t.day.isSome then none else readWords { t with day } rest
      | _, some second, _, rest =>
        if t.second.isSome then none else readWords { t with second, awaitsZone := true } rest
      | _, _, some (n, ""), unit :: "ago" :: rest => do readWords (← t.plus (-n) unit) rest
      | _, _, some (n, ""), unit :: rest => do readWords (← t.plus n unit) rest
      | _, _, some (n, unit), rest => do readWords (← t.plus n unit) rest
      | _, _, _, rest =>
        match t.plus 1 w, rest with
        | some t, rest => readWords t rest
        | none, unit :: rest =>
          if w = "next" then do readWords (← t.plus 1 unit) rest
          else if w = "last" then do readWords (← t.plus (-1) unit) rest
          else none
        | none, [] => none

/-- The second that the words of a date tell of, when it is `now`. -/
def Told.at (t : Told) (now : Int) : Int :=
  let (today, second) := split now
  let day := t.day.getD (dayOf today)
  let second := t.second.getD (if t.day.isSome then 0 else second)
  let months := day.year * 12 + day.month - 1 + t.months
  let moved : Day :=
    { day with year := Int.fdiv months 12, month := (Int.fmod months 12).toNat + 1 }
  86400 * (moved.number + t.days) + second + t.seconds

/-- Reads a date. -/
def read? (now : Int) (s : Octets) : Option Int :=
  let lower := s.toList.map Char.toLower
  match lower with
  | '@' :: cs =>
    match signed? (String.ofList cs) with
    | some (n, "") => some n
    | some (n, rest) =>
      if rest.startsWith "." && Octets.isNumber (String.ofList (rest.toList.drop 1)) then some n
      else none
    | none => none
  | _ =>
    let isPart (i : Nat) : Bool := (lower.take i).all fun c => c.isDigit || c = '-'
    let spaced := ((List.range lower.length).zip lower).flatMap fun (i, c) =>
      if c = 't' && 8 ≤ i && isPart i then [' ']
      else if c = 'z' && i + 1 = lower.length && ((lower.drop (i - 1)).head?.any Char.isDigit) then
        [' ', 'z']
      else if Octets.isSpace c || c = ',' then [' ']
      else [c]
    let words := ((Text.splitText [' '] spaced).map String.ofList).filter (· != "")
    let usual : Told := if words.isEmpty then { second := some 0 } else {}
    (readWords usual words).map (·.at now)

/-! ## The tool -/

/-- The second in which all starts. -/
def start : Int := 1750000000

/-- The formats of dates by how exact they are. -/
def exactFormat? : Octets → Option Octets
  | "date" => some "%Y-%m-%d"
  | "hours" => some "%Y-%m-%dT%H%:z"
  | "minutes" => some "%Y-%m-%dT%H:%M%:z"
  | "seconds" => some "%Y-%m-%dT%H:%M:%S%:z"
  | "ns" => some "%Y-%m-%dT%H:%M:%S,%N%:z"
  | _ => none

/-- A flag with its value written behind it. -/
def withValue : List Octets → List Octets
  | [] => []
  | a :: rest =>
    match a.toList with
    | '-' :: 'I' :: c :: cs => s!"--iso-8601={String.ofList (c :: cs)}" :: withValue rest
    | _ => a :: withValue rest

/-- Prints a time. -/
def date : Tool := fun args scene =>
  let now := start + (scene.machine.clock.floor.toUInt64.toNat : Int)
  let table : OptionTable :=
    { flags := "uRI", valued := "dfr3"
      long := [⟨"date", 'd', .always⟩, ⟨"utc", 'u', .never⟩, ⟨"universal", 'u', .never⟩,
        ⟨"rfc-email", 'R', .never⟩, ⟨"iso-8601", 'I', .maybe⟩, ⟨"rfc-3339", '3', .always⟩,
        ⟨"reference", 'r', .always⟩] }
  Tool.withOptions "date" 1 table (fun call scene =>
    let invalid (s : Octets) : Ran := .complaint 1 s!"date: invalid date {Naming.quoted s}"
    let exact := (call.value? 'I').bind exactFormat? |>.getD "%Y-%m-%d"
    let usual :=
      if call.has 'I' then exact
      else if call.has 'R' then "%a, %d %b %Y %H:%M:%S %z"
      else if call.has '3' then
        if call.value? '3' = some "date" then "%Y-%m-%d" else "%Y-%m-%d %H:%M:%S%:z"
      else "%a %b %e %H:%M:%S %Z %Y"
    match call.operands, (call.value? 'd').map fun s => (s, read? now s) with
    | _, some (s, none) => invalid s
    | operands, told =>
      let seconds := (told.bind (·.2)).getD now
      match (call.value? 'r').map fun name => (name, scene.find name) with
      | some (name, .error fault) => .complaint 1 s!"date: {Naming.shown name}: {fault.text}"
      | _ =>
        match operands with
        | [] => .output (format seconds usual ++ "\n")
        | [a] =>
          if a.startsWith "+" then
            .output (format seconds (String.ofList (a.toList.drop 1)) ++ "\n")
          else if told.isSome then
            .complaint 1 (s!"date: the argument {Naming.quoted a} lacks a leading '+';\n" ++
              "when using an option to specify date(s), any non-option\n" ++
              "argument must be a format string beginning with '+'\n" ++
              "Try 'date --help' for more information.")
          else invalid a
        | _ :: b :: _ => .complaint 1 (s!"date: extra operand {Naming.quoted b}\n" ++
            "Try 'date --help' for more information.")) (withValue args) scene

end Mender.Calendar
