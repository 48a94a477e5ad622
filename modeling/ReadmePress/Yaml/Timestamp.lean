import ReadmePress.Number.Integer
import ReadmePress.Yaml.Fault

/-!
Points in time. A plain scalar is one in two forms: a date with two digits each for month and
day, or date, time and offset with one digit or two where two are not needed. Under a tag a date
too may have single digits.
-/

namespace ReadmePress.Yaml

open ReadmePress.Number

/-- The parts of a point in time as they are written. -/
structure TimestampParts where
  year : List Char
  month : List Char
  day : List Char
  /-- Hour, minute and second. -/
  time : Option (List Char × List Char × List Char)
  /-- Whether the offset lies behind universal time, its hours and its minutes. -/
  offset : Option (Bool × List Char × List Char)
  deriving DecidableEq, Repr

namespace TimestampParts

/-- Takes digits: at least so many, and at most so many. -/
def takeDigits (least most : Nat) (text : List Char) : Option (List Char × List Char) :=
  let digits := (text.take most).takeWhile Char.isDigit
  if digits.length < least then none else some (digits, text.drop digits.length)

def takeChar (expected : Char) : List Char → Option (List Char)
  | [] => none
  | character :: rest => if character = expected then some rest else none

/-- Reads the offset: nothing, the mark of universal time, or a sign with hours and minutes. -/
def ofOffset (text : List Char) : Option (Option (Bool × List Char × List Char)) :=
  match text with
  | [] => some none
  | ['Z'] => some none
  | sign :: rest => do
      if sign != '+' && sign != '-' then none
      else
        let (hours, rest) ← takeDigits 1 2 rest
        let (minutes, rest) ←
          match rest with
          | ':' :: rest => takeDigits 2 2 rest
          | rest => some ([], rest)
        if rest.isEmpty then some (some (sign == '-', hours, minutes)) else none

def isSeparator (character : Char) : Bool := character == ' ' || character == '\t'

/-- Goes over what stands between date and time: a letter or blanks. -/
def afterDate (text : List Char) : Option (List Char) :=
  match text with
  | 'T' :: rest => some rest
  | 't' :: rest => some rest
  | character :: rest => if isSeparator character then some (rest.dropWhile isSeparator) else none
  | [] => none

/-- Reads a point in time. -/
def ofText? (text : List Char) : Option TimestampParts := do
  let (year, rest) ← takeDigits 4 4 text
  let rest ← takeChar '-' rest
  let (month, rest) ← takeDigits 1 2 rest
  let rest ← takeChar '-' rest
  let (day, rest) ← takeDigits 1 2 rest
  if rest.isEmpty then
    some { year := year, month := month, day := day, time := none, offset := none }
  else
    let rest ← afterDate rest
    let (hour, rest) ← takeDigits 1 2 rest
    let rest ← takeChar ':' rest
    let (minute, rest) ← takeDigits 2 2 rest
    let rest ← takeChar ':' rest
    let (second, rest) ← takeDigits 2 2 rest
    let rest :=
      match rest with
      | '.' :: fraction => fraction.dropWhile Char.isDigit
      | rest => rest
    let offset ← ofOffset (rest.dropWhile isSeparator)
    if rest.all isSeparator && !rest.isEmpty then none
    else
      some
        { year := year
          month := month
          day := day
          time := some (hour, minute, second)
          offset := offset }

/-- Whether a plain scalar of these parts is a point in time. -/
def isPlain (parts : TimestampParts) : Bool :=
  parts.time.isSome || (parts.month.length == 2 && parts.day.length == 2)

def numberOf (digits : List Char) : Nat :=
  digits.foldl (fun total digit => 10 * total + (digit.toNat - 48)) 0

def isLeapYear (year : Nat) : Bool := year % 4 == 0 && (year % 100 != 0 || year % 400 == 0)

def daysOf (year month : Nat) : Nat :=
  if month = 2 then if isLeapYear year then 29 else 28
  else if [4, 6, 9, 11].contains month then 30
  else 31

/-- The offset must be less than a day. -/
def checkOffset (parts : TimestampParts) : Except TimestampFault Unit :=
  match parts.offset with
  | none => .ok ()
  | some (behind, hours, minutes) =>
      let seconds : Int := numberOf hours * 3600 + numberOf minutes * 60
      if 86400 ≤ seconds then .error (.offset (if behind then -seconds else seconds)) else .ok ()

def checkDate (parts : TimestampParts) : Except TimestampFault Unit :=
  let year := numberOf parts.year
  let month := numberOf parts.month
  let day := numberOf parts.day
  if year = 0 then .error (.year year)
  else if month < 1 || 12 < month then .error .month
  else if day < 1 || daysOf year month < day then .error .day
  else .ok ()

def checkTime (parts : TimestampParts) : Except TimestampFault Unit :=
  match parts.time with
  | none => .ok ()
  | some (hour, minute, second) =>
      if 23 < numberOf hour then .error .hour
      else if 59 < numberOf minute then .error .minute
      else if 59 < numberOf second then .error .second
      else .ok ()

/-- Whether the parts name a point in time. The offset is checked first. -/
def check (parts : TimestampParts) : Except TimestampFault Unit := do
  parts.checkOffset
  parts.checkDate
  parts.checkTime

end TimestampParts

end ReadmePress.Yaml
