import ReadmePress.Number.Integer

/-!
Why a YAML text has no value. Whatever is wrong with the form of the text is one cause; a scalar
of good form that stands for no value of its kind tells which rule it breaks.
-/

namespace ReadmePress.Yaml

open ReadmePress.Number ReadmePress.Text

/-- Why a scalar stands for no point in time. -/
inductive TimestampFault where
  /-- The text has not the form of a point in time. -/
  | malformed
  /-- The node is a collection that only names its text. -/
  | notScalar
  | year (value : Nat)
  | month
  | day
  | hour
  | minute
  | second
  /-- The offset from universal time, in seconds, is a day or more. -/
  | offset (seconds : Int)
  deriving DecidableEq, Repr

/-- Why a text has no value. -/
inductive Fault where
  | malformed
  | tooDeep
  | integer (fault : IntegerFault)
  /-- A number without a character in it. -/
  | emptyNumber
  | notNumber (text : WideText)
  /-- A part of a number in base sixty has a place value beyond every floating-point number. -/
  | placeTooGreat
  | notTruthValue (text : WideText)
  /-- An escape names a number that no code point has. -/
  | noCodePoint (code : Nat)
  | timestamp (fault : TimestampFault)
  deriving DecidableEq, Repr

/-- A length of time: days that may be negative and seconds that are not. -/
def durationText (seconds : Int) : String :=
  let days := seconds.fdiv 86400
  let rest := seconds.fmod 86400
  let parts :=
    (if days = 0 then [] else ["days=" ++ toString days])
      ++ (if rest = 0 then [] else ["seconds=" ++ toString rest])
  "datetime.timedelta(" ++ (if parts.isEmpty then "0" else ", ".intercalate parts) ++ ")"

def TimestampFault.message : TimestampFault → String
  | .malformed => "'NoneType' object has no attribute 'groupdict'"
  | .notScalar => "expected string or bytes-like object, got 'list'"
  | .year value => "year " ++ toString value ++ " is out of range"
  | .month => "month must be in 1..12"
  | .day => "day is out of range for month"
  | .hour => "hour must be in 0..23"
  | .minute => "minute must be in 0..59"
  | .second => "second must be in 0..59"
  | .offset seconds =>
      "offset must be a timedelta strictly between -timedelta(hours=24) and "
        ++ "timedelta(hours=24), not " ++ durationText seconds ++ "."

/-- The greatest number that is taken for the number of a code point at all. -/
def codeLimit : Nat := 0x7fffffff

def Fault.message : Fault → String
  | .malformed => "malformed"
  | .tooDeep => "nested too deep"
  | .integer fault => fault.message
  | .emptyNumber => "string index out of range"
  | .notNumber text => "could not convert string to float: " ++ String.ofList (quotedWide text)
  | .placeTooGreat => "int too large to convert to float"
  | .notTruthValue text => String.ofList (quotedWide text)
  | .noCodePoint code =>
      if codeLimit < code then "Python int too large to convert to C int"
      else "chr() arg not in range(0x110000)"
  | .timestamp fault => fault.message

end ReadmePress.Yaml
