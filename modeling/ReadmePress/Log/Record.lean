import ReadmePress.Text.CodePoint

/-!
Log records, and computations that leave records behind. The records of a computation that
fails are kept: a log tells what happened up to the failure.
-/

namespace ReadmePress

open ReadmePress.Text

/-- How much a record matters. Every integer is a level, and six of them have names. -/
structure LogLevel where
  /-- A threshold lets through every rank from its own on. -/
  rank : Int
  deriving DecidableEq, Repr

namespace LogLevel

/-- The level of a threshold that has not been set. -/
def unset : LogLevel := { rank := 0 }

def debug : LogLevel := { rank := 10 }

def info : LogLevel := { rank := 20 }

def warning : LogLevel := { rank := 30 }

def error : LogLevel := { rank := 40 }

def name (level : LogLevel) : String :=
  match level.rank with
  | 0 => "NOTSET"
  | 10 => "DEBUG"
  | 20 => "INFO"
  | 30 => "WARNING"
  | 40 => "ERROR"
  | 50 => "CRITICAL"
  | rank => "Level " ++ toString rank

end LogLevel

/-- A record. A message quotes texts of the project, so it may hold lone surrogates. -/
structure LogRecord where
  level : LogLevel
  /-- The part of the program that reports, or nothing for the program as a whole. -/
  source : WideText
  message : WideText
  deriving DecidableEq, Repr

/-- An outcome and the records left on the way to it. -/
structure Traced (Fault Value : Type) where
  outcome : Except Fault Value
  records : List LogRecord

namespace Traced

variable {Fault OtherFault Value Other : Type}

def pure (value : Value) : Traced Fault Value := { outcome := .ok value, records := [] }

def fail (fault : Fault) : Traced Fault Value := { outcome := .error fault, records := [] }

/-- An outcome without records. -/
def ofExcept (outcome : Except Fault Value) : Traced Fault Value :=
  { outcome := outcome, records := [] }

/-- Leaves one record of a part of the program. -/
def record (level : LogLevel) (source : String) (message : WideText) : Traced Fault Unit :=
  { outcome := .ok ()
    records := [{ level := level, source := WideText.ofString source, message := message }] }

def bind (first : Traced Fault Value) (next : Value → Traced Fault Other) :
    Traced Fault Other :=
  match first.outcome with
  | .error fault => { outcome := .error fault, records := first.records }
  | .ok value =>
      let second := next value
      { outcome := second.outcome, records := first.records ++ second.records }

instance : Monad (Traced Fault) where
  pure := Traced.pure
  bind := Traced.bind

def mapFault (restate : Fault → OtherFault) (traced : Traced Fault Value) :
    Traced OtherFault Value :=
  { outcome := traced.outcome.mapError restate, records := traced.records }

/-- Runs a traced computation for each item in order. -/
def each (run : Value → Traced Fault Other) : List Value → Traced Fault (List Other)
  | [] => Traced.pure []
  | value :: rest =>
      (run value).bind fun first => (each run rest).bind fun others =>
        Traced.pure (first :: others)

end Traced

end ReadmePress
