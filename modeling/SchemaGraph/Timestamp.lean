/-!
# Timestamps

The time in the head of a script, to the second.
-/

namespace SchemaGraph

/-- A calendar date and a time of day. -/
structure Timestamp where
  year : Nat
  month : Nat
  day : Nat
  hour : Nat
  minute : Nat
  second : Nat
deriving DecidableEq, Repr

namespace Timestamp

/-- A number of at least two digits. -/
def twoDigits (n : Nat) : String :=
  if n < 10 then "0" ++ toString n else toString n

/-- The text of a timestamp. The year has as many digits as it needs. -/
def text (t : Timestamp) : String :=
  toString t.year ++ "-" ++ twoDigits t.month ++ "-" ++ twoDigits t.day ++ " " ++
    twoDigits t.hour ++ ":" ++ twoDigits t.minute ++ ":" ++ twoDigits t.second

/-- The date so many days after the first of January 1970. Years are counted from the first of
March, so that a leap day comes last, in cycles of four centuries. -/
def dateOfDay (days : Nat) : Nat × Nat × Nat :=
  let shifted := days + 719468
  let inCycle := shifted % 146097
  let yearInCycle := (inCycle - inCycle / 1460 + inCycle / 36524 - inCycle / 146096) / 365
  let dayOfYear := inCycle - (365 * yearInCycle + yearInCycle / 4 - yearInCycle / 100)
  let monthFromMarch := (5 * dayOfYear + 2) / 153
  let month := if monthFromMarch < 10 then monthFromMarch + 3 else monthFromMarch - 9
  let year := yearInCycle + shifted / 146097 * 400 + (if month ≤ 2 then 1 else 0)
  (year, month, dayOfYear - (153 * monthFromMarch + 2) / 5 + 1)

/-- The time so many seconds after the beginning of 1970. -/
def ofSeconds (seconds : Nat) : Timestamp :=
  let (year, month, day) := dateOfDay (seconds / 86400)
  let rest := seconds % 86400
  ⟨year, month, day, rest / 3600, rest % 3600 / 60, rest % 60⟩

end Timestamp

end SchemaGraph
