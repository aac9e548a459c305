import ShaderAssembly.Toml.Text

/-!
# Dates and times of a TOML document

A date, a time, or both with or without an offset. Only what exists in the calendar and on the clock
is taken: a month has its days, a leap year its twenty-ninth of February, and a minute up to
sixty-one seconds.
-/

namespace ShaderAssembly.Toml

namespace Scanner

/-- Whether a year has a twenty-ninth of February. -/
def isLeapYear (year : Nat) : Bool := year % 4 == 0 && (year % 100 != 0 || year % 400 == 0)

/-- The number of days in a month. -/
def daysInMonth (year month : Nat) : Nat :=
  if month = 2 then (if isLeapYear year then 29 else 28)
  else if month = 4 ∨ month = 6 ∨ month = 9 ∨ month = 11 then 30
  else 31

/-- Takes a number with so many digits that lies within bounds. -/
def numberWithin (length low high : Nat) : Scanner Nat := do
  let n := numberOf 10 (← exactly length Char.isDigit)
  require (low ≤ n && n ≤ high)
  return n

def date : Scanner Unit := do
  let year ← numberWithin 4 0 9999
  char '-'
  let month ← numberWithin 2 1 12
  char '-'
  let _ ← numberWithin 2 1 (daysInMonth year month)

def timeOfDay : Scanner Unit := do
  let _ ← numberWithin 2 0 23
  char ':'
  let _ ← numberWithin 2 0 59
  char ':'
  let _ ← numberWithin 2 0 60
  let _ ← optional (do char '.'; run1 Char.isDigit)

def offset : Scanner Unit :=
  (do let _ ← satisfying fun c => c == 'Z' || c == 'z') <|>
  (do
    let _ ← satisfying fun c => c == '+' || c == '-'
    let _ ← numberWithin 2 0 23
    char ':'
    let _ ← numberWithin 2 0 59)

def datetime : Scanner Unit :=
  (do
    date
    let _ ← optional (do
      let _ ← satisfying fun c => c == 'T' || c == 't' || c == ' '
      timeOfDay
      optional offset)) <|>
  timeOfDay

end Scanner

end ShaderAssembly.Toml
