import LineShell.Toml.Number

/-!
# Dates and times in TOML
-/
namespace LineShell.Toml

/-- A number of exactly `count` decimal digits, between two bounds. -/
def paddedNat (count low high : Nat) : Scan Unit := do
  let cs ← Scan.exactly count Char.isDigit
  let n := natOfDigits 10 cs
  if low ≤ n && n ≤ high then return () else failure

def date : Scan Unit := do
  paddedNat 4 0 9999
  Scan.char '-'
  paddedNat 2 1 12
  Scan.char '-'
  paddedNat 2 1 31

/-- A time of day, with any number of places after the second. -/
def timeOfDay : Scan Unit := do
  paddedNat 2 0 23
  Scan.char ':'
  paddedNat 2 0 59
  Scan.char ':'
  paddedNat 2 0 60
  let _ ← optional do
    Scan.char '.'
    Scan.run1 Char.isDigit

/-- The distance of a local time from that of Greenwich. -/
def offset : Scan Unit :=
  (do let _ ← Scan.satisfy fun c => c == 'Z' || c == 'z')
  <|> (do
    let _ ← Scan.satisfy fun c => c == '+' || c == '-'
    paddedNat 2 0 23
    Scan.char ':'
    paddedNat 2 0 59)

def dateTime : Scan Unit :=
  (do
    date
    let _ ← optional do
      let _ ← Scan.satisfy fun c => c == 'T' || c == 't' || c == ' '
      timeOfDay
      optional offset)
  <|> timeOfDay

end LineShell.Toml
