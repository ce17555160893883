import TunnelConfig.Text.Number

/-!
# Dates

The date of a day in the Gregorian calendar. Days are counted from the first of March of the year
zero, so that the leap day, where there is one, is the last day of a year: then the start of a month
does not hang on the year, and every 400 years have the same number of days, 146097.
-/

namespace TunnelConfig

/-- A date in the Gregorian calendar. -/
structure Date where
  year : Nat
  month : Nat
  day : Nat
  deriving DecidableEq

namespace Date

/-- The days from the first of March of the year zero to the first of January of 1970. -/
def daysBefore1970 : Nat := 719468

/-- The date of a day, counted from the first of January of 1970. -/
def ofDay (n : Nat) : Date :=
  let n := n + daysBefore1970
  let inCycle := n % 146097
  let year := (inCycle - inCycle / 1460 + inCycle / 36524 - inCycle / 146096) / 365
  let inYear := inCycle - (365 * year + year / 4 - year / 100)
  let fromMarch := (5 * inYear + 2) / 153
  let day := inYear - (153 * fromMarch + 2) / 5 + 1
  let year := year + 400 * (n / 146097)
  if fromMarch < 10 then ⟨year, fromMarch + 3, day⟩ else ⟨year + 1, fromMarch - 9, day⟩

/-- The date of a time in nanoseconds since 1970. -/
def ofTime (time : Nat) : Date := ofDay (time / 86400000000000)

/-- The date in text, the year first. -/
def text (d : Date) : String :=
  let number (width n : Nat) := Text.padLeft width '0' (Text.decimal n)
  String.ofList (number 4 d.year ++ '-' :: (number 2 d.month ++ '-' :: number 2 d.day))

end Date

end TunnelConfig
