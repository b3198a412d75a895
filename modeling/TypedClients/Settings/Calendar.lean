/-!
# Days of months

The calendar with leap years in every fourth year, of the full centuries only in every fourth one.
-/
namespace TypedClients.Settings

def isLeapYear (year : Nat) : Bool := year % 4 = 0 ∧ (year % 100 ≠ 0 ∨ year % 400 = 0)

/-- The number of days of a month. -/
def daysIn (year month : Nat) : Nat :=
  if month = 2 then if isLeapYear year then 29 else 28
  else if month ∈ [4, 6, 9, 11] then 30 else 31

end TypedClients.Settings
