import Manifests.Text.Integer
import Manifests.Toml.Scan

/-!
Dates and times of TOML, read as texts in their standard form.
-/
namespace Manifests.Toml.Moment

open Scan

/-- A number of exactly so many digits within a range, as it is written. -/
def part (width least greatest : Nat) : Scan (List Char) := do
  let ds := (← get).take width
  if ds.length = width ∧ ds.all Char.isDigit ∧ least ≤ Text.natOfDigits ds ∧
      Text.natOfDigits ds ≤ greatest then
    set ((← get).drop width)
    return ds
  else failure

def isLeap (year : Nat) : Bool := year % 4 = 0 && (year % 100 ≠ 0 || year % 400 = 0)

def daysIn (year month : Nat) : Nat :=
  if month = 2 then if isLeap year then 29 else 28
  else if [4, 6, 9, 11].contains month then 30 else 31

def date : Scan (List Char) := do
  let year ← part 4 0 9999
  expect "-"
  let month ← part 2 1 12
  expect "-"
  let day ← part 2 1 (daysIn (Text.natOfDigits year) (Text.natOfDigits month))
  return year ++ '-' :: month ++ '-' :: day

/-- Fractions of a second count to the ninth digit, and zeros at their end do not. -/
def secondFraction : Scan (List Char) := do
  if ← accept "." then
    let ds ← span Char.isDigit
    if ds = [] then failure
    match ((ds.take 9).reverse.dropWhile (· = '0')).reverse with
    | [] => return []
    | ds => return '.' :: ds
  else return []

def time : Scan (List Char) := do
  let hour ← part 2 0 23
  expect ":"
  let minute ← part 2 0 59
  expect ":"
  let second ← part 2 0 60
  return hour ++ ':' :: minute ++ ':' :: second ++ (← secondFraction)

/-- The distance from universal time; none is written with a plus sign. -/
def offset : Scan (List Char) := do
  if (← accept "Z") || (← accept "z") then return ['Z']
  else
    let negative ← accept "-"
    unless negative do expect "+"
    let hour ← part 2 0 23
    expect ":"
    let minute ← part 2 0 59
    let isZero := (hour ++ minute).all (· = '0')
    return (if negative && !isZero then '-' else '+') :: hour ++ ':' :: minute

def dateTime : Scan (List Char) := do
  let day ← date
  (do
    unless ['T', 't', ' '].contains (← char) do failure
    let clock ← time
    return day ++ 'T' :: clock ++ (← offset <|> pure [])) <|> pure day

def any : Scan String := String.ofList <$> (dateTime <|> time)

example :
    (any.run "2024-02-29 07:32:00.500z".toList).map (·.1) = some "2024-02-29T07:32:00.5Z" := by
  decide +kernel
example : (any.run "2023-02-29".toList).isNone = true := by decide +kernel

end Manifests.Toml.Moment
