/-!
# Durations in messages

A duration of whole milliseconds is shown in seconds from one second on, with as many decimals as it
needs, and in milliseconds below that; a duration of nothing counts its nanoseconds.

Results:
* the `example`s give the forms.
-/

namespace ServiceFlow.Text

/-- Three digits. -/
def threeDigits (n : Nat) : List Char :=
  [n / 100 % 10, n / 10 % 10, n % 10].map fun d => Char.ofNat ('0'.toNat + d)

/-- The decimals of a number of thousandths, without trailing zeros. -/
def decimals (thousandths : Nat) : List Char :=
  ((threeDigits thousandths).reverse.dropWhile (· == '0')).reverse

/-- A duration in milliseconds as text. -/
def duration (ms : Nat) : String :=
  if ms = 0 then "0ns"
  else if ms < 1000 then toString ms ++ "ms"
  else
    let fraction := decimals (ms % 1000)
    let point := if fraction.isEmpty then "" else "."
    toString (ms / 1000) ++ point ++ String.ofList fraction ++ "s"

example : duration 0 = "0ns" := by cbv
example : duration 20 = "20ms" := by cbv
example : duration 1500 = "1.5s" := by cbv
example : duration 60000 = "60s" := by cbv
example : duration 100001 = "100.001s" := by cbv

end ServiceFlow.Text
