import ProxyHandshake.Text.Letters

/-!
# Durations

A duration counts nanoseconds.  It is shown in the largest of four units of which it holds at least
one, with as many decimals as it needs.
-/

namespace ProxyHandshake

structure Duration where
  nanoseconds : Nat
deriving DecidableEq, Repr

namespace Duration

def ofSeconds (seconds : Nat) : Duration := ⟨seconds * 1000000000⟩

def ofMilliseconds (milliseconds : Nat) : Duration := ⟨milliseconds * 1000000⟩

/-- The `places` decimals of `fraction / 10 ^ places`, without zeros at the end. -/
def decimals (places fraction : Nat) : List Char :=
  let digits := Nat.toDigits 10 fraction
  let padded := List.replicate (places - digits.length) '0' ++ digits
  (padded.reverse.dropWhile (· == '0')).reverse

/-- `n` in a unit of `10 ^ places`. -/
def inUnit (n places : Nat) (unit : String) : String :=
  let scale := Nat.pow 10 places
  let whole := toString (n / scale)
  if n % scale = 0 then whole ++ unit
  else whole ++ "." ++ String.ofList (decimals places (n % scale)) ++ unit

def text (d : Duration) : String :=
  if 1000000000 ≤ d.nanoseconds then inUnit d.nanoseconds 9 "s"
  else if 1000000 ≤ d.nanoseconds then inUnit d.nanoseconds 6 "ms"
  else if 1000 ≤ d.nanoseconds then inUnit d.nanoseconds 3 "µs"
  else inUnit d.nanoseconds 0 "ns"

end Duration

end ProxyHandshake
