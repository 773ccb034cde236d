import ChatCluster.Decimal.Digits

/-!
# Durations

Durations are whole numbers of milliseconds. Reports give them in seconds once there is a whole
second, with as many places as are needed, and in milliseconds below.

## Main definitions

* `places`: Digits behind a point.
* `durationText`: A duration in a report.
-/

namespace ChatCluster.Decimal

/-- A number below `10 ^ width` as digits behind a point, without zeros at the end. -/
def places (n width : Nat) : String :=
  let ds := (digits n).map digitChar
  let padded := List.replicate (width - ds.length) '0' ++ ds
  String.ofList (padded.reverse.dropWhile (· = '0')).reverse

/-- A duration in milliseconds, written in the largest unit that it fills. -/
def durationText (ms : Nat) : String :=
  if 1000 ≤ ms then
    let rest := places (ms % 1000) 3
    natText (ms / 1000) ++ (if rest = "" then "" else "." ++ rest) ++ "s"
  else if ms = 0 then "0ns"
  else natText ms ++ "ms"

end ChatCluster.Decimal
