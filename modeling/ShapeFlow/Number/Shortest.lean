import ShapeFlow.Number.Floating

/-!
# The shortest decimal that reads back

Every finite number owns the interval of reals that round to it. It is written with the fewest
significant digits for which a decimal lies in that interval, and with the nearest such decimal
(`Floating.shortest`). For a given count of digits only the two decimals around the number can be
nearest, so both are tried on grids of one digit, two digits and so on, in exact arithmetic.
`Floating.text` then sets the digits: positionally from `1e-4` up to below `1e16`, with an exponent
of at least two digits elsewhere.
-/

set_option autoImplicit false

namespace ShapeFlow.Floating

/-- A positive number and the interval that rounds to it, as numerators over one denominator. -/
structure Span where
  low : Nat
  value : Nat
  high : Nat
  denominator : Nat
  closed : Bool

/-- The span of `significand · 2 ^ exponent`: it reaches half way to either neighbour, and the lower
neighbour is nearer where the power of two changes. Its ends belong to it if the significand is
even. -/
def span (w : Width) (significand : Nat) (exponent : Int) : Span :=
  let step := exponent - 2
  let factor := if 0 ≤ step then Nat.pow 2 step.toNat else 1
  let denominator := if 0 ≤ step then 1 else Nat.pow 2 (-step).toNat
  let atPower := significand == Nat.pow 2 (w.precision - 1)
  let below := if atPower && w.leastExponent < exponent then 1 else 2
  { low := (4 * significand - below) * factor
    value := 4 * significand * factor
    high := (4 * significand + 2) * factor
    denominator := denominator
    closed := significand % 2 == 0 }

/-- Whether the fraction `num / den` lies in a span. -/
def Span.contains (s : Span) (num den : Nat) : Bool :=
  -- everything is brought to the denominator `den * s.denominator`
  let point := num * s.denominator
  if s.closed then s.low * den ≤ point && point ≤ s.high * den
  else s.low * den < point && point < s.high * den

/-- The power of ten of the first significant digit. -/
def Span.leading (s : Span) : Int :=
  let guess : Int :=
    ((Nat.toDigits 10 s.value).length : Int) - (Nat.toDigits 10 s.denominator).length
  let enough := if 0 ≤ guess then s.denominator * Nat.pow 10 guess.toNat ≤ s.value
    else s.denominator ≤ s.value * Nat.pow 10 (-guess).toNat
  if enough then guess else guess - 1

/-- A decimal `digits · 10 ^ power` as a fraction. -/
def fraction (digits : Nat) (power : Int) : Nat × Nat :=
  if 0 ≤ power then (digits * Nat.pow 10 power.toNat, 1) else (digits, Nat.pow 10 (-power).toNat)

/-- The decimal in the span on the grid of `10 ^ power`, the nearer one if both neighbours are in
it, the even one on a tie. -/
def Span.onGrid? (s : Span) (power : Int) : Option Nat :=
  let (num, den) : Nat × Nat :=
    if 0 ≤ power then (s.value, s.denominator * Nat.pow 10 power.toNat)
    else (s.value * Nat.pow 10 (-power).toNat, s.denominator)
  let below := num / den
  -- the nearer decimal comes first: the span may reach further on the other side
  let fits (d : Nat) : Bool := let (n, m) := fraction d power; s.contains n m
  let nearest := roundHalfEven num den
  if fits nearest then some nearest
  else if fits below then some below
  else if fits (below + 1) then some (below + 1)
  else none

/-- Tries `count` digits, then one more, as long as `tries` lasts. -/
def Span.search (s : Span) (leading : Int) : Nat → Nat → Nat × Int
  | 0, count => (((s.onGrid? (leading + 1 - count)).getD 0), leading + 1 - count)
  | tries + 1, count =>
    match s.onGrid? (leading + 1 - count) with
    | some digits => (digits, leading + 1 - count)
    | none => s.search leading tries (count + 1)

/-- The shortest decimal of a positive number, as digits and a power of ten. -/
def shortest (w : Width) (significand : Nat) (exponent : Int) : Nat × Int :=
  let s := span w significand exponent
  s.search s.leading 17 1

/-- Digits without the zeros at their end; each one dropped raises the power of ten. -/
def dropZeros : Nat → Nat → Int → Nat × Int
  | 0, digits, power => (digits, power)
  | tries + 1, digits, power =>
    if digits % 10 = 0 && digits ≠ 0 then dropZeros tries (digits / 10) (power + 1)
    else (digits, power)

/-- Sets digits with the first one at the power of ten `leading`. -/
def layOut (digits : List Char) (leading : Int) : List Char :=
  if -4 ≤ leading && leading < 16 then
    if leading < 0 then
      '0' :: '.' :: List.replicate (-leading - 1).toNat '0' ++ digits
    else
      let whole := leading.toNat + 1
      if digits.length ≤ whole then
        digits ++ List.replicate (whole - digits.length) '0' ++ ['.', '0']
      else digits.take whole ++ '.' :: digits.drop whole
  else
    let mantissa := match digits with
      | first :: second :: more => first :: '.' :: second :: more
      | short => short
    let power := Nat.toDigits 10 leading.natAbs
    let power := if power.length < 2 then '0' :: power else power
    mantissa ++ 'e' :: (if leading < 0 then '-' else '+') :: power

/-- The shortest text that reads back to the number. -/
def text (w : Width) : Floating → String
  | nan => "nan"
  | infinite negative => if negative then "-inf" else "inf"
  | finite negative significand exponent =>
    let body :=
      if significand = 0 then ['0', '.', '0']
      else
        let (digits, power) := shortest w significand exponent
        let (digits, power) := dropZeros 20 digits power
        let shown := Nat.toDigits 10 digits
        layOut shown (power + shown.length - 1)
    String.ofList (if negative then '-' :: body else body)

end ShapeFlow.Floating
