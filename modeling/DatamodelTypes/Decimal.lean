/-
DatamodelTypes.Decimal — numbers in decimal digits.

Natural numbers are read from digits. Doubles are written in the shortest
digits that read back: a finite double is `m · 2^q`, and the reals that
round to it form an interval around it, which contains its end points
exactly when `m` is even. Among the decimals `d · 10^e` in that interval
the ones on the coarsest grid have the fewest digits. So the grids are
tried from the coarsest down, and on each grid only the two neighbours of
the double need testing: if any grid point lies in the interval, one of
them does. Everything is exact arithmetic on natural numbers.

From `10^-5` up to, but not including, `10^16` a double is written around
a decimal point, with `.0` after a whole number; beyond that with an
exponent that always carries its sign: `0.00001`, `1234.5`, `1e+16`,
`5e-324`.
-/

namespace DatamodelTypes.Decimal

/-! ## 1. Natural numbers -/

/-- The value of a decimal digit. -/
def digitValue (c : Char) : Nat :=
  c.toNat - '0'.toNat

/-- The number that digits write, read behind the digits of `start`. -/
def ofDigits (start : Nat) (digits : List Char) : Nat :=
  digits.foldl (fun n c => n * 10 + digitValue c) start

/-- A number in digits, perhaps with a plus sign in front. Zeros in front
do not matter. -/
def natOfText? (text : String) : Option Nat :=
  let digits : List Char :=
    match text.toList with
    | '+' :: digits => digits
    | digits => digits
  if digits ≠ [] ∧ digits.all Char.isDigit then some (ofDigits 0 digits) else none

/-! ## 2. The shortest digits of a double -/

/-- The magnitude `significand · 2^exponent` of a finite double.
`lowerGapHalved` holds at a power of two, where the next smaller double
is only half as far away as the next larger one. -/
structure Binary where
  significand : Nat
  exponent : Int
  lowerGapHalved : Bool
  deriving DecidableEq, Repr

/-- The magnitude of a double, read off its bits. -/
def Binary.ofFloat (x : Float) : Binary :=
  let bits : Nat := x.toBits.toNat
  let fraction : Nat := bits % Nat.pow 2 52
  let biased : Nat := bits / Nat.pow 2 52 % Nat.pow 2 11
  if biased = 0 then ⟨fraction, -1074, false⟩
  else ⟨Nat.pow 2 52 + fraction, Int.ofNat biased - 1075, fraction == 0 && biased != 1⟩

/-- Whether the sign bit of a double is set; it is for `-0.0`. -/
def isNegative (x : Float) : Bool :=
  x.toBits.toNat ≥ Nat.pow 2 63

/-- The number `digits · 10^exponent`. -/
structure Scaled where
  digits : Nat
  exponent : Int
  deriving DecidableEq, Repr

/-- The multiple of `10^e` that lies in the interval of `x` and is nearest
to `x`, the even one of two equally near.

With `scale = 2^2 · 2^(-exponent) · 10^(-e)` (negative powers left out) the
double, the ends of its interval and the grid's unit all become natural
numbers. -/
def Binary.onGrid? (x : Binary) (e : Int) : Option Scaled :=
  let scale := Nat.pow 2 (x.exponent - 2).toNat * Nat.pow 10 (-e).toNat
  let unit := Nat.pow 10 e.toNat * Nat.pow 2 (2 - x.exponent).toNat
  let here := 4 * x.significand * scale
  let low := (4 * x.significand - if x.lowerGapHalved then 1 else 2) * scale
  let high := (4 * x.significand + 2) * scale
  let inside (d : Nat) : Bool :=
    if x.significand % 2 = 0 then low ≤ d * unit && d * unit ≤ high
    else low < d * unit && d * unit < high
  let below := here / unit
  let above := below + 1
  let belowIsNearer :=
    2 * (here - below * unit) < unit ||
      2 * (here - below * unit) == unit && below % 2 == 0
  if inside below && (belowIsNearer || !inside above) then some ⟨below, e⟩
  else if inside above then some ⟨above, e⟩
  else none

/-- The exponents of the grids, from the coarsest that a double can lie
on down to the finest one needed. -/
def gridExponents : List Int :=
  (List.range 650).map fun i => 310 - Int.ofNat i

/-- The shortest decimal that reads back as a positive double. -/
def Binary.shortest (x : Binary) : Scaled :=
  (gridExponents.findSome? x.onGrid?).getD ⟨0, 0⟩

/-! ## 3. A double as text -/

/-- A run of zeros. -/
def zeros (n : Nat) : List Char :=
  List.replicate n '0'

/-- The digits `ds` with the decimal point after the first `point` of
them, where `point` may lie before the first or behind the last. -/
def positional (ds : List Char) (point : Int) : List Char :=
  if point ≤ 0 then '0' :: '.' :: (zeros (-point).toNat ++ ds)
  else if ds.length ≤ point.toNat then ds ++ zeros (point.toNat - ds.length) ++ ['.', '0']
  else ds.take point.toNat ++ '.' :: ds.drop point.toNat

/-- The digits `ds` with one of them before the point, and the power of
ten that this takes. -/
def scientific (ds : List Char) (power : Int) : List Char :=
  let mantissa :=
    match ds with
    | first :: second :: rest => first :: '.' :: second :: rest
    | _ => ds
  let sign := if power < 0 then '-' else '+'
  mantissa ++ 'e' :: sign :: Nat.toDigits 10 power.natAbs

/-- A positive decimal in the form its size asks for. -/
def Scaled.written (d : Scaled) : List Char :=
  let ds := Nat.toDigits 10 d.digits
  let point := (ds.length : Int) + d.exponent
  if -5 < point ∧ point ≤ 16 then positional ds point else scientific ds (point - 1)

/-- A finite double as text. -/
def written (x : Float) : String :=
  let magnitude := Binary.ofFloat x
  let digits :=
    if magnitude.significand = 0 then ['0', '.', '0'] else magnitude.shortest.written
  String.ofList (if isNegative x then '-' :: digits else digits)

end DatamodelTypes.Decimal
