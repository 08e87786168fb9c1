/-
DoubleEntry/Json/Double.lean

Decimal text of binary64 doubles.

Writing takes the fewest significant digits that read back as the same
double, and of those the nearest to it.  The search is exact: a double is
`m * 2 ^ q`, the reals that round to it form an interval, and for one digit,
two digits and so on the two decimal neighbours of the double are tried.

Reading first collects a 64-bit significand, then scales it by a power of
ten; digits that the significand cannot hold count for the scale only.
-/
import DoubleEntry.Text.Decimal

namespace DoubleEntry.Json.Double

open DoubleEntry.Text

/-! ### The shortest digits -/

/-- A non-negative rational number, numerator over denominator. -/
structure Ratio where
  num : Nat
  den : Nat

/-- The order of rationals with positive denominators. -/
def Ratio.le (a b : Ratio) : Bool :=
  a.num * b.den ≤ b.num * a.den

/-- The strict order of rationals with positive denominators. -/
def Ratio.lt (a b : Ratio) : Bool :=
  a.num * b.den < b.num * a.den

/-- The distance of two rationals. -/
def Ratio.dist (a b : Ratio) : Ratio :=
  ⟨(a.num * b.den - b.num * a.den) + (b.num * a.den - a.num * b.den), a.den * b.den⟩

/-- The number `m * b ^ e`. -/
def Ratio.scaled (m b : Nat) (e : Int) : Ratio :=
  if 0 ≤ e then ⟨m * Nat.pow b e.toNat, 1⟩ else ⟨m, Nat.pow b (-e).toNat⟩

/-- A finite positive double `m * 2 ^ q` with the ends of the interval of
reals that round to it; the ends belong to it when `m` is even. -/
structure Cell where
  value : Ratio
  low : Ratio
  high : Ratio
  closed : Bool

/-- The unit above the fraction bits: two to the power of 52. -/
def hidden : Nat := 4503599627370496

/-- The cell of a positive double, from its exponent and fraction bits. -/
def Cell.ofBits (exponent fraction : Nat) : Cell :=
  let m := if exponent = 0 then fraction else fraction + hidden
  let q : Int := (if exponent = 0 then 1 else (exponent : Int)) - 1075
  let below := if fraction = 0 && 1 < exponent then 1 else 2
  { value := .scaled (4 * m) 2 (q - 2)
    low := .scaled (4 * m - below) 2 (q - 2)
    high := .scaled (4 * m + 2) 2 (q - 2)
    closed := m % 2 = 0 }

/-- Whether a rational rounds to the double of the cell. -/
def Cell.holds (c : Cell) (r : Ratio) : Bool :=
  if c.closed then c.low.le r && r.le c.high else c.low.lt r && r.lt c.high

/-- The exponent of the highest decimal digit of a positive rational. -/
def leadingExponent (r : Ratio) : Int :=
  if r.den ≤ r.num then
    ((natDigits (r.num / r.den)).length : Int) - 1
  else
    match (List.range 400).find? fun t => r.den ≤ r.num * Nat.pow 10 t with
    | some t => -(t : Int)
    | none => -400

/-- The multiple of `10 ^ k` nearest to the double among its two neighbours
that round to it. -/
def Cell.digitsAt? (c : Cell) (k : Int) : Option Nat :=
  let unit := Ratio.scaled 1 10 k
  let floor := (c.value.num * unit.den) / (c.value.den * unit.num)
  let down := Ratio.scaled floor 10 k
  let up := Ratio.scaled (floor + 1) 10 k
  match c.holds down, c.holds up with
  | true, true =>
      if (c.value.dist down).lt (c.value.dist up) then some floor
      else if (c.value.dist up).lt (c.value.dist down) then some (floor + 1)
      else some (if floor % 2 = 0 then floor else floor + 1)
  | true, false => some floor
  | false, true => some (floor + 1)
  | false, false => none

/-- The shortest digits of a positive double and the exponent of the last
of them. -/
def Cell.shortest (c : Cell) : Nat × Int :=
  let lead := leadingExponent c.value
  let found := (List.range 17).findSome? fun (n : Nat) =>
    (c.digitsAt? (lead - (n : Int))).map fun d => (d, lead - (n : Int))
  found.getD (0, 0)

/-! ### Writing -/

/-- Digits and the exponent of the last one as text: positional while the
number has at most sixteen digits before the point or four zeros after it,
with an exponent otherwise. -/
def layout (digits : List Char) (last : Int) : List Char :=
  let point := (digits.length : Int) + last
  if 0 ≤ last && point ≤ 16 then
    digits ++ List.replicate last.toNat '0' ++ ['.', '0']
  else if 0 < point && point ≤ 16 then
    digits.take point.toNat ++ '.' :: digits.drop point.toNat
  else if -5 < point && point ≤ 0 then
    '0' :: '.' :: List.replicate (-point).toNat '0' ++ digits
  else
    let tail := digits.drop 1
    digits.take 1 ++ (if tail.isEmpty then [] else '.' :: tail) ++ 'e' :: intDigits (point - 1)

/-- Digits without the zeros at their end, and the exponent of the last. -/
def dropZeros (d : Nat) (last : Int) : List Char × Int :=
  let ds := natDigits d
  let zeros := (ds.reverse.takeWhile (· = '0')).length
  (ds.take (ds.length - zeros), last + zeros)

/-- The text of a finite double. -/
def text (bits : UInt64) : List Char :=
  let n := bits.toNat
  let fraction := n % hidden
  let exponent := n / hidden % 2048
  let sign := if n / 9223372036854775808 = 1 then ['-'] else []
  if exponent = 0 && fraction = 0 then
    sign ++ ['0', '.', '0']
  else
    let (d, last) := (Cell.ofBits exponent fraction).shortest
    let (ds, last) := dropZeros d last
    sign ++ layout ds last

/-! ### Reading -/

/-- Adds digits to a 64-bit significand as long as it can hold them; gives
the significand and the digits left over. -/
def collect (significand : Nat) : List Char → Nat × List Char
  | [] => (significand, [])
  | c :: rest =>
      let next := 10 * significand + (c.toNat - '0'.toNat)
      if next < 18446744073709551616 then collect next rest else (significand, c :: rest)

/-- A power of ten with an exponent of at most 308. -/
def tenTo (e : Nat) : Float :=
  Float.ofScientific 1 false e

/-- The double `significand * 10 ^ exponent`, in one rounded step where the
power of ten is a double; nothing when it is too large for a double. -/
def scale? (significand : Nat) (exponent : Int) : Option Float :=
  let f := (UInt64.ofNat significand).toFloat
  if 0 ≤ exponent then
    if exponent ≤ 308 then
      let g := f * tenTo exponent.toNat
      if g.isInf then none else some g
    else if significand = 0 then some f
    else none
  else if -308 ≤ exponent then some (f / tenTo (-exponent).toNat)
  else if -616 ≤ exponent then some (f / tenTo 308 / tenTo (-exponent - 308).toNat)
  else some 0.0

/-- The bits of the double written with these digits and this exponent. -/
def read? (negative : Bool) (whole fraction : List Char) (exponent : Int) : Option UInt64 :=
  let (s₁, uncounted) := collect 0 whole
  let (s₂, dropped) := collect s₁ fraction
  let used := fraction.length - dropped.length
  let e := (uncounted.length : Int) - used + exponent
  (scale? s₂ e).map fun f => (if negative then -f else f).toBits

end DoubleEntry.Json.Double
