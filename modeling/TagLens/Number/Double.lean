import TagLens.Text.Basic

/-!
# Numbers of double precision

A double is kept as its sign, its significand and its exponent of two, so that it can be
written out in exact arithmetic. Reading a decimal rounds to the nearest double, a tie going
to the even significand. Writing gives the fewest digits that read back as the same number,
and of two candidates of that length the nearer one.
-/

namespace TagLens.Number

/-- A number of double precision. A finite one is `± significand * 2 ^ exponent` with
`significand < 2 ^ 53` and `-1074 ≤ exponent ≤ 971`. -/
inductive Double where
  | finite (negative : Bool) (significand : Nat) (exponent : Int)
  | infinite (negative : Bool)
  | nan
  deriving DecidableEq, Repr

namespace Double

/-! ### Reading -/

/-- The quotient `a / b` rounded to the nearest whole number, a tie going to the even one. -/
def roundDiv (a b : Nat) : Nat :=
  let q := a / b
  let r := a % b
  if 2 * r < b then q
  else if b < 2 * r then q + 1
  else if q % 2 == 0 then q else q + 1

/-- The greatest `e` with `2 ^ e ≤ a / b`, for positive `a` and `b`. -/
def floorLog2 (a b : Nat) : Int :=
  let guess : Int := (a.log2 : Int) - (b.log2 : Int)
  let fits : Bool :=
    if 0 ≤ guess then b * Nat.pow 2 guess.toNat ≤ a else b ≤ a * Nat.pow 2 (-guess).toNat
  if fits then guess else guess - 1

/-- The double nearest to `± a / b`, for positive `a` and `b`. -/
def ofFraction (negative : Bool) (a b : Nat) : Double :=
  let exponent : Int := max (floorLog2 a b - 52) (-1074)
  let significand :=
    if 0 ≤ exponent then roundDiv a (b * Nat.pow 2 exponent.toNat)
    else roundDiv (a * Nat.pow 2 (-exponent).toNat) b
  if significand == Nat.pow 2 53 then
    if exponent == 971 then .infinite negative
    else .finite negative (Nat.pow 2 52) (exponent + 1)
  else if 971 < exponent then .infinite negative
  else .finite negative significand exponent

/-- The double nearest to `± digits * 10 ^ power`. Powers far outside the range of doubles are
settled without computing them. -/
def ofDecimal (negative : Bool) (digits : Nat) (power : Int) : Double :=
  let size : Int := (Nat.toDigits 10 digits).length + power
  if digits == 0 || size < -330 then .finite negative 0 0
  else if 310 < size then .infinite negative
  else if 0 ≤ power then ofFraction negative (digits * Nat.pow 10 power.toNat) 1
  else ofFraction negative digits (Nat.pow 10 (-power).toNat)

/-! ### Writing -/

/-- A decimal: its digits as a number, and the power of ten they are multiplied by. -/
structure Decimal where
  digits : Nat
  power : Int
  deriving DecidableEq, Repr

/-- The fraction `n * base ^ e` as numerator and denominator. -/
def scaled (n base : Nat) (e : Int) : Nat × Nat :=
  if 0 ≤ e then (n * Nat.pow base e.toNat, 1) else (n, Nat.pow base (-e).toNat)

/-- Does the decimal read back as the finite double with this significand and exponent? -/
def readsBack (significand : Nat) (exponent : Int) (d : Decimal) : Bool :=
  match ofDecimal false d.digits d.power with
  | .finite _ m e => m == significand && e == exponent
  | _ => false

/-- The decimal with digits at the given power of ten that is nearest to the number among
those that read back, if there is one. Only the two neighbours of the number need a look. -/
def neighbour? (significand : Nat) (exponent : Int) (power : Int) : Option Decimal :=
  let (a, b) := scaled significand 2 exponent
  let (c, d) := scaled 1 10 power
  -- the number in units of `10 ^ power` is `num / den`
  let num := a * d
  let den := b * c
  let low := num / den
  let below : Decimal := ⟨low, power⟩
  let above : Decimal := ⟨low + 1, power⟩
  let belowOk := readsBack significand exponent below
  let aboveOk := readsBack significand exponent above
  if belowOk && aboveOk then
    if 2 * (num % den) < den then some below
    else if den < 2 * (num % den) then some above
    else if low % 2 == 0 then some below else some above
  else if belowOk then some below
  else if aboveOk then some above
  else none

/-- The power of ten of the leading digit of a positive fraction. -/
def leadingPower (a b : Nat) : Int :=
  let guess : Int := ((Nat.toDigits 10 a).length : Int) - ((Nat.toDigits 10 b).length : Int)
  let fits : Bool :=
    if 0 ≤ guess then b * Nat.pow 10 guess.toNat ≤ a else b ≤ a * Nat.pow 10 (-guess).toNat
  if fits then guess else guess - 1

/-- The shortest decimal that reads back as the positive finite double: grids of one, two,
and up to seventeen digits are tried in turn. -/
def shortest (significand : Nat) (exponent : Int) : Decimal :=
  let (a, b) := scaled significand 2 exponent
  let lead := leadingPower a b
  let tries := (List.range 17).filterMap fun (k : Nat) =>
    neighbour? significand exponent (lead - (k : Int))
  match tries with
  | d :: _ => d
  | [] => ⟨significand, 0⟩

/-- Digits without the zeros at the end, and the number of zeros dropped. -/
def dropZeros (digits : Text) : Text × Nat :=
  let kept := (digits.reverse.dropWhile (· == '0')).reverse
  (kept, digits.length - kept.length)

/-- A decimal in positional notation or, outside the range from a ten-thousandth to ten to the
sixteenth, with an exponent of at least two digits. -/
def Decimal.render (d : Decimal) : String :=
  let (digits, dropped) := dropZeros (Nat.toDigits 10 d.digits)
  let point : Int := digits.length + d.power + dropped
  if -4 < point && point ≤ 16 then
    if point ≤ 0 then
      "0." ++ String.ofList (List.replicate (-point).toNat '0' ++ digits)
    else if digits.length ≤ point.toNat then
      String.ofList (digits ++ List.replicate (point.toNat - digits.length) '0') ++ ".0"
    else String.ofList (digits.take point.toNat) ++ "." ++ String.ofList (digits.drop point.toNat)
  else
    let e := point - 1
    let exponent := Nat.toDigits 10 e.natAbs
    let exponentText := (if e < 0 then "-" else "+")
      ++ String.ofList (List.replicate (2 - exponent.length) '0' ++ exponent)
    let fraction := if digits.length ≤ 1 then "" else "." ++ String.ofList (digits.drop 1)
    String.ofList (digits.take 1) ++ fraction ++ "e" ++ exponentText

/-- The number in the fewest digits that read back as the same number. -/
def render : Double → String
  | .nan => "nan"
  | .infinite negative => if negative then "-inf" else "inf"
  | .finite negative significand exponent =>
    let sign := if negative then "-" else ""
    if significand == 0 then sign ++ "0.0"
    else sign ++ (shortest significand exponent).render

example : (ofDecimal false 15 (-1)).render = "1.5" := by decide +kernel
example : (ofDecimal true 1 (-7)).render = "-1e-07" := by decide +kernel
example : (ofDecimal false 1 16).render = "1e+16" := by decide +kernel

end Double
end TagLens.Number
