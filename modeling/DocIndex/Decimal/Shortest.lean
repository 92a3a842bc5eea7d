/-
  THE SHORTEST DECIMAL of a binary floating point number.

  A finite double is m · 2^q.  Every real number closer to it than to its two neighbours reads back
  as the same double: these reals form an interval around it, whose ends belong to it exactly when m
  is even.  Among the grids 10^k · ℤ, from coarse to fine, the first one with a point in that
  interval gives the decimal with the fewest digits; of its points the nearest to the number is
  taken, the even one on a tie.  All comparisons are made on natural numbers, so nothing is rounded.

  `Decimal.text` writes it: positionally while the first digit stands for 10^-5 up to 10^15, and
  with an exponent otherwise.
-/
namespace DocIndex

/-- The decimal `digits · 10 ^ exponent`. -/
structure Decimal where
  digits : Nat
  exponent : Int
  deriving Repr, DecidableEq

namespace Decimal

/-- A positive double as `mantissa · 2 ^ exponent`; `halfGap` says that the gap to the next smaller
    double is half the gap to the next larger one. -/
structure Binary where
  mantissa : Nat
  exponent : Int
  halfGap : Bool
  deriving Repr, DecidableEq

/-- The parts of a positive finite double, from its bits. -/
def Binary.ofBits (bits : Nat) : Binary :=
  let fraction : Nat := bits % Nat.pow 2 52
  let biased : Nat := bits / Nat.pow 2 52 % Nat.pow 2 11
  if biased = 0 then ⟨fraction, -1074, false⟩
  else ⟨Nat.pow 2 52 + fraction, Int.ofNat biased - 1075, fraction == 0 && biased != 1⟩

/-- A fraction of natural numbers with a positive denominator. -/
structure Ratio where
  num : Nat
  den : Nat

/-- `n · 2 ^ e` as a fraction. -/
def Ratio.scaled (n : Nat) (e : Int) : Ratio :=
  if e < 0 then ⟨n, Nat.pow 2 (-e).toNat⟩ else ⟨n * Nat.pow 2 e.toNat, 1⟩

/-- `n · 10 ^ e` as a fraction. -/
def Ratio.decimal (n : Nat) (e : Int) : Ratio :=
  if e < 0 then ⟨n, Nat.pow 10 (-e).toNat⟩ else ⟨n * Nat.pow 10 e.toNat, 1⟩

def Ratio.lt (a b : Ratio) : Bool := a.num * b.den < b.num * a.den

/-- The distance between two fractions. -/
def Ratio.distance (a b : Ratio) : Ratio :=
  let x := a.num * b.den
  let y := b.num * a.den
  ⟨if x < y then y - x else x - y, a.den * b.den⟩

/-- Does the fraction read back as the double? -/
def Binary.owns (b : Binary) (x : Ratio) : Bool :=
  let low := Ratio.scaled (4 * b.mantissa - (if b.halfGap then 1 else 2)) (b.exponent - 2)
  let high := Ratio.scaled (4 * b.mantissa + 2) (b.exponent - 2)
  if b.mantissa % 2 = 0 then !x.lt low && !high.lt x else low.lt x && x.lt high

/-- The point of the grid `10 ^ k` that reads back as the double and is nearest to it. -/
def Binary.onGrid (b : Binary) (k : Int) : Option Decimal :=
  let value := Ratio.scaled b.mantissa b.exponent
  let unit := Ratio.decimal 1 k
  let below := value.num * unit.den / (value.den * unit.num)
  let lowPoint := Ratio.decimal below k
  let highPoint := Ratio.decimal (below + 1) k
  match b.owns lowPoint && below != 0, b.owns highPoint with
  | true, false => some ⟨below, k⟩
  | false, true => some ⟨below + 1, k⟩
  | false, false => none
  | true, true =>
    let toLow := value.distance lowPoint
    let toHigh := value.distance highPoint
    if toLow.lt toHigh || (!toHigh.lt toLow && below % 2 == 0) then some ⟨below, k⟩
    else some ⟨below + 1, k⟩

/-- The shortest decimal of a positive double.  The grid `10 ^ -324` has a point in every
    interval. -/
def shortest (b : Binary) : Decimal :=
  let grids := (List.range 633).map fun (i : Nat) => (308 : Int) - i
  (grids.findSome? b.onGrid).getD ⟨0, 0⟩

/-- `n` zeros. -/
def zeros (n : Nat) : String := String.ofList (List.replicate n '0')

/-- The decimal as text, positionally for moderate exponents and with an exponent otherwise. -/
def text (d : Decimal) : String :=
  let ds := toString d.digits
  let count := ds.length
  let lead : Int := d.exponent + count - 1
  if lead < -5 ∨ 15 < lead then
    let mantissa :=
      if count = 1 then ds
      else String.ofList (ds.toList.take 1) ++ "." ++ String.ofList (ds.toList.drop 1)
    mantissa ++ (if lead < 0 then "e-" else "e+") ++ toString lead.natAbs
  else if 0 ≤ d.exponent then ds ++ zeros d.exponent.toNat ++ ".0"
  else if lead < 0 then "0." ++ zeros (-lead - 1).toNat ++ ds
  else
    let whole := (lead + 1).toNat
    String.ofList (ds.toList.take whole) ++ "." ++ String.ofList (ds.toList.drop whole)

end Decimal

/-- The text of a finite double: sign, then the shortest decimal. -/
def Decimal.ofFloat (x : Float) : String :=
  let bits := x.toBits.toNat
  let sign := if bits / Nat.pow 2 63 = 1 then "-" else ""
  let magnitude := bits % Nat.pow 2 63
  if magnitude = 0 then sign ++ "0.0" else sign ++ (Decimal.shortest (.ofBits magnitude)).text

end DocIndex
