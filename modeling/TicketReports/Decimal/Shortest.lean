/-!
The shortest decimal that reads back as a given binary floating-point number: of all decimals in
the interval of numbers that round to it those on the coarsest grid, and of these the nearest.
-/

set_option autoImplicit false

namespace TicketReports.Decimal

/-- A positive number `mantissa * 2 ^ (exponent - 1076)`, with the bounds of the numbers that round
to it on the same scale. Numbers on the bounds count if the significand is even. -/
structure Binary where
  low : Nat
  mantissa : Nat
  high : Nat
  exponent : Nat
  inclusive : Bool
  deriving DecidableEq, Repr

namespace Binary

-- The leading bit of a significand, which is not among the 64.
def leadingBit : Nat := 1 <<< 52

def ofBits (bits : Nat) : Binary :=
  let biased := bits / leadingBit % 2048
  let fraction := bits % leadingBit
  let significand := if biased = 0 then fraction else fraction + leadingBit
  { low := 4 * significand - (if fraction = 0 ∧ 1 < biased then 1 else 2)
    mantissa := 4 * significand
    high := 4 * significand + 2
    exponent := max biased 1 - 1
    inclusive := significand % 2 == 0 }

end Binary

structure Scientific where
  digits : Nat
  exponent : Int
  deriving DecidableEq, Repr

def ratio (m e : Nat) (k : Int) : Nat × Nat :=
  ((m <<< e) * Nat.pow 10 (-k).toNat, (1 <<< 1076) * Nat.pow 10 k.toNat)

def roundsTo (b : Binary) (k : Int) (digits : Nat) : Bool :=
  let (low, unit) := ratio b.low b.exponent k
  let (high, _) := ratio b.high b.exponent k
  if b.inclusive then low ≤ digits * unit && digits * unit ≤ high
  else low < digits * unit && digits * unit < high

def onGrid? (b : Binary) (k : Int) : Option Scientific :=
  let (value, unit) := ratio b.mantissa b.exponent k
  let below := value / unit
  let nearFirst :=
    if 2 * (value % unit) < unit ∨ (2 * (value % unit) = unit ∧ below % 2 = 0) then
      [below, below + 1]
    else [below + 1, below]
  (nearFirst.find? fun digits => digits != 0 && roundsTo b k digits).map fun digits =>
    { digits, exponent := k }

def grids : List Int := (List.range 640).map fun n : Nat => 309 - (n : Int)

def shortest (bits : Nat) : Scientific :=
  (grids.findSome? (onGrid? (.ofBits bits))).getD { digits := 0, exponent := 0 }

end TicketReports.Decimal
