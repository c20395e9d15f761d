/-!
# Double-precision numbers

Positions on the canvas are double-precision numbers. They are kept here as exact data: a finite
number is a sign and a rank, and its magnitude is a whole number of units of `2 ^ (-1074)`, the
smallest step of the format. Rounding, addition and halving are computed on those whole numbers,
so a proof sees every operation.
-/

namespace SchemaGraph

/-- The number of magnitudes in a binade: `2 ^ 52`. -/
abbrev binadeSize : Nat := 4503599627370496

/-- The number of finite magnitudes. -/
abbrev rankCount : Nat := 2047 * binadeSize

/-- A double-precision number. The rank of a finite one counts the magnitudes below its own. -/
inductive Double
  | nan
  | infinite (negative : Bool)
  | finite (negative : Bool) (rank : Fin rankCount)
deriving DecidableEq, Repr

namespace Double

/-- The positive zero. -/
def zero : Double := .finite false ⟨0, by decide⟩

instance : Inhabited Double := ⟨zero⟩

/-- Whether the number is neither infinite nor undefined. -/
def isFinite : Double → Bool
  | .finite .. => true
  | _ => false

/-! ### Ranks and units -/

/-- The magnitude of a rank, in units of `2 ^ (-1074)`. The first two binades have unit spacing,
and every later one doubles it. -/
def units (rank : Nat) : Nat :=
  if rank < binadeSize then rank
  else (binadeSize + rank % binadeSize) <<< (rank / binadeSize - 1)

/-- The number of units that make up one: `2 ^ 1074`. -/
def unitsPerOne : Nat := 1 <<< 1074

/-- The whole number nearest to a quotient; a half goes to the even neighbour. -/
def roundHalfEven (num den : Nat) : Nat :=
  let whole := num / den
  let rest := num % den
  if 2 * rest < den then whole
  else if den < 2 * rest then whole + 1
  else whole + whole % 2

/-- The rank nearest to the magnitude of `num / den` units; a tie goes to the even rank. -/
def nearestRank (num den : Nat) : Nat :=
  let doublings := (num / den).log2 - 52
  doublings * binadeSize + roundHalfEven num (den <<< doublings)

/-- The number of the given sign nearest to `num / den` units; beyond the largest rank it is
infinite. -/
def ofUnits (negative : Bool) (num den : Nat) : Double :=
  if h : nearestRank num den < rankCount then .finite negative ⟨nearestRank num den, h⟩
  else .infinite negative

/-- The number of the given sign nearest to the quotient `num / den`. -/
def ofQuotient (negative : Bool) (num den : Nat) : Double :=
  ofUnits negative (num * unitsPerOne) den

/-- The number nearest to an integer. -/
def ofInt (i : Int) : Double :=
  ofQuotient (decide (i < 0)) i.natAbs 1

/-! ### Arithmetic -/

/-- A finite number in units, with its sign. -/
def signedUnits (negative : Bool) (rank : Nat) : Int :=
  if negative then -(units rank : Int) else units rank

/-- Addition, rounded once. A vanishing sum is negative only if both terms are. -/
def add : Double → Double → Double
  | .nan, _ => .nan
  | _, .nan => .nan
  | .infinite a, .infinite b => if a = b then .infinite a else .nan
  | .infinite a, .finite .. => .infinite a
  | .finite .., .infinite b => .infinite b
  | .finite a m, .finite b n =>
    let sum := signedUnits a m + signedUnits b n
    ofUnits (if sum = 0 then a && b else decide (sum < 0)) sum.natAbs 1

/-- Half of a number, rounded once. -/
def half : Double → Double
  | .nan => .nan
  | .infinite a => .infinite a
  | .finite a m => ofUnits a (units m) 2

/-- The midpoint of two numbers: half of their sum. The sum may overflow. -/
def midpoint (a b : Double) : Double :=
  (a.add b).half

end Double

end SchemaGraph
