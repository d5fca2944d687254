import LocoSounds.Binary64.Shortest

/-! Written forms of double-precision numbers. -/

namespace LocoSounds

/-- How the digits of a number are laid out. -/
structure NumeralStyle where
  /-- Leading digits from this exponent on are written with an exponent. -/
  scientificFrom : Int
  /-- Whole numbers end in this mark. -/
  wholeMark : String

namespace NumeralStyle

/-- Exact texts write numbers below `10 ^ 16` positionally and mark whole numbers as decimals. -/
def exact : NumeralStyle := ⟨16, ".0"⟩

/-- Brief texts write numbers below `10 ^ 6` positionally and whole numbers as integers. -/
def brief : NumeralStyle := ⟨6, ""⟩

/-- An exponent with its sign and at least two digits. -/
def exponentText (exponent : Int) : String :=
  let size := toString exponent.natAbs
  (if exponent < 0 then "e-" else "e+") ++ (if size.length < 2 then "0" ++ size else size)

/-- The digits of a decimal without trailing zeros. -/
def significantDigits (digits : Nat) : List Char :=
  ((Nat.toDigits 10 digits).reverse.dropWhile (· == '0')).reverse

/-- A positive decimal in the given style. -/
def write (style : NumeralStyle) (decimal : Decimal) : String :=
  let digits := significantDigits decimal.digits
  let leading := decimal.exponent + (Binary64.decimalLength decimal.digits : Int) - 1
  if leading < -4 ∨ style.scientificFrom ≤ leading then
    -- One digit stands before the point, and the exponent says where it belongs.
    let fraction := digits.drop 1
    String.ofList (digits.take 1) ++ (if fraction.isEmpty then "" else "." ++ String.ofList fraction)
      ++ exponentText leading
  else if leading < 0 then
    -- Zeros stand between the point and the digits.
    "0." ++ String.ofList (List.replicate ((-leading).toNat - 1) '0' ++ digits)
  else
    -- Zeros fill the places that the digits leave open before the point.
    let whole := leading.toNat + 1
    let fraction := digits.drop whole
    String.ofList ((digits ++ List.replicate whole '0').take whole)
      ++ (if fraction.isEmpty then style.wholeMark else "." ++ String.ofList fraction)

end NumeralStyle

namespace Binary64

/-- A number written in the given style, its digits chosen from its rank. -/
def write (style : NumeralStyle) (choose : Nat → Decimal) : Binary64 → String
  | .nan => "nan"
  | .number negative rank =>
    (if negative then "-" else "") ++
      if rank.val = infinityRank then "inf"
      else if rank.val = 0 then "0" ++ style.wholeMark
      else style.write (choose rank)

/-- The fewest digits that read back, so that different numbers have different texts. -/
def text (x : Binary64) : String := x.write .exact shortest

/-- At most six significant digits. -/
def briefText (x : Binary64) : String := x.write .brief (rounded · 6)

end Binary64

end LocoSounds
