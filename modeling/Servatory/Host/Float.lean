import Servatory.Host.Config
import Servatory.Lib.Rounding
import Servatory.Lib.Text

/-! Floating-point numbers as the daemon reads them from text and brings them into a range. Zero has no sign here, as
    nothing looks at it. -/

namespace Servatory

/-- The numbers of `f64`, as far as they are not too large for it. -/
def binary64 : Rounding.Format := ⟨53, -1074, by decide⟩

namespace F64

/-- The first power of two that is too large. -/
def overflow : ℚ := 2 ^ 1024

/-- The number nearest to a rational one. -/
def ofRat (q : ℚ) : F64 :=
  let nearest := binary64.nearest q
  if overflow ≤ nearest then posInf else if nearest ≤ -overflow then negInf else finite nearest

/-- A product with a positive number. -/
def scale (factor : ℚ) : F64 → F64
  | finite value => ofRat (value * factor)
  | value => value

/-- The number as an integer between zero and a limit, halves away from zero. What is no number becomes zero. -/
def clampRound (limit : ℕ) : F64 → ℕ
  | nan => 0
  | negInf => 0
  | finite value => ⌊min (max value 0) limit + 1 / 2⌋.toNat
  | posInf => limit

end F64

/-! ### Text -/

/-- Digits, perhaps with a point before, between or behind them. -/
def parseMantissa (text : List Char) : Option ℚ :=
  let (whole, fraction) := (Text.splitOnce '.' text).getD (text, [])
  if (whole ++ fraction).isEmpty || !(whole ++ fraction).all (·.isDigit) then none
  else some ((Nat.ofDigitChars 10 (whole ++ fraction) 0 : ℚ) / 10 ^ fraction.length)

def takeSign (text : List Char) : Bool × List Char :=
  match text with
  | '-' :: rest => (true, rest)
  | '+' :: rest => (false, rest)
  | _ => (false, text)

/-- A power of ten. -/
def parseExponent (text : List Char) : Option ℤ :=
  let (negative, digits) := takeSign text
  if digits.isEmpty || !digits.all (·.isDigit) then none
  else some (if negative then -Nat.ofDigitChars 10 digits 0 else Nat.ofDigitChars 10 digits 0)

/-- A decimal number without a sign. -/
def parseDecimal (text : List Char) : Option ℚ :=
  match text.span fun c => c != 'e' && c != 'E' with
  | (mantissa, []) => parseMantissa mantissa
  | (mantissa, _ :: exponent) => do return (← parseMantissa mantissa) * 10 ^ (← parseExponent exponent)

def parseF64 (text : List Char) : Option F64 :=
  let (negative, body) := takeSign text
  let name := String.ofList (body.map Char.toLower)
  if name = "inf" ∨ name = "infinity" then some (if negative then .negInf else .posInf)
  else if name = "nan" then some .nan
  else (parseDecimal body).map fun q => F64.ofRat (if negative then -q else q)

/-! ### Ranges -/

def percent (value : F64) : UInt8 := (value.clampRound 100).toUInt8

def boundedU16 (value : F64) : UInt16 := (value.clampRound 65535).toUInt16

def parsePercentU8 (value : List Char) : Option UInt8 := (parseF64 value).map percent

end Servatory
