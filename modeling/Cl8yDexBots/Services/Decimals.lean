import Cl8yDexBots.Foundation.Significant
import Cl8yDexBots.Services.Values

/-! The `decimal` module under its default context: reading, `normalize` and `format(_, "f")`. -/

namespace Cl8yDexBots.Services.Decimals

open Foundation.Checked Foundation.Significant Values

@[ext] structure Number where
  negative : Bool
  coefficient : ℕ
  exponent : ℤ
  deriving DecidableEq

namespace Number

def value (x : Number) : ℚ := if x.negative then -scaled x.coefficient x.exponent else scaled x.coefficient x.exponent

def adjusted (x : Number) : ℤ := decimalLength x.coefficient + x.exponent - 1

end Number

section Context

def prec : ℕ := 28

def emax : ℤ := 999999

def etop : ℤ := emax - prec + 1

def etiny : ℤ := -999999 - prec + 1

/-- `MAX_EMAX` and `MIN_ETINY`: a text beyond them is an `InvalidOperation`. -/
def Number.representable (x : Number) : Bool := -1999999999999999997 ≤ x.exponent ∧ x.adjusted ≤ 999999999999999999

/-- `_fix`: the number as it fits the context. -/
def Number.fix (x : Number) : Py Number :=
  let expMin := decimalLength x.coefficient + x.exponent - prec
  if x.coefficient = 0 then .ok x
  else if etop < expMin then .error (.other "Overflow")
  else
    let expMin := max expMin etiny
    if x.exponent < expMin then
      let coefficient := halfEven x.coefficient (10 ^ (expMin - x.exponent).toNat)
      if 10 ^ prec ≤ coefficient then
        if etop < expMin + 1 then .error (.other "Overflow")
        else .ok { x with coefficient := coefficient / 10, exponent := expMin + 1 }
      else .ok { x with coefficient, exponent := expMin }
    else .ok x

def stripZeros (coefficient : ℕ) (exponent : ℤ) : ℕ × ℤ :=
  if coefficient ≠ 0 ∧ coefficient % 10 = 0 ∧ exponent < emax then stripZeros (coefficient / 10) (exponent + 1)
  else (coefficient, exponent)
termination_by coefficient
decreasing_by omega

def Number.normalize (x : Number) : Py Number := do
  let y ← x.fix
  if y.coefficient = 0 then .ok { y with exponent := 0 }
  else
    let stripped := stripZeros y.coefficient y.exponent
    .ok { y with coefficient := stripped.1, exponent := stripped.2 }

end Context

section Text

def fixedPoint (digits : List Char) (places : ℕ) : List Char :=
  let padded := List.replicate (places + 1 - digits.length) '0' ++ digits
  padded.take (padded.length - places) ++ '.' :: padded.drop (padded.length - places)

def Number.format (x : Number) : List Char :=
  let digits := Nat.toDigits 10 x.coefficient
  let body := if 0 ≤ x.exponent then digits ++ List.replicate x.exponent.toNat '0'
    else fixedPoint digits (-x.exponent).toNat
  if x.negative then '-' :: body else body

inductive Parsed where
  | finite (x : Number)
  | special
  deriving DecidableEq

def isSpecial (cs : List Char) : Bool :=
  let cs := cs.map Char.toLower
  cs = "inf".toList || cs = "infinity".toList || nan cs || (cs.head? = some 's' && nan cs.tail)
where
  nan (cs : List Char) : Bool := "nan".toList.isPrefixOf cs && (cs.drop 3).all Char.isDigit

def readExponent : List Char → Option ℤ
  | [] => some 0
  | c :: cs =>
    if c = 'e' ∨ c = 'E' then
      match cs with
      | '-' :: cs => (plain cs).map fun n => -(n : ℤ)
      | '+' :: cs => (plain cs).map fun n => (n : ℤ)
      | cs => (plain cs).map fun n => (n : ℤ)
    else none
where
  plain (cs : List Char) : Option ℕ :=
    if !cs.isEmpty && cs.all Char.isDigit then some (Nat.ofDigitChars 10 cs 0) else none

def readFraction : List Char → List Char × List Char
  | '.' :: cs => cs.span Char.isDigit
  | cs => ([], cs)

def readUnsigned (negative : Bool) (cs : List Char) : Option Parsed :=
  if isSpecial cs then some .special
  else
    let (whole, rest) := cs.span Char.isDigit
    let (fraction, rest) := readFraction rest
    if whole.isEmpty && fraction.isEmpty then none
    else do
      let exponent ← readExponent rest
      let x : Number := ⟨negative, Nat.ofDigitChars 10 (whole ++ fraction) 0, exponent - fraction.length⟩
      if x.representable then some (.finite x) else none

/-- `Decimal(value)`, where `none` is an `InvalidOperation`. -/
def readNumber (value : String) : Option Parsed :=
  match (Json.strip value.toList).filter (· ≠ '_') with
  | '-' :: cs => readUnsigned true cs
  | '+' :: cs => readUnsigned false cs
  | cs => readUnsigned false cs

end Text

end Cl8yDexBots.Services.Decimals
