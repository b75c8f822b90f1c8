import DomainSchema.Decimal

namespace DomainSchema.Json

structure Numeral where
  negative : Bool
  whole : List Char
  fraction : List Char
  exponent : Option (Bool × List Char)
deriving DecidableEq, Repr

inductive Number where
  | integer (i : Int)
  | double (x : Decimal.Double)
deriving DecidableEq, Repr

def Number.text : Number → String
  | .integer i => toString i
  | .double x => x.pointed

def natOfDigits (digits : List Char) : Nat := Decimal.natOfDigits 10 digits

-- Takes digits into the significand as long as it stays below `2 ^ 64`. The rest is not looked at.
def takeSignificand (significand : Nat) : List Char → Nat × List Char
  | [] => (significand,[])
  | c :: digits =>
    let next := 10 * significand + natOfDigits [c]
    if next < Decimal.pow2 64 then takeSignificand next digits else (significand,c :: digits)

def powerOfTen? (n : Nat) : Option (Nat × Int) := Decimal.roundQuotient (Decimal.pow10 n) 1

def shrink : Nat → Nat × Int → Nat → Option (Nat × Int)
  | 0, _, _ => some (0,-1074)
  | steps + 1, x, power =>
    if power ≤ 308 then do Decimal.roundRatio x (← powerOfTen? power)
    else if x.1 = 0 then some x
    else do shrink steps (← Decimal.roundRatio x (← powerOfTen? 308)) (power - 308)

-- `significand * 10 ^ exponent` with one rounding for the significand and one for each scaling by a power
-- of ten. `none` means that the number is too large.
def scaled? (significand : Nat) (exponent : Int) : Option (Nat × Int) := do
  let x ← Decimal.roundQuotient significand 1
  if exponent < 0 then shrink 5 x (-exponent).toNat
  else if exponent ≤ 308 then Decimal.roundProduct x (← powerOfTen? exponent.toNat)
  else if significand = 0 then return x
  else none

def exponentLimit : Nat := Decimal.pow2 31

-- A digit of the whole part that does not fit counts as a zero, one of the fraction not at all.
def Numeral.double? (n : Numeral) : Option Decimal.Double :=
  let (significand,dropped) := takeSignificand 0 n.whole
  let (significand,unread) := takeSignificand significand n.fraction
  let base : Int := (dropped.length : Int) - (n.fraction.length - unread.length : Nat)
  let magnitude := match n.exponent with
    | none => scaled? significand base
    | some (negative,digits) =>
      let e := natOfDigits digits
      if exponentLimit ≤ e then
        if significand = 0 ∨ negative then some (0,-1074) else none
      else scaled? significand (if negative then base - e else base + e)
  magnitude.map fun (m,q) => .finite n.negative m q

def Numeral.value? (n : Numeral) : Option Number :=
  let i := natOfDigits n.whole
  if n.fraction.isEmpty ∧ n.exponent.isNone ∧
      (if n.negative then 0 < i ∧ i ≤ Decimal.pow2 63 else i < Decimal.pow2 64) then
    some (.integer (if n.negative then -(i : Int) else i))
  else n.double?.map .double

end DomainSchema.Json
