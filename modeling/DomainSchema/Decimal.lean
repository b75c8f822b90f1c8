import DomainSchema.Text

namespace DomainSchema.Decimal
open Text

def pow2 (n : Nat) : Nat := Nat.pow 2 n
def pow10 (n : Nat) : Nat := Nat.pow 10 n

-- A number of binary64: a finite one is `mantissa * 2 ^ exponent` with a sign of its own, also at zero. The mantissa
-- has 53 bits, or less at the least exponent, which is -1074.
inductive Double where
  | finite (negative : Bool) (mantissa : Nat) (exponent : Int)
  | infinite (negative : Bool)
  | notANumber
deriving DecidableEq, Repr

structure Scientific where
  coefficient : Nat
  power : Int
deriving DecidableEq, Repr

def quotient (m : Nat) (q p : Int) : Nat × Nat :=
  (m * pow2 q.toNat * pow10 (-p).toNat,pow2 (-q).toNat * pow10 p.toNat)

-- The point of the grid `10 ^ p` that reads back as the double and is nearest to it, if there is one.
-- In quarters of the last place the double is `4m`, and the reals between `4m - below` and `4m + 2` round to
-- it; both ends do so exactly when `m` is even. Below a power of two the next double is only half as far.
def gridPoint? (m : Nat) (q p : Int) : Option Nat :=
  let below := if m = pow2 52 ∧ -1074 < q then 1 else 2
  let (value, unit) := quotient (4 * m) (q - 2) p
  let (low, _) := quotient (4 * m - below) (q - 2) p
  let (high, _) := quotient (4 * m + 2) (q - 2) p
  let inside (d : Nat) : Bool :=
    if m % 2 = 0 then low ≤ d * unit && d * unit ≤ high else low < d * unit && d * unit < high
  let down := value / unit
  let up := down + 1
  match inside down, inside up with
  | false, false => none
  | true, false => some down
  | false, true => some up
  | true, true =>
    let short := value - down * unit
    let long := up * unit - value
    if short < long ∨ (short = long ∧ down % 2 = 0) then some down else some up

def search (m : Nat) (q : Int) : Nat → Int → Scientific
  | 0, _ => ⟨m,0⟩
  | tries + 1, p =>
    match gridPoint? m q p with
    | some d => if d = 0 then search m q tries (p - 1) else ⟨d,p⟩
    | none => search m q tries (p - 1)

-- The fewest digits that read back as `m * 2 ^ q`, and the nearest such number. No double needs more than
-- 17 digits, and the first grid tried is at most two decades too coarse.
def shortest (m : Nat) (q : Int) : Scientific :=
  if m = 0 then ⟨0,0⟩ else search m q 24 ((m.log2 + 1 + q) * 30103 / 100000 + 1)

def Scientific.positional (s : Scientific) : String :=
  let ds := digits 10 s.coefficient
  if 0 ≤ s.power then String.ofList (ds ++ List.replicate s.power.toNat '0')
  else
    let places := (-s.power).toNat
    let padded := List.replicate (places + 1 - ds.length) '0' ++ ds
    String.ofList (padded.take (padded.length - places) ++ '.' :: padded.drop (padded.length - places))

def Scientific.exponential (s : Scientific) : String :=
  let ds := digits 10 s.coefficient
  let exponent := s.power + (ds.length - 1 : Nat)
  let mark := (if exponent < 0 then "e-" else "e+") ++ toString exponent.natAbs
  match ds with
  | [] => "0"
  | [only] => String.ofList [only] ++ mark
  | first :: rest => String.ofList (first :: '.' :: rest) ++ mark

def signed (negative : Bool) (text : String) : String := if negative then "-" ++ text else text

def Double.plain : Double → String
  | .finite negative m q => signed negative (shortest m q).positional
  | .infinite negative => signed negative "inf"
  | .notANumber => "NaN"

def Double.pointed : Double → String
  | .finite negative m q =>
    let s := shortest m q
    let decade : Int := (digits 10 s.coefficient).length + s.power
    signed negative
      (if m = 0 then "0.0"
      else if -5 < decade ∧ decade ≤ 16 then if 0 ≤ s.power then s.positional ++ ".0" else s.positional
      else s.exponential)
  | .infinite negative => signed negative "inf"
  | .notANumber => "NaN"

def isDigit (c : Char) : Bool := '0' ≤ c && c ≤ '9'

def natOfDigits (base : Nat) (ds : List Char) : Nat :=
  ds.foldl (fun n c => base * n + digitOf c) 0
where
  digitOf (c : Char) : Nat :=
    if isDigit c then c.toNat - '0'.toNat
    else if 'a' ≤ c ∧ c ≤ 'f' then c.toNat - 'a'.toNat + 10
    else c.toNat - 'A'.toNat + 10

def log2Quotient (n d : Nat) : Int :=
  let guess : Int := (n.log2 : Int) - d.log2
  if d * pow2 guess.toNat ≤ n * pow2 (-guess).toNat then guess else guess - 1

-- The mantissa and the exponent of the double nearest to `n / d`, and of the even one of two. There is none
-- beyond the last finite double.
def roundQuotient (n d : Nat) : Option (Nat × Int) :=
  if n = 0 then some (0,-1074)
  else
    let q := max (log2Quotient n d - 52) (-1074)
    let (value, unit) := (n * pow2 (-q).toNat, d * pow2 q.toNat)
    let down := value / unit
    let rest := value % unit
    let m := if unit < 2 * rest ∨ (unit = 2 * rest ∧ down % 2 = 1) then down + 1 else down
    let (m, q) := if m = pow2 53 then (pow2 52, q + 1) else (m, q)
    if 971 < q then none else some (m,q)

def roundProduct (a b : Nat × Int) : Option (Nat × Int) :=
  let q := a.2 + b.2
  roundQuotient (a.1 * b.1 * pow2 q.toNat) (pow2 (-q).toNat)

def roundRatio (a b : Nat × Int) : Option (Nat × Int) :=
  let q := a.2 - b.2
  roundQuotient (a.1 * pow2 q.toNat) (b.1 * pow2 (-q).toNat)

def nearestQuotient (negative : Bool) (n d : Nat) : Double :=
  match roundQuotient n d with
  | some (m,q) => .finite negative m q
  | none => .infinite negative

def nearest (negative : Bool) (coefficient : Nat) (power : Int) : Double :=
  let decade : Int := (digits 10 coefficient).length + power
  if coefficient = 0 ∨ decade < -330 then .finite negative 0 (-1074)
  else if 310 < decade then .infinite negative
  else nearestQuotient negative (coefficient * pow10 power.toNat) (pow10 (-power).toNat)

structure Numeral where
  negative : Bool
  whole : List Char
  fraction : List Char
  exponentNegative : Bool
  exponent : List Char

def Numeral.double (n : Numeral) : Double :=
  let e : Int := natOfDigits 10 n.exponent
  nearest n.negative (natOfDigits 10 (n.whole ++ n.fraction))
    ((if n.exponentNegative then -e else e) - n.fraction.length)

def takeSign : List Char → Bool × List Char
  | '-' :: rest => (true,rest)
  | '+' :: rest => (false,rest)
  | rest => (false,rest)

def int? (text : String) : Option Int :=
  let (negative, ds) := takeSign text.toList
  if ds ≠ [] ∧ ds.all isDigit then
    some (if negative then -(natOfDigits 10 ds : Int) else natOfDigits 10 ds)
  else none

def fits64 (i : Int) : Bool := -(pow2 63 : Int) ≤ i ∧ i < pow2 63

def int64? (text : String) : Option Int := (int? text).filter fits64

def double? (text : String) : Option Double :=
  let (negative, cs) := takeSign text.toList
  let word := String.ofList (cs.map Char.toLower)
  if word = "inf" ∨ word = "infinity" then some (.infinite negative)
  else if word = "nan" then some .notANumber
  else
    let (whole, rest) := cs.span isDigit
    let (fraction, rest) := match rest with
      | '.' :: rest => rest.span isDigit
      | _ => ([],rest)
    if whole = [] ∧ fraction = [] then none
    else match rest with
      | [] => some (Numeral.double ⟨negative,whole,fraction,false,[]⟩)
      | mark :: rest =>
        let (exponentNegative, exponent) := takeSign rest
        if (mark = 'e' ∨ mark = 'E') ∧ exponent ≠ [] ∧ exponent.all isDigit then
          some (Numeral.double ⟨negative,whole,fraction,exponentNegative,exponent⟩)
        else none

end DomainSchema.Decimal
