import FieldTemplate.Text.Basic

/-!
# Binary64 numbers, exactly

A double is kept as sign, mantissa and exponent, so that every question about it is one of
integer arithmetic.  `ofRatio` rounds a quotient of integers to the nearest double, a half to
the even mantissa; reading a decimal, adding and multiplying are instances of it.
-/

namespace FieldTemplate

set_option autoImplicit false

/-- `finite negative m e` is `m * 2 ^ e`, negated if so marked; zero keeps its sign. -/
inductive Binary64 where
  | nan
  | infinite (negative : Bool)
  | finite (negative : Bool) (mantissa : Nat) (exponent : Int)
deriving DecidableEq, Repr

/-- The quotient rounded to the nearest integer, a half to the even one. -/
def roundDiv (num den : Nat) : Nat :=
  let q := num / den
  let r := num % den
  if 2 * r < den then q else if den < 2 * r then q + 1 else q + q % 2

namespace Binary64

def minExponent : Int := -1074
def maxExponent : Int := 971
def precision : Nat := 53

def zero : Binary64 := .finite false 0 minExponent

/-- The exponent of the binary digit with the highest weight of a positive quotient. -/
def log2Ratio (num den : Nat) : Int :=
  let d : Int := (num.log2 : Int) - den.log2
  if den * Nat.pow 2 d.toNat ≤ num * Nat.pow 2 (-d).toNat then d else d - 1

/-- The double nearest to a quotient; beyond the largest one, an infinity. -/
def ofRatio (negative : Bool) (num den : Nat) : Binary64 :=
  if num = 0 then .finite negative 0 minExponent
  else
    let e := max minExponent (log2Ratio num den - (precision - 1))
    let m := roundDiv (num * Nat.pow 2 (-e).toNat) (den * Nat.pow 2 e.toNat)
    let (m, e) := if m = Nat.pow 2 precision then (Nat.pow 2 (precision - 1), e + 1) else (m, e)
    if maxExponent < e then .infinite negative else .finite negative m e

def ofInt (n : Int) : Binary64 := ofRatio (n < 0) n.natAbs 1

/-- No double but an infinity reaches ten to this power, and none but zero is below its
inverse with the mantissa's digits to spare. -/
def decimalReach : Int := 400

/-- The double nearest to `digits * 10 ^ exponent`. -/
def ofDecimal (negative : Bool) (digits : Nat) (exponent : Int) : Binary64 :=
  if digits = 0 then .finite negative 0 minExponent
  else
    let size : Int := (Text.ofNat digits).length + exponent
    if decimalReach < size then .infinite negative
    else if size < -decimalReach then .finite negative 0 minExponent
    else ofRatio negative (digits * Nat.pow 10 exponent.toNat) (Nat.pow 10 (-exponent).toNat)

/-- The magnitude of a finite double as numerator and denominator. -/
def ratio (mantissa : Nat) (exponent : Int) : Nat × Nat :=
  (mantissa * Nat.pow 2 exponent.toNat, Nat.pow 2 (-exponent).toNat)

def neg : Binary64 → Binary64
  | .nan => .nan
  | .infinite s => .infinite !s
  | .finite s m e => .finite (!s) m e

/-- The signed sum of two quotients; an exact zero is positive unless both parts are
negative. -/
def add : Binary64 → Binary64 → Binary64
  | .nan, _ => .nan
  | _, .nan => .nan
  | .infinite s, .infinite t => if s = t then .infinite s else .nan
  | .infinite s, .finite .. => .infinite s
  | .finite .., .infinite t => .infinite t
  | .finite s m e, .finite t n f =>
    let (a, b) := ratio m e
    let (c, d) := ratio n f
    let x : Int := (if s then -1 else 1) * (a * d)
    let y : Int := (if t then -1 else 1) * (c * b)
    let sum := x + y
    if sum = 0 then .finite (s && t) 0 minExponent
    else ofRatio (sum < 0) sum.natAbs (b * d)

def mul : Binary64 → Binary64 → Binary64
  | .nan, _ => .nan
  | _, .nan => .nan
  | .infinite s, .infinite t => .infinite (s != t)
  | .infinite s, .finite t n _ => if n = 0 then .nan else .infinite (s != t)
  | .finite s m _, .infinite t => if m = 0 then .nan else .infinite (s != t)
  | .finite s m e, .finite t n f =>
    let (a, b) := ratio m e
    let (c, d) := ratio n f
    ofRatio (s != t) (a * c) (b * d)

/-- The magnitude, if it is a whole number. -/
def whole? (mantissa : Nat) (exponent : Int) : Option Nat :=
  let (num, den) := ratio mantissa exponent
  if num % den = 0 then some (num / den) else none

end Binary64

end FieldTemplate
