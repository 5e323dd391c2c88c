import FieldTemplate.Value.Basic

/-!
# Keys

Keys are compared as the values they stand for: `true`, `1` and `1.0` are one key, whatever
their type, and two timestamps with offsets are one key if they are the same instant.  What is
no number is a key of its own each time, except for the one constant.

A decimal can stand for a number with far more digits than it is written with, so the powers of two
and of five in a number are not multiplied out.
-/

namespace FieldTemplate

set_option autoImplicit false

/-- A number without a factor, and how often it had the factor. -/
def splitOff (p : Nat) : Nat → Nat → Nat × Nat
  | 0, n => (n, 0)
  | steps + 1, n =>
    if n % p = 0 then
      let behind := splitOff p steps (n / p)
      (behind.1, behind.2 + 1)
    else (n, 0)

/-- A number that is not zero, split into its powers of two and of five and the rest. -/
structure TenSplit where
  rest : Nat
  twos : Nat
  fives : Nat

/-- A number has fewer factors than its own count. -/
def TenSplit.of (n : Nat) : TenSplit :=
  let two := splitOff 2 n n
  let five := splitOff 5 two.1 two.1
  ⟨five.1, two.2, five.2⟩

/-- A real number, or an infinity. -/
inductive Amount where
  /-- The number `num / den * 2 ^ twos * 5 ^ fives`, in lowest terms. -/
  | exact (num : Int) (den : Nat) (twos fives : Int)
  | infinity (negative : Bool)
deriving DecidableEq

namespace Amount

def zero : Amount := .exact 0 1 0 0

/-- The number `num / den * 2 ^ twos * 5 ^ fives`, negated if so marked. -/
def ofRatio (negative : Bool) (num den : Nat) (twos fives : Int) : Amount :=
  if num = 0 then zero
  else
    let n := TenSplit.of num
    let d := TenSplit.of den
    let g := Nat.gcd n.rest d.rest
    let magnitude : Int := (n.rest / g : Nat)
    .exact (if negative then -magnitude else magnitude) (d.rest / g) (twos + n.twos - d.twos)
      (fives + n.fives - d.fives)

def ofDouble? : Binary64 → Option Amount
  | .nan => none
  | .infinite s => some (.infinity s)
  | .finite s m e => some (ofRatio s m 1 e 0)

end Amount

namespace Atom

/-- What a key stands for, so that two keys are one exactly if they stand for the same, which
nothing that is no number does. -/
inductive Meaning where
  | number (re im : Amount)
  | notANumber
  | wallInstant (micros : Int)
  | utcInstant (micros : Int)
  | wallClock (micros : Int)
  | utcClock (micros : Int)
  | other (a : Atom)
deriving DecidableEq

namespace Meaning

def real (a : Amount) : Meaning := .number a .zero

def ofDoubles (re im : Binary64) : Meaning :=
  match Amount.ofDouble? re, Amount.ofDouble? im with
  | some a, some b => .number a b
  | _, _ => .notANumber

end Meaning

/-- A number is the complex number without an imaginary part, and all ranges without numbers are the
same. -/
def meaning : Atom → Meaning
  | .bool b => .real (.ofRatio false b.toNat 1 0 0)
  | .int n => .real (.ofRatio (n < 0) n.natAbs 1 0 0)
  | .fraction q => .real (.ofRatio (q.num < 0) q.num.natAbs q.den 0 0)
  | .double x => .ofDoubles x .zero
  | .complex re im => .ofDoubles re im
  | .decimal (.nan ..) => .notANumber
  | .decimal (.infinite s) => .real (.infinity s)
  | .decimal (.finite s c e) => .real (.ofRatio s c 1 e e)
  | .timestamp t => if t.time.offset.isSome then .utcInstant t.instant else .wallInstant t.instant
  | .time t => if t.offset.isSome then .utcClock t.instant else .wallClock t.instant
  | .range first stop => .other (if first < stop then .range first stop else .range 0 0)
  | a => .other a

/-- Whether two atoms are the same key. -/
def sameKey (a b : Atom) : Bool := a.meaning != .notANumber && a.meaning == b.meaning

end Atom

end FieldTemplate
