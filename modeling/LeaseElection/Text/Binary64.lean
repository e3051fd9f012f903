import LeaseElection.Text.Decimal

/-!
# Double precision numbers as text

A double is `significand * 2 ^ exponent` with a significand below 2^53. Decimal numerals are brought
to doubles by rounding to nearest, ties to even, after each arithmetic operation; a double is
written with the fewest digits that are nearer to it than to any other double.
-/
namespace LeaseElection

structure Binary64 where
  significand : Nat
  exponent : Int
  deriving DecidableEq, Repr

namespace Binary64

def zero : Binary64 := ⟨0, 0⟩

/-- A quotient rounded to the nearest natural number, a half going to the even one. -/
def roundDiv (num den : Nat) : Nat :=
  let floor := num / den
  let twice := 2 * (num % den)
  if den < twice ∨ (twice = den ∧ floor % 2 = 1) then floor + 1 else floor

def scale (num den : Nat) (exponent : Int) : Nat × Nat :=
  (num * Nat.pow 2 (-exponent).toNat, den * Nat.pow 2 exponent.toNat)

def round? (num den : Nat) : Option Binary64 :=
  if num = 0 then some zero
  else
    let guess : Int := (num.log2 : Int) - den.log2 - 52
    let (a, b) := scale num den guess
    let exponent := max (-1074) (if a / b < Nat.pow 2 52 then guess - 1 else guess)
    let (a, b) := scale num den exponent
    let m := roundDiv a b
    let rounded : Binary64 :=
      if m = Nat.pow 2 53 then ⟨Nat.pow 2 52, exponent + 1⟩ else ⟨m, exponent⟩
    if 971 < rounded.exponent then none else some rounded

def fraction (x : Binary64) : Nat × Nat :=
  (x.significand * Nat.pow 2 x.exponent.toNat, Nat.pow 2 (-x.exponent).toNat)

def powerOfTen (n : Nat) : Binary64 := (round? (Nat.pow 10 n) 1).getD zero

def mul? (x y : Binary64) : Option Binary64 :=
  let (a, b) := x.fraction
  let (c, d) := y.fraction
  round? (a * c) (b * d)

def div? (x y : Binary64) : Option Binary64 :=
  let (a, b) := x.fraction
  let (c, d) := y.fraction
  round? (a * d) (b * c)

def divPowersOfTen : Nat → Binary64 → Nat → Binary64
  | 0, x, _ => x
  | fuel + 1, x, n =>
    if n ≤ 308 then (x.div? (powerOfTen n)).getD zero
    else if x.significand = 0 then x
    else divPowersOfTen fuel ((x.div? (powerOfTen 308)).getD zero) (n - 308)

/-- The double for `significand * 10 ^ exponent`, where the significand is rounded first; nothing
if it is too large. -/
def ofDecimal? (significand : Nat) (exponent : Int) : Option Binary64 := do
  let x ← round? significand 1
  if 0 ≤ exponent then
    if exponent ≤ 308 then x.mul? (powerOfTen exponent.toNat)
    else if x.significand = 0 then some x
    else none
  else some (divPowersOfTen ((-exponent).toNat / 308 + 1) x (-exponent).toNat)

/-- Whether the decimal `n * 10 ^ k` is nearer to the double than to its neighbours; ends of the
interval count if the significand is even. -/
def readsBack (x : Binary64) (n : Nat) (k : Int) : Bool :=
  let narrow := x.significand = Nat.pow 2 52 ∧ -1074 < x.exponent
  -- everything is counted in quarters of the unit `2 ^ exponent`
  let low := 4 * x.significand - (if narrow then 1 else 2)
  let high := 4 * x.significand + 2
  let unit := x.exponent - 2
  let (num, den) :=
    (n * Nat.pow 10 k.toNat * Nat.pow 2 (-unit).toNat, Nat.pow 10 (-k).toNat * Nat.pow 2 unit.toNat)
  if x.significand % 2 = 0 then low * den ≤ num && num ≤ high * den
  else low * den < num && num < high * den

/-- The number of digits before the decimal point of a fraction: the least `k` with
`num / den < 10 ^ k`, looked for from a lower bound upwards. -/
def magnitude (num den : Nat) : Nat → Int → Int
  | 0, k => k
  | fuel + 1, k =>
    if num * Nat.pow 10 (-k).toNat < den * Nat.pow 10 k.toNat then k
    else magnitude num den fuel (k + 1)

/-- The first grid of decimals, from coarse to fine, that has a number which reads back; of two the
nearer one. -/
def search (x : Binary64) (top : Int) : Nat → Nat → Nat × Int
  | 0, _ => (x.fraction.1, 0)
  | fuel + 1, places =>
    let k := top - places
    let (num, den) := x.fraction
    let (a, b) := (num * Nat.pow 10 (-k).toNat, den * Nat.pow 10 k.toNat)
    let below := a / b
    match x.readsBack below k, x.readsBack (below + 1) k with
    | true, true => if 2 * a < b * (2 * below + 1) ∨ (2 * a = b * (2 * below + 1) ∧ below % 2 = 0)
        then (below, k) else (below + 1, k)
    | true, false => (below, k)
    | false, true => (below + 1, k)
    | false, false => search x top fuel (places + 1)

def shortest (x : Binary64) : List Char × Int :=
  let (num, den) := x.fraction
  let guess : Int := ((num.log2 : Int) - den.log2) * 30103 / 100000 - 1
  let top := magnitude num den 4 guess
  let (n, k) := search x top 17 1
  let ds := Decimal.digits n
  let zeros := (ds.reverse.takeWhile (· = '0')).length
  (ds.take (ds.length - zeros), k + zeros)

def exponentText (e : Int) : List Char :=
  'e' :: (if e < 0 then '-' else '+') :: Decimal.padded 2 e.natAbs

/-- The text of a double: with a point if the leading digit stands between the fifth decimal place
and the sixteenth place before the point, and with an exponent of ten otherwise. -/
def text (negative : Bool) (x : Binary64) : String :=
  let body : List Char :=
    if x.significand = 0 then ['0', '.', '0']
    else
      let (ds, k) := x.shortest
      let lead : Int := k + ds.length - 1
      if -5 ≤ lead ∧ lead ≤ 15 then
        if 0 ≤ k then ds ++ List.replicate k.toNat '0' ++ ['.', '0']
        else if 0 ≤ lead then ds.take (lead.toNat + 1) ++ '.' :: ds.drop (lead.toNat + 1)
        else '0' :: '.' :: List.replicate (-lead - 1).toNat '0' ++ ds
      else
        match ds with
        | [d] => d :: exponentText lead
        | d :: more => d :: '.' :: more ++ exponentText lead
        | [] => []
  String.ofList (if negative then '-' :: body else body)

end Binary64

end LeaseElection
