import Gatekeeper.Decimal.Shortest

namespace Gatekeeper.Json

/-- A real number is kept as the bit pattern of its double. -/
inductive Number where
  | whole (n : Int)
  | real (bits : UInt64)
deriving DecidableEq

namespace Number

/-- A real number has an exponent unless its point falls between these places, which are counted
from its first digit. -/
def firstPlace : Int := -5

def lastPlace : Int := 16

def zeros (n : Nat) : List Char := List.replicate n '0'

/-- An exponent always has its sign. -/
def exponentText (e : Int) : List Char :=
  (if e < 0 then '-' else '+') :: Nat.toDigits 10 e.natAbs

/-- The text of `d * 10 ^ k`, which always has a fraction or an exponent. -/
def layout (d : List Char) (k : Int) : List Char :=
  let place := d.length + k
  if 0 ≤ k ∧ place ≤ lastPlace then d ++ zeros k.toNat ++ ['.', '0']
  else if 0 < place ∧ place ≤ lastPlace then
    d.take place.toNat ++ '.' :: d.drop place.toNat
  else if firstPlace < place ∧ place ≤ 0 then
    '0' :: '.' :: zeros (-place).toNat ++ d
  else
    let exponent := 'e' :: exponentText (place - 1)
    match d with
    | [] => exponent
    | [c] => c :: exponent
    | c :: rest => c :: '.' :: rest ++ exponent

def sign (bits : UInt64) : List Char :=
  if Nat.pow 2 63 ≤ bits.toNat then ['-'] else []

/-- A double that is no number has no text of its own and is written as null. -/
def realText (bits : UInt64) : List Char :=
  if bits.toNat % Nat.pow 2 63 = 0 then sign bits ++ ['0', '.', '0']
  else match Decimal.Binary.ofBits? bits with
    | none => ['n', 'u', 'l', 'l']
    | some b =>
      let (n, k) := Decimal.shortest b
      sign bits ++ layout (Nat.toDigits 10 n) k

def text : Number → List Char
  | whole (.ofNat n) => Nat.toDigits 10 n
  | whole (.negSucc n) => '-' :: Nat.toDigits 10 (n + 1)
  | real bits => realText bits

def least : Int := -Nat.pow 2 63

def greatest : Int := Nat.pow 2 64 - 1

/-- A number without fraction and exponent is whole if 64 bits hold it and it is not minus zero. -/
def ofDecimal (negative : Bool) (digits : Nat) (exponent : Int) (plain : Bool) : Number :=
  let n : Int := if negative then -digits else digits
  if plain ∧ least ≤ n ∧ n ≤ greatest ∧ !(negative && digits = 0) then .whole n
  else
    let x := Float.ofScientific digits (decide (exponent < 0)) exponent.natAbs
    .real (if negative then (-x).toBits else x.toBits)

end Number

end Gatekeeper.Json
