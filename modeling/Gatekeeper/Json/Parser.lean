import Gatekeeper.Json.Value

namespace Gatekeeper.Json

def isBlank (c : Char) : Bool := c = ' ' || c = '\t' || c = '\n' || c = '\r'

def skipBlanks (s : List Char) : List Char := s.dropWhile isBlank

def hexValue? (c : Char) : Option Nat :=
  if '0' ≤ c ∧ c ≤ '9' then some (c.toNat - 48)
  else if 'a' ≤ c ∧ c ≤ 'f' then some (c.toNat - 87)
  else if 'A' ≤ c ∧ c ≤ 'F' then some (c.toNat - 55)
  else none

def hexUnit? (a b c d : Char) : Option Nat := do
  let a ← hexValue? a
  let b ← hexValue? b
  let c ← hexValue? c
  let d ← hexValue? d
  some (((a * 16 + b) * 16 + c) * 16 + d)

def simpleEscape? : Char → Option Char
  | '"' => some '"'
  | '\\' => some '\\'
  | '/' => some '/'
  | 'b' => some '\x08'
  | 'f' => some '\x0c'
  | 'n' => some '\n'
  | 'r' => some '\r'
  | 't' => some '\t'
  | _ => none

def charOf? (n : Nat) : Option Char :=
  if n.isValidChar then some (Char.ofNat n) else none

/-- A code point above the first plane is written as two units. -/
def readUnits? (a b c d : Char) (rest : List Char) : Option (Char × List Char) := do
  let high ← hexUnit? a b c d
  if 0xd800 ≤ high ∧ high < 0xdc00 then
    match rest with
    | '\\' :: 'u' :: e :: f :: g :: h :: rest => do
      let low ← hexUnit? e f g h
      if 0xdc00 ≤ low ∧ low < 0xe000 then
        let x ← charOf? (0x10000 + (high - 0xd800) * 0x400 + (low - 0xdc00))
        some (x, rest)
      else none
    | _ => none
  else
    let x ← charOf? high
    some (x, rest)

/-- One character of a string and what follows it. -/
def readChar? : List Char → Option (Char × List Char)
  | '\\' :: 'u' :: a :: b :: c :: d :: rest => readUnits? a b c d rest
  | '\\' :: c :: rest => (simpleEscape? c).map (·, rest)
  | c :: rest => if c.toNat < 0x20 then none else some (c, rest)
  | [] => none

/-- The characters up to the closing mark. -/
def readString? : Nat → List Char → Option (List Char × List Char)
  | 0, _ => none
  | _ + 1, '"' :: rest => some ([], rest)
  | fuel + 1, s => do
    let (c, rest) ← readChar? s
    let (cs, rest) ← readString? fuel rest
    some (c :: cs, rest)

def isDigit (c : Char) : Bool := '0' ≤ c ∧ c ≤ '9'

def digitsValue (ds : List Char) : Nat :=
  ds.foldl (fun n c => n * 10 + (c.toNat - 48)) 0

def digitRun? (s : List Char) : Option (List Char × List Char) :=
  match s.takeWhile isDigit with
  | [] => none
  | ds => some (ds, s.dropWhile isDigit)

def readFraction? : List Char → Option (List Char × List Char)
  | '.' :: rest => digitRun? rest
  | s => some ([], s)

def readSigned? : List Char → Option (Int × List Char)
  | '-' :: rest => (digitRun? rest).map fun p => (-(digitsValue p.1 : Int), p.2)
  | '+' :: rest => (digitRun? rest).map fun p => ((digitsValue p.1 : Int), p.2)
  | s => (digitRun? s).map fun p => ((digitsValue p.1 : Int), p.2)

def readExponent? : List Char → Option (Option Int × List Char)
  | 'e' :: rest | 'E' :: rest => (readSigned? rest).map fun p => (some p.1, p.2)
  | s => some (none, s)

def readMagnitude? (negative : Bool) (s : List Char) : Option (Number × List Char) := do
  let (whole, rest) ← digitRun? s
  if whole.head? = some '0' ∧ whole.length ≠ 1 then none
  else
    let (fraction, rest) ← readFraction? rest
    let (exponent, rest) ← readExponent? rest
    let plain := fraction.isEmpty && exponent.isNone
    some (.ofDecimal negative (digitsValue (whole ++ fraction))
      (exponent.getD 0 - fraction.length) plain, rest)

def readNumber? : List Char → Option (Number × List Char)
  | '-' :: rest => readMagnitude? true rest
  | s => readMagnitude? false s

def readKey? (s : List Char) : Option (String × List Char) :=
  match skipBlanks s with
  | '"' :: rest => do
    let (key, rest) ← readString? (rest.length + 1) rest
    match skipBlanks rest with
    | ':' :: rest => some (String.ofList key, rest)
    | _ => none
  | _ => none

mutual

def readValue? : Nat → List Char → Option (Value × List Char)
  | 0, _ => none
  | fuel + 1, s =>
    match skipBlanks s with
    | 'n' :: 'u' :: 'l' :: 'l' :: rest => some (.null, rest)
    | 't' :: 'r' :: 'u' :: 'e' :: rest => some (.bool true, rest)
    | 'f' :: 'a' :: 'l' :: 's' :: 'e' :: rest => some (.bool false, rest)
    | '"' :: rest =>
      (readString? (rest.length + 1) rest).map fun p => (.string (String.ofList p.1), p.2)
    | '[' :: rest =>
      match skipBlanks rest with
      | ']' :: rest => some (.array [], rest)
      | rest => (readItems? fuel rest).map fun p => (.array p.1, p.2)
    | '\x7b' :: rest =>
      match skipBlanks rest with
      | '\x7d' :: rest => some (.object [], rest)
      | rest => (readMembers? fuel rest).map fun p => (.object p.1, p.2)
    | rest => (readNumber? rest).map fun p => (.number p.1, p.2)

/-- One item or more, up to the closing bracket. -/
def readItems? : Nat → List Char → Option (List Value × List Char)
  | 0, _ => none
  | fuel + 1, s => do
    let (v, rest) ← readValue? fuel s
    match skipBlanks rest with
    | ']' :: rest => some ([v], rest)
    | ',' :: rest => (readItems? fuel rest).map fun p => (v :: p.1, p.2)
    | _ => none

/-- One member or more, up to the closing brace. -/
def readMembers? : Nat → List Char → Option (List (String × Value) × List Char)
  | 0, _ => none
  | fuel + 1, s => do
    let (key, rest) ← readKey? s
    let (v, rest) ← readValue? fuel rest
    match skipBlanks rest with
    | '\x7d' :: rest => some ([(key, v)], rest)
    | ',' :: rest => (readMembers? fuel rest).map fun p => ((key, v) :: p.1, p.2)
    | _ => none

end

/-- One value with blanks around it. A value and the list that it may stand in take one unit of
fuel each, and each starts with a character of its own, so that twice the length is enough. -/
def parse? (text : String) : Option Value :=
  let s := text.toList
  match readValue? (2 * s.length + 2) s with
  | some (v, rest) => if (skipBlanks rest).isEmpty then some v else none
  | none => none

end Gatekeeper.Json
