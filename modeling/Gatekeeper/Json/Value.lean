import Gatekeeper.Json.Number

namespace Gatekeeper.Json

inductive Value where
  | null
  | bool (b : Bool)
  | number (n : Number)
  | string (s : String)
  | array (items : List Value)
  | object (members : List (String × Value))

abbrev Object := List (String × Value)

namespace Value

def member? (v : Value) (key : String) : Option Value :=
  match v with
  | object members => members.lookup key
  | _ => none

def string? : Value → Option String
  | string s => some s
  | _ => none

def nat? : Value → Option Nat
  | number (.whole (.ofNat n)) => some n
  | _ => none

def isTrue : Value → Bool
  | bool b => b
  | _ => false

def items : Value → List Value
  | array vs => vs
  | _ => []

end Value

namespace Object

def get? (o : Object) (key : String) : Option Value := o.lookup key

def keys (o : Object) : List String := o.map (·.1)

def erase (o : Object) (key : String) : Object := o.filter (·.1 ≠ key)

theorem get?_erase (o : Object) (key : String) : (o.erase key).get? key = none := by
  simpa [get?, erase, List.lookup_eq_none_iff] using fun _ _ _ h => Ne.symm h

/-- Puts the member at its place in the order of keys, instead of one that had its key. -/
def insert (key : String) (value : Value) : Object → Object
  | [] => [(key, value)]
  | m :: rest =>
    if key < m.1 then (key, value) :: m :: rest
    else if key = m.1 then (key, value) :: rest
    else m :: insert key value rest

end Object

mutual

def Value.canonical : Value → Value
  | .array items => .array (canonicalItems items)
  | .object members => .object (canonicalMembers members)
  | v => v

def canonicalItems : List Value → List Value
  | [] => []
  | v :: rest => v.canonical :: canonicalItems rest

/-- Members by key; of several with one key the last one stands. -/
def canonicalMembers : List (String × Value) → Object
  | [] => []
  | (key, v) :: rest =>
    let others := canonicalMembers rest
    if (Object.get? others key).isSome then others else Object.insert key v.canonical others

end

end Gatekeeper.Json
