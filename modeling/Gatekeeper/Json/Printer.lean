import Gatekeeper.Json.Value

namespace Gatekeeper.Json

def hexDigit (n : Nat) : Char :=
  if n < 10 then Char.ofNat (n + 48) else Char.ofNat (n + 87)

/-- Only the quotation mark, the backslash and the characters below the space are escaped. -/
def escaped (c : Char) : List Char :=
  if c = '"' then ['\\', '"']
  else if c = '\\' then ['\\', '\\']
  else if c = '\x08' then ['\\', 'b']
  else if c = '\t' then ['\\', 't']
  else if c = '\n' then ['\\', 'n']
  else if c = '\x0c' then ['\\', 'f']
  else if c = '\r' then ['\\', 'r']
  else if c.toNat < 0x20 then
    ['\\', 'u', '0', '0', hexDigit (c.toNat / 16), hexDigit (c.toNat % 16)]
  else [c]

def stringText (s : List Char) : List Char :=
  '"' :: s.flatMap escaped ++ ['"']

mutual

def Value.text : Value → List Char
  | .null => ['n', 'u', 'l', 'l']
  | .bool true => ['t', 'r', 'u', 'e']
  | .bool false => ['f', 'a', 'l', 's', 'e']
  | .number n => n.text
  | .string s => stringText s.toList
  | .array items => '[' :: itemsText items ++ [']']
  | .object members => '\x7b' :: membersText members ++ ['\x7d']

def itemsText : List Value → List Char
  | [] => []
  | [v] => v.text
  | v :: w :: rest => v.text ++ ',' :: itemsText (w :: rest)

def membersText : List (String × Value) → List Char
  | [] => []
  | [(key, v)] => stringText key.toList ++ ':' :: v.text
  | (key, v) :: m :: rest =>
    stringText key.toList ++ ':' :: v.text ++ ',' :: membersText (m :: rest)

end

/-- There are no blanks, and members stand as they are listed. -/
def Value.compact (v : Value) : String := String.ofList v.text

end Gatekeeper.Json
