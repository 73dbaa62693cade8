namespace Gatekeeper.Http

abbrev HeaderValue := List UInt8

namespace HeaderValue

/-- The visible characters, the space and the tab. -/
def isTextByte (b : UInt8) : Bool := (0x20 ≤ b && b < 0x7f) || b = 9

/-- A value with any other byte cannot be read as text. -/
def text? (v : HeaderValue) : Option String :=
  if v.all isTextByte then some (String.ofList (v.map fun b => Char.ofNat b.toNat)) else none

def ofText (s : String) : HeaderValue := s.toUTF8.toList

end HeaderValue

/-- The values of one name stay in the order they were given. -/
abbrev Headers := List (String × HeaderValue)

namespace Headers

/-- Names are kept in lower case and compared that way. -/
def key (name : String) : String := name.toLower

def values (h : Headers) (name : String) : List HeaderValue :=
  (h.filter (·.1 = key name)).map (·.2)

def first? (h : Headers) (name : String) : Option HeaderValue := (h.values name).head?

def remove (h : Headers) (name : String) : Headers := h.filter (·.1 ≠ key name)

theorem values_remove (h : Headers) (name : String) : (h.remove name).values name = [] := by
  simp [values, remove, List.filter_filter]

def append (h : Headers) (name : String) (value : HeaderValue) : Headers :=
  h ++ [(key name, value)]

/-- Replaces every value of the name. -/
def insert (h : Headers) (name : String) (value : HeaderValue) : Headers :=
  (h.remove name).append name value

theorem values_append (h : Headers) (name : String) (value : HeaderValue) :
    (h.append name value).values name = h.values name ++ [value] := by
  simp [values, append]

theorem values_insert (h : Headers) (name : String) (value : HeaderValue) :
    (h.insert name value).values name = [value] := by
  simp [insert, values_append, values_remove]

end Headers

end Gatekeeper.Http
