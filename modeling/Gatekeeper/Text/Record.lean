import Gatekeeper.Text.Quoted

namespace Gatekeeper.Text

def sequence (items : List String) : String :=
  "[" ++ ", ".intercalate items ++ "]"

def optional : Option String → String
  | none => "None"
  | some text => "Some(" ++ text ++ ")"

def fieldTexts (fields : List (String × String)) : List String :=
  fields.map fun f => f.1 ++ ": " ++ f.2

/-- A record whose listed fields are all it has. -/
def record (name : String) (fields : List (String × String)) : String :=
  name ++ " \x7b " ++ ", ".intercalate (fieldTexts fields) ++ " \x7d"

/-- A record that has more fields than are listed. -/
def openRecord (name : String) (fields : List (String × String)) : String :=
  name ++ " \x7b " ++ ", ".intercalate (fieldTexts fields ++ [".."]) ++ " \x7d"

/-- A name wrapped around one value. -/
def wrapped (name : String) (value : String) : String :=
  name ++ "(" ++ value ++ ")"

def quotedSequence (items : List String) : String :=
  sequence (items.map quoted)

def quotedOptional (text : Option String) : String :=
  optional (text.map quoted)

def flag (b : Bool) : String :=
  if b then "true" else "false"

end Gatekeeper.Text
