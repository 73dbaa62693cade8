namespace Gatekeeper.MediaRange

/-- The pieces between the separators, empty ones too. -/
def pieces (separator : Char) : List Char → List (List Char)
  | [] => [[]]
  | c :: rest =>
    if c = separator then [] :: pieces separator rest
    else match pieces separator rest with
      | [] => [[c]]
      | p :: ps => (c :: p) :: ps

/-- Header text has no other blanks. -/
def isBlank (c : Char) : Bool := c = ' ' || c = '\t'

def trim (s : List Char) : List Char :=
  ((s.dropWhile isBlank).reverse.dropWhile isBlank).reverse

def withoutParameters (s : List Char) : List Char := s.takeWhile (· ≠ ';')

/-- The ranges that the text of an Accept header lists, without parameters and the blanks around
them. -/
def ranges (accept : String) : List (List Char) :=
  ((pieces ',' accept.toList).map fun p => trim (withoutParameters p)).filter (!·.isEmpty)

def sameIgnoringCase (a b : List Char) : Bool := a.map Char.toLower = b.map Char.toLower

/-- What stands before `/*` in a range of that form. -/
def kind? (range : List Char) : Option (List Char) :=
  if ['/', '*'].isSuffixOf range then some (range.take (range.length - 2)) else none

/-- What stands before the first slash of a media type that has one. -/
def mediaKind? (mediaType : List Char) : Option (List Char) :=
  if '/' ∈ mediaType then some (mediaType.takeWhile (· ≠ '/')) else none

def covers (range : List Char) (mediaType : String) : Bool :=
  range = ['*', '/', '*'] || sameIgnoringCase range mediaType.toList ||
    match kind? range, mediaKind? mediaType.toList with
    | some k, some m => sameIgnoringCase k m
    | _, _ => false

end Gatekeeper.MediaRange
