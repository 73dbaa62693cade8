namespace Gatekeeper.Http

/-- The target of a request: an asterisk, a path with query and fragment, an absolute address, or a
bare authority. Percent escapes are left alone. -/
structure Uri where
  text : String
deriving DecidableEq

namespace Uri

def endsPath (c : Char) : Bool := c = '?' || c = '#'

/-- What follows the first `://`. -/
def afterScheme? : List Char → Option (List Char)
  | ':' :: '/' :: '/' :: rest => some rest
  | _ :: rest => afterScheme? rest
  | [] => none

def afterAuthority (s : List Char) : List Char :=
  s.dropWhile fun c => c ≠ '/' && !endsPath c

/-- Path, query and fragment of a target that is not an asterisk; a bare authority has none. -/
def target? (u : Uri) : Option (List Char) :=
  match u.text.toList with
  | '/' :: rest => some ('/' :: rest)
  | s => (afterScheme? s).map afterAuthority

/-- An address without a path has the path of the root. -/
def path (u : Uri) : String :=
  if u.text = "*" then "*"
  else match u.target? with
    | none => ""
    | some s =>
      match s.takeWhile (!endsPath ·) with
      | [] => "/"
      | p => String.ofList p

/-- Neither query nor fragment is part of the path. -/
theorem not_endsPath_of_mem_path (u : Uri) {c : Char} (member : c ∈ u.path.toList) :
    endsPath c = false := by
  unfold path at member
  split at member
  · have star : c ∈ ['*'] := member
    rw [List.mem_singleton.mp star]
    rfl
  · split at member
    · cases member
    · next s _ =>
      split at member
      · have slash : c ∈ ['/'] := member
        rw [List.mem_singleton.mp slash]
        rfl
      · have all := List.all_eq_true.mp (List.all_takeWhile (p := (!endsPath ·)) (l := s)) c
        rw [String.toList_ofList] at member
        simpa using all member

def query? (u : Uri) : Option String :=
  match (u.target?.getD []).dropWhile (!endsPath ·) with
  | '?' :: rest => some (String.ofList (rest.takeWhile (· ≠ '#')))
  | _ => none

end Uri

end Gatekeeper.Http
