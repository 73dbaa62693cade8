import Gatekeeper.Refusal.MediaRange
import Gatekeeper.Refusal.Writer
import Gatekeeper.Text.Record

namespace Gatekeeper

open Http (HeaderValue Request Response)

structure Negotiator where
  first : Writer := .json
  others : List Writer := []

namespace Negotiator

def writers (n : Negotiator) : List Writer := n.first :: n.others

/-- Without any writer it is the JSON writer alone. -/
def ofWriters : List Writer → Negotiator
  | [] => {}
  | w :: rest => ⟨w, rest⟩

def add (n : Negotiator) (w : Writer) : Negotiator := { n with others := n.others ++ [w] }

theorem writers_add (n : Negotiator) (w : Writer) : (n.add w).writers = n.writers ++ [w] := rfl

theorem writers_foldl_add (n : Negotiator) (ws : List Writer) :
    (ws.foldl add n).writers = n.writers ++ ws := by
  induction ws generalizing n with
  | nil => rw [List.foldl_nil, List.append_nil]
  | cons w ws ih => rw [List.foldl_cons, ih, writers_add, List.append_assoc, List.singleton_append]

def mediaTypes (n : Negotiator) : List String := n.writers.map (·.mediaType)

/-- The earliest range that covers a writer decides, and of its writers the earliest; if there is
no such range, it is the first writer. -/
def select (n : Negotiator) (accept : Option String) : Writer :=
  let wanted := (accept.map MediaRange.ranges).getD []
  (wanted.findSome? fun r => n.writers.find? fun w => MediaRange.covers r w.mediaType).getD n.first

/-- The first Accept value, if it is text. -/
def accept? (r : Request) : Option String := (r.headers.first? "accept").bind HeaderValue.text?

def respond (n : Negotiator) (r : Request) (e : AuthError) : Response :=
  (n.select (accept? r)).write e

def diagnostic (n : Negotiator) : String :=
  Text.record "DefaultResponseHandler" [("writers", Text.quotedSequence n.mediaTypes)]

end Negotiator

end Gatekeeper
