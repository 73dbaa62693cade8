import Gatekeeper.Proofs.Refusal.MediaRange
import Gatekeeper.Refusal.Responder

namespace Gatekeeper

open Http (HeaderValue Request)
open MediaRange (EqUpToCase Covers Lists covers covers_iff lists_iff ranges ranges_eqUpToCase)

variable {ω : Type}

namespace Negotiator

variable {n : Negotiator} {ws : List Writer} {w : Writer} {r r' : Request} {rs : List (List Char)}

/-- How negotiators are made, each with the writers that it has. It starts with a list of writers or
with the JSON writer, which also stands in for an empty list, and others are added to it. -/
inductive Made : Negotiator → List Writer → Prop
  | new : Made {} [.json]
  | ofNone : Made (ofWriters []) [.json]
  | ofSome (w : Writer) (ws : List Writer) : Made (ofWriters (w :: ws)) (w :: ws)
  | added {n : Negotiator} {ws : List Writer} (made : Made n ws) (w : Writer) :
      Made (n.add w) (ws ++ [w])

theorem Made.writers_eq (made : Made n ws) : n.writers = ws := by
  induction made with
  | new => rfl
  | ofNone => rfl
  | ofSome w ws => rfl
  | @added n ws _ w ih => rw [writers_add, ih]

/-- The text that the client accepts by: that of the first value, if it is text. -/
inductive Accepts (r : Request) : String → Prop
  | intro {value others text} (values : r.headers.values "accept" = value :: others)
      (readable : value.text? = some text) : Accepts r text

/-- The ranges that the client wants, the foremost first. -/
inductive Wants (r : Request) : List (List Char) → Prop
  | listed {text rs} (accepts : Accepts r text) (lists : Lists text rs) : Wants r rs
  | unsaid (silent : ∀ text, ¬ Accepts r text) : Wants r []

/-- The writer to choose: of those that the first useful range covers the earliest, and the first
writer of all if no range is of use. -/
inductive Chooses (writers : List Writer) (wanted : List (List Char)) : Writer → Prop
  | covered {earlier range later before w after} (split : wanted = earlier ++ range :: later)
      (useless : ∀ r ∈ earlier, ∀ x ∈ writers, ¬ Covers r x.mediaType.toList)
      (place : writers = before ++ w :: after)
      (passed : ∀ x ∈ before, ¬ Covers range x.mediaType.toList)
      (covers : Covers range w.mediaType.toList) : Chooses writers wanted w
  | fallback {w rest} (useless : ∀ r ∈ wanted, ∀ x ∈ writers, ¬ Covers r x.mediaType.toList)
      (place : writers = w :: rest) : Chooses writers wanted w

theorem Chooses.mem (chooses : Chooses ws rs w) : w ∈ ws := by
  cases chooses with
  | covered _ _ place =>
    rw [place]
    exact List.mem_append_right _ List.mem_cons_self
  | fallback _ place =>
    rw [place]
    exact List.mem_cons_self

theorem accepts_iff {text : String} : Accepts r text ↔ accept? r = some text := by
  unfold accept? Http.Headers.first?
  constructor
  · intro accepts
    cases accepts with
    | intro values readable =>
      rw [values]
      exact readable
  · intro read
    cases values : r.headers.values "accept" with
    | nil =>
      rw [values] at read
      cases read
    | cons value others =>
      rw [values] at read
      exact .intro values read

theorem wants_iff : Wants r rs ↔ rs = ((accept? r).map ranges).getD [] := by
  cases read : accept? r with
  | none =>
    have silent (text : String) : ¬ Accepts r text := by
      rw [accepts_iff, read]
      exact nofun
    constructor
    · intro wants
      cases wants with
      | listed accepts => exact (silent _ accepts).elim
      | unsaid => rfl
    · intro same
      rw [same]
      exact .unsaid silent
  | some text =>
    have accepts : Accepts r text := accepts_iff.mpr read
    constructor
    · intro wants
      cases wants with
      | listed accepts' lists =>
        have same := (accepts_iff.mp accepts').symm.trans read
        rw [Option.some.inj same] at lists
        exact lists_iff.mp lists
      | unsaid silent => exact (silent text accepts).elim
    · intro same
      exact .listed accepts (lists_iff.mpr same)

/-- The first of the writers that a range covers. -/
def suited? (writers : List Writer) (range : List Char) : Option Writer :=
  writers.find? fun w => covers range w.mediaType

theorem suited?_eq_none_iff {range : List Char} :
    suited? ws range = none ↔ ∀ x ∈ ws, ¬ Covers range x.mediaType.toList := by
  unfold suited?
  rw [List.find?_eq_none]
  simp only [covers_iff]

theorem suited?_eq_some_iff {range : List Char} :
    suited? ws range = some w ↔
      Covers range w.mediaType.toList ∧
        ∃ before after, ws = before ++ w :: after ∧
          ∀ x ∈ before, ¬ Covers range x.mediaType.toList := by
  unfold suited?
  rw [List.find?_eq_some_iff_append]
  simp only [covers_iff, Bool.not_eq_true', ← Bool.not_eq_true]

theorem select_eq (accept : Option String) :
    n.select accept =
      (((accept.map ranges).getD []).findSome? (suited? n.writers)).getD n.first := rfl

theorem chooses_iff :
    Chooses n.writers rs w ↔ w = (rs.findSome? (suited? n.writers)).getD n.first := by
  -- The ranges of no use are those in which no writer is found.
  have useless_iff (wanted : List (List Char)) :
      wanted.findSome? (suited? n.writers) = none ↔
        ∀ r ∈ wanted, ∀ x ∈ n.writers, ¬ Covers r x.mediaType.toList := by
    rw [List.findSome?_eq_none_iff]
    simp only [suited?_eq_none_iff]
  constructor
  · intro chooses
    cases chooses with
    | @covered earlier range later before w after split useless place passed covers =>
      have none := (useless_iff earlier).mpr useless
      have here : suited? n.writers range = some w :=
        suited?_eq_some_iff.mpr ⟨covers, before, after, place, passed⟩
      rw [split, List.findSome?_append, none, List.findSome?_cons, here]
      rfl
    | fallback useless place =>
      have none := (useless_iff rs).mpr useless
      rw [none]
      exact (List.cons.inj place).1.symm
  · intro same
    cases found : rs.findSome? (suited? n.writers) with
    | none =>
      rw [found] at same
      rw [same]
      exact .fallback ((useless_iff rs).mp found) rfl
    | some x =>
      rw [found] at same
      obtain ⟨earlier, range, later, split, here, none⟩ := List.findSome?_eq_some_iff.mp found
      obtain ⟨covers, before, after, place, passed⟩ := suited?_eq_some_iff.mp here
      have useless := (useless_iff earlier).mp (List.findSome?_eq_none_iff.mpr none)
      rw [same]
      exact .covered split useless place passed covers

/-- Some writer is covered by one of the ranges. -/
def Useful (writers : List Writer) (wanted : List (List Char)) : Prop :=
  ∃ range ∈ wanted, ∃ w ∈ writers, Covers range w.mediaType.toList

theorem not_useful_iff :
    ¬ Useful ws rs ↔ ∀ range ∈ rs, ∀ w ∈ ws, ¬ Covers range w.mediaType.toList := by
  simp only [Useful, not_exists, not_and]

theorem respond_eq (n : Negotiator) (x : Exchange) (e : AuthError) (memory : ω) :
    n.toResponder.respond x e memory = (.ok ((n.select (accept? x.request)).write e), memory) := rfl

/-- The answer is that of the writer to choose from the ranges that the client wants. -/
theorem respond_of_chooses {x : Exchange} (wants : Wants x.request rs)
    (chooses : Chooses n.writers rs w) (e : AuthError) (memory : ω) :
    n.toResponder.respond x e memory = (.ok (w.write e), memory) := by
  rw [respond_eq, select_eq, chooses_iff.mp chooses, wants_iff.mp wants]

theorem exists_chooses (n : Negotiator) (rs : List (List Char)) : ∃ w, Chooses n.writers rs w :=
  ⟨_, chooses_iff.mpr rfl⟩

/-- A client that writes its text in another way: with letters in another case, or with other blanks
and parameters around the same ranges. -/
inductive Rewrites (r r' : Request) : Prop
  | letters {text text'} (accepts : Accepts r text) (accepts' : Accepts r' text')
      (alike : EqUpToCase text.toList text'.toList) : Rewrites r r'
  | trimmings {rs : List (List Char)} (wants : Wants r rs) (wants' : Wants r' rs) : Rewrites r r'

theorem suited?_of_eqUpToCase {range range' : List Char} (alike : EqUpToCase range range') :
    suited? ws range' = suited? ws range := by
  unfold suited?
  congr 1
  funext w
  rw [Bool.eq_iff_iff, covers_iff, covers_iff]
  exact ⟨.congr alike.symm, .congr alike⟩

theorem findSome?_suited?_of_eqUpToCase {rs' : List (List Char)}
    (alike : List.Forall₂ EqUpToCase rs rs') :
    rs'.findSome? (suited? ws) = rs.findSome? (suited? ws) := by
  induction alike with
  | nil => rfl
  | cons here _ ih => rw [List.findSome?_cons, List.findSome?_cons, suited?_of_eqUpToCase here, ih]

theorem Rewrites.select_eq (rewrites : Rewrites r r') :
    n.select (accept? r') = n.select (accept? r) := by
  cases rewrites with
  | letters accepts accepts' alike =>
    rw [accepts_iff.mp accepts, accepts_iff.mp accepts', Negotiator.select_eq,
      Negotiator.select_eq]
    exact congrArg (·.getD n.first) (findSome?_suited?_of_eqUpToCase (ranges_eqUpToCase alike))
  | trimmings wants wants' =>
    rw [Negotiator.select_eq, Negotiator.select_eq, ← wants_iff.mp wants, ← wants_iff.mp wants']

/-- A negotiator always has a writer, and it answers by the one to choose from the ranges that the
client wants. Another way of writing them changes nothing. -/
theorem respond_by_choice (made : Made n ws) (x : Exchange) (e : AuthError) (memory : ω) :
    n.writers = ws ∧ ws ≠ [] ∧
    (∃ rs w, (∀ rs', Wants x.request rs' ↔ rs' = rs) ∧ (∀ w', Chooses ws rs w' ↔ w' = w) ∧
      w ∈ ws ∧ n.toResponder.respond x e memory = (.ok (w.write e), memory)) ∧
    ∀ x' : Exchange, Rewrites x.request x'.request →
      n.toResponder.respond x' e memory = n.toResponder.respond x e memory := by
  have held : n.writers = ws := made.writers_eq
  let rs := ((accept? x.request).map ranges).getD []
  have nonempty : ws ≠ [] := by
    rw [← held]
    exact List.cons_ne_nil n.first n.others
  have only (rs' : List (List Char)) : Wants x.request rs' ↔ rs' = rs := wants_iff
  have chosen (w' : Writer) : Chooses ws rs w' ↔ w' = n.select (accept? x.request) := by
    rw [← held]
    exact chooses_iff
  have member := ((chosen _).mpr rfl).mem
  refine ⟨held, nonempty, ⟨rs, _, only, chosen, member, rfl⟩, ?_⟩
  intro x' rewrites
  show (Except.ok ((n.select (accept? x'.request)).write e), memory) =
    (Except.ok ((n.select (accept? x.request)).write e), memory)
  rw [rewrites.select_eq]

/-- A client that wants any text gets the page, in whatever letters it writes so. -/
theorem respond_by_choice_of_page :
    let page : Writer := ⟨"text/html", fun e => .bare e.status⟩
    let n : Negotiator := (ofWriters []).add page
    let asking (value : HeaderValue) : Exchange := .start "1" { headers := [("accept", value)] }
    let small := asking [116, 101, 120, 116, 47, 42]
    let large := asking [84, 69, 88, 84, 47, 42]
    Made n [.json, page] ∧ Accepts small.request "text/*" ∧ Accepts large.request "TEXT/*" ∧
    ∀ (e : AuthError) (memory : Nat),
      n.toResponder.respond small e memory = (.ok (page.write e), memory) ∧
      n.toResponder.respond large e memory = (.ok (page.write e), memory) := by
  intro page n asking small large
  have made : Made n [.json, page] := .added .ofNone page
  have values (value : HeaderValue) : (asking value).request.headers.values "accept" = [value] := by
    have key : Http.Headers.key "accept" = "accept" := by decide +kernel
    simp [asking, Exchange.start, Http.Headers.values, key]
  have accepts : Accepts small.request "text/*" := .intro (values _) rfl
  have accepts' : Accepts large.request "TEXT/*" := .intro (values _) rfl
  refine ⟨made, accepts, accepts', ?_⟩
  intro e memory
  let text := ['t', 'e', 'x', 't', '/', '*']
  have aside : ¬ Covers text Writer.json.mediaType.toList := by
    rw [← covers_iff]
    decide +kernel
  have suits : Covers text page.mediaType.toList := covers_iff.mp (by decide +kernel)
  have split : [text] = [] ++ text :: [] := rfl
  have place : [.json, page] = [.json] ++ page :: [] := rfl
  have choice : Chooses [.json, page] [text] page :=
    .covered split (List.forall_mem_nil _) place (List.forall_mem_singleton.mpr aside) suits
  obtain ⟨-, -, ⟨rs, w, wants, chooses, -, answer⟩, again⟩ :=
    respond_by_choice made small e memory
  have listed : [text] = rs := (wants _).mp (.listed accepts (lists_iff.mpr (by decide +kernel)))
  rw [listed] at choice
  have chosen : page = w := (chooses page).mp choice
  rw [← chosen] at answer
  have rewrites : Rewrites small.request large.request :=
    .letters accepts accepts' (by decide +kernel)
  exact ⟨answer, (again large rewrites).trans answer⟩

end Negotiator

end Gatekeeper
