import Gatekeeper.Proofs.Refusal.Choice

namespace Gatekeeper

open Http (Headers HeaderValue Request)
open MediaRange (Covers Lists covers_iff lists_iff pieces pieces_eq_splitOn ranges)

variable {ω : Type}

/-- The same headers with a single line for the name, on which its values stand in order with commas
between them. -/
def Http.Headers.merge (h : Headers) (name : String) : Headers :=
  h.insert name ([44].intercalate (h.values name))

def Http.Request.merged (r : Request) : Request := { r with headers := r.headers.merge "accept" }

def Exchange.merged (x : Exchange) : Exchange := { x with request := x.request.merged }

theorem Http.Headers.values_merge (h : Headers) (name : String) :
    (h.merge name).values name = [[44].intercalate (h.values name)] := values_insert _ _ _

theorem Http.HeaderValue.text?_append {value other : HeaderValue} {text text' : String}
    (readable : value.text? = some text) (readable' : other.text? = some text') :
    HeaderValue.text? (value ++ 44 :: other) =
      some (String.ofList (text.toList ++ ',' :: text'.toList)) := by
  unfold HeaderValue.text? at readable readable' ⊢
  split at readable
  · next plain =>
    split at readable'
    · next plain' =>
      have comma : isTextByte 44 = true := rfl
      have whole : (value ++ 44 :: other).all isTextByte = true := by
        rw [List.all_append, List.all_cons, plain, comma, plain']
        rfl
      rw [if_pos whole, ← Option.some.inj readable, ← Option.some.inj readable']
      simp
    · cases readable'
  · cases readable

namespace MediaRange

theorem pieces_append {separator : Char} (s rest : List Char) :
    pieces separator (s ++ separator :: rest) = pieces separator s ++ pieces separator rest := by
  induction s with
  | nil =>
    rw [List.nil_append]
    exact if_pos rfl
  | cons c s ih =>
    rw [List.cons_append, pieces, pieces, ih]
    by_cases here : c = separator
    · rw [if_pos here, if_pos here, List.cons_append]
    · rw [if_neg here, if_neg here]
      cases split : pieces separator s with
      | nil =>
        rw [pieces_eq_splitOn] at split
        exact (List.splitOn_ne_nil separator s split).elim
      | cons p ps => rfl

/-- A text with a comma in it lists what stands before the comma and then what stands behind it. -/
theorem ranges_append (s rest : List Char) :
    ranges (String.ofList (s ++ ',' :: rest)) =
      ranges (String.ofList s) ++ ranges (String.ofList rest) := by
  simp only [ranges, String.toList_ofList]
  rw [pieces_append, List.map_append, List.filter_append]

end MediaRange

namespace Negotiator

variable {n : Negotiator} {ws : List Writer} {w : Writer} {r : Request}
  {foremost further : List (List Char)}

/-- The ranges on a header line, which is text. -/
inductive Shows : HeaderValue → List (List Char) → Prop
  | intro {value text rs} (readable : value.text? = some text) (lists : Lists text rs) :
      Shows value rs

/-- The ranges on the foremost of the Accept lines, all of which are text, and those on the further
lines. -/
inductive Spreads (r : Request) : List (List Char) → List (List Char) → Prop
  | intro {value others foremost further} (lines : r.headers.values "accept" = value :: others)
      (first : Shows value foremost) (rest : List.Forall₂ Shows others further) :
      Spreads r foremost further.flatten

theorem exists_shows {value : HeaderValue} (readable : value.text?.isSome) :
    ∃ rs, Shows value rs := by
  obtain ⟨text, readable⟩ := Option.isSome_iff_exists.mp readable
  exact ⟨ranges text, .intro readable (lists_iff.mpr rfl)⟩

theorem exists_spreads (present : r.headers.values "accept" ≠ [])
    (readable : ∀ value ∈ r.headers.values "accept", value.text?.isSome) :
    ∃ foremost further, Spreads r foremost further := by
  obtain ⟨value, others, lines⟩ := List.exists_cons_of_ne_nil present
  rw [lines, List.forall_mem_cons] at readable
  obtain ⟨here, there⟩ := readable
  have rest : ∃ further, List.Forall₂ Shows others further := by
    clear lines
    induction others with
    | nil => exact ⟨[], .nil⟩
    | cons value others ih =>
      rw [List.forall_mem_cons] at there
      obtain ⟨rs, shows⟩ := exists_shows there.1
      obtain ⟨further, rest⟩ := ih there.2
      exact ⟨rs :: further, .cons shows rest⟩
  obtain ⟨foremost, first⟩ := exists_shows here
  obtain ⟨further, rest⟩ := rest
  exact ⟨foremost, further.flatten, .intro lines first rest⟩

theorem Shows.append {value other : HeaderValue} {rs rs' : List (List Char)}
    (shows : Shows value rs) (shows' : Shows other rs') :
    Shows (value ++ 44 :: other) (rs ++ rs') := by
  cases shows with
  | intro readable lists =>
    cases shows' with
    | intro readable' lists' =>
      refine .intro (HeaderValue.text?_append readable readable') (lists_iff.mpr ?_)
      rw [MediaRange.ranges_append, String.ofList_toList, String.ofList_toList,
        lists_iff.mp lists, lists_iff.mp lists']

/-- A line that joins others shows what they show. -/
theorem Shows.intercalate {value : HeaderValue} {others : List HeaderValue}
    {rs : List (List Char)} {further : List (List (List Char))} (first : Shows value rs)
    (rest : List.Forall₂ Shows others further) :
    Shows ([44].intercalate (value :: others)) (rs ++ further.flatten) := by
  induction rest generalizing value rs with
  | nil =>
    rw [List.intercalate_singleton, List.flatten_nil, List.append_nil]
    exact first
  | cons second _ ih =>
    rw [List.intercalate_cons_cons, List.append_assoc, List.singleton_append, List.flatten_cons]
    exact first.append (ih second)

theorem Shows.wants {value : HeaderValue} {others : List HeaderValue} {rs : List (List Char)}
    (lines : r.headers.values "accept" = value :: others) (shows : Shows value rs) :
    Wants r rs := by
  cases shows with
  | intro readable lists => exact .listed (.intro lines readable) lists

theorem Spreads.wants (spreads : Spreads r foremost further) : Wants r foremost := by
  cases spreads with
  | intro lines first rest => exact first.wants lines

theorem Spreads.wants_merged (spreads : Spreads r foremost further) :
    Wants r.merged (foremost ++ further) := by
  cases spreads with
  | intro lines first rest =>
    have line := r.headers.values_merge "accept"
    rw [lines] at line
    exact (first.intercalate rest).wants line

theorem Chooses.append (useful : Useful ws foremost)
    (chooses : Chooses ws foremost w) : Chooses ws (foremost ++ further) w := by
  cases chooses with
  | @covered earlier range later _ _ _ split useless place passed covers =>
    have split' : foremost ++ further = earlier ++ range :: (later ++ further) := by
      rw [split, List.append_assoc, List.cons_append]
    exact .covered split' useless place passed covers
  | fallback useless =>
    obtain ⟨range, member, x, writer, covers⟩ := useful
    exact (useless range member x writer covers).elim

theorem Chooses.behind (none : ¬ Useful ws foremost)
    (chooses : Chooses ws further w) : Chooses ws (foremost ++ further) w := by
  have before := not_useful_iff.mp none
  have vain {earlier : List (List Char)}
      (useless : ∀ r ∈ earlier, ∀ x ∈ ws, ¬ Covers r x.mediaType.toList) :
      ∀ r ∈ foremost ++ earlier, ∀ x ∈ ws, ¬ Covers r x.mediaType.toList := by
    intro r member
    rcases List.mem_append.mp member with front | back
    · exact before r front
    · exact useless r back
  cases chooses with
  | @covered earlier range later _ _ _ split useless place passed covers =>
    have split' : foremost ++ further = (foremost ++ earlier) ++ range :: later := by
      rw [split, List.append_assoc]
    exact .covered split' (vain useless) place passed covers
  | fallback useless place => exact .fallback (vain useless) place

/-- A client whose Accept header is spread over several lines is answered by the ranges on the
foremost line alone. That is the answer it gets when all of them stand on one line if some range on
the foremost line is of use, or if the first writer answers as the one that the further lines call
for, and otherwise it is another. -/
theorem respond_to_merged_iff (n : Negotiator) (x : Exchange) (e : AuthError) (memory : ω)
    (present : x.request.headers.values "accept" ≠ [])
    (readable : ∀ value ∈ x.request.headers.values "accept", value.text?.isSome) :
    ∃ foremost further, Spreads x.request foremost further ∧
      (∃ w, Chooses n.writers foremost w ∧
        n.toResponder.respond x e memory = (.ok (w.write e), memory)) ∧
      (∃ w, Chooses n.writers (foremost ++ further) w ∧
        n.toResponder.respond x.merged e memory = (.ok (w.write e), memory)) ∧
      (n.toResponder.respond x e memory = n.toResponder.respond x.merged e memory ↔
        Useful n.writers foremost ∨
          ∃ w, Chooses n.writers further w ∧ w.write e = n.first.write e) := by
  obtain ⟨foremost, further, spreads⟩ := exists_spreads present readable
  have merged : Wants x.merged.request (foremost ++ further) := spreads.wants_merged
  by_cases useful : Useful n.writers foremost
  · obtain ⟨w, chooses⟩ := n.exists_chooses foremost
    have answer := respond_of_chooses spreads.wants chooses e memory
    have whole : Chooses n.writers (foremost ++ further) w := chooses.append useful
    have answer' := respond_of_chooses merged whole e memory
    have same := answer.trans answer'.symm
    refine ⟨foremost, further, spreads, ⟨w, chooses, answer⟩, ⟨w, whole, answer'⟩, ?_⟩
    exact iff_of_true same (.inl useful)
  -- The foremost line leaves the choice to the further ones, which are not looked at.
  · have fallback : Chooses n.writers foremost n.first :=
      .fallback (not_useful_iff.mp useful) rfl
    obtain ⟨w, chooses⟩ := n.exists_chooses further
    have answer := respond_of_chooses spreads.wants fallback e memory
    have whole := chooses.behind useful
    have answer' := respond_of_chooses merged whole e memory
    refine ⟨foremost, further, spreads, ⟨_, fallback, answer⟩, ⟨w, whole, answer'⟩, ?_⟩
    rw [answer, answer']
    constructor
    · intro same
      have alike : n.first.write e = w.write e := Except.ok.inj (Prod.mk.inj same).1
      exact .inr ⟨w, chooses, alike.symm⟩
    · rintro (useful' | ⟨w', chooses', alike⟩)
      · exact (useful useful').elim
      · have same : w' = w := (chooses_iff.mp chooses').trans (chooses_iff.mp chooses).symm
        rw [← same, alike]

/-- A request with these Accept lines. -/
def asking (lines : List String) : Request :=
  { headers := lines.map fun line => ("accept", HeaderValue.ofText line) }

/-- A writer that tells no more of an error than its status. -/
def terse (mediaType : String) : Writer := ⟨mediaType, fun e => .bare e.status⟩

/-- The writer that is named on the foremost line answers, as it does when there is one line. -/
theorem respond_to_merged_of_plain :
    let n : Negotiator := ({} : Negotiator).add (terse "text/plain")
    let x : Exchange := .start "1" (asking ["text/plain", "image/png"])
    (x.request.headers.values "accept" ≠ [] ∧
      ∀ value ∈ x.request.headers.values "accept", value.text?.isSome) ∧
    ∀ (e : AuthError) (memory : Nat),
      n.toResponder.respond x e memory = n.toResponder.respond x.merged e memory := by
  intro n x
  have present : x.request.headers.values "accept" ≠ [] := by decide +kernel
  have readable : ∀ value ∈ x.request.headers.values "accept", value.text?.isSome := by
    decide +kernel
  refine ⟨⟨present, readable⟩, ?_⟩
  intro e memory
  obtain ⟨foremost, further, spreads, -, -, same⟩ :=
    respond_to_merged_iff n x e memory present readable
  have named : foremost = ["text/plain".toList] :=
    (wants_iff.mp spreads.wants).trans (by decide +kernel)
  have suits : Covers "text/plain".toList (terse "text/plain").mediaType.toList := .named rfl
  have useful : Useful n.writers foremost := by
    rw [named]
    exact ⟨_, .head _, terse "text/plain", .tail _ (.head _), suits⟩
  exact same.mpr (.inl useful)

/-- A client that wants a picture and on a further line plain text is answered in the form of the
first writer, though there is one for plain text, which answers when both stand on one line. -/
theorem respond_leaves_further_lines :
    let n : Negotiator := ({} : Negotiator).add (terse "text/plain")
    let x : Exchange := .start "1" (asking ["image/png", "text/plain"])
    let e : AuthError := { message := "denied" }
    (∀ value ∈ x.request.headers.values "accept", value.text?.isSome) ∧
    n.toResponder.respond x e () = (.ok (Writer.json.write e), ()) ∧
    n.toResponder.respond x.merged e () = (.ok ((terse "text/plain").write e), ()) ∧
    Writer.json.write e ≠ (terse "text/plain").write e := by
  intro n x e
  have readable : ∀ value ∈ x.request.headers.values "accept", value.text?.isSome := by
    decide +kernel
  have unmet : ¬ Covers "image/png".toList Writer.json.mediaType.toList ∧
      ¬ Covers "image/png".toList (terse "text/plain").mediaType.toList ∧
      ¬ Covers "text/plain".toList Writer.json.mediaType.toList := by
    simp only [← covers_iff]
    decide +kernel
  have picture : ∀ w ∈ n.writers, ¬ Covers "image/png".toList w.mediaType.toList :=
    List.forall_mem_cons.mpr ⟨unmet.1, List.forall_mem_singleton.mpr unmet.2.1⟩
  have apart : Wants x.request ["image/png".toList] := wants_iff.mpr (by decide +kernel)
  have together : Wants x.merged.request ["image/png".toList, "text/plain".toList] :=
    wants_iff.mpr (by decide +kernel)
  have first : Chooses n.writers ["image/png".toList] .json :=
    .fallback (List.forall_mem_singleton.mpr picture) rfl
  have split : ["image/png".toList, "text/plain".toList] =
      ["image/png".toList] ++ "text/plain".toList :: [] := rfl
  have place : n.writers = [.json] ++ terse "text/plain" :: [] := rfl
  have second : Chooses n.writers ["image/png".toList, "text/plain".toList] (terse "text/plain") :=
    .covered split (List.forall_mem_singleton.mpr picture) place
      (List.forall_mem_singleton.mpr unmet.2.2) (.named rfl)
  have other : Writer.json.write e ≠ (terse "text/plain").write e := by
    intro same
    cases congrArg Http.Response.headers same
  exact ⟨readable, respond_of_chooses apart first e (), respond_of_chooses together second e (),
    other⟩

end Negotiator

end Gatekeeper
