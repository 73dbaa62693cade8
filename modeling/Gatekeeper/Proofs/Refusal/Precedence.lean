import Gatekeeper.Proofs.Refusal.Choice

namespace Gatekeeper

open MediaRange (Covers)

variable {ω : Type}

namespace Negotiator

variable {n : Negotiator} {ws : List Writer} {w y : Writer} {rs : List (List Char)} {x : Exchange}
  {place place' : Nat}

/-- The place of the writer to choose: it is the foremost of those that the first useful range
covers, and the first of all if no range is of use. -/
inductive Places (writers : List Writer) (wanted : List (List Char)) : Nat → Prop
  | covered {earlier range later before w after} (split : wanted = earlier ++ range :: later)
      (useless : ¬ Useful writers earlier) (seat : writers = before ++ w :: after)
      (passed : ∀ x ∈ before, ¬ Covers range x.mediaType.toList)
      (covers : Covers range w.mediaType.toList) : Places writers wanted before.length
  | fallback (useless : ¬ Useful writers wanted) : Places writers wanted 0

/-- Some range calls for the writer before any range calls for one of these. -/
inductive Forestalls (writers : List Writer) (wanted : List (List Char)) (y : Writer) : Prop
  | intro {earlier range later} (split : wanted = earlier ++ range :: later)
      (useless : ¬ Useful writers (earlier ++ [range])) (covers : Covers range y.mediaType.toList)

/-- There is one first element with a property. -/
theorem first_unique {α : Type} {p : α → Prop} {before before' after after' : List α} {a a' : α}
    (same : before ++ a :: after = before' ++ a' :: after') (none : ∀ b ∈ before, ¬ p b)
    (holds : p a) (none' : ∀ b ∈ before', ¬ p b) (holds' : p a') : before = before' ∧ a = a' := by
  induction before generalizing before' with
  | nil =>
    cases before' with
    | nil => exact ⟨rfl, (List.cons.inj same).1⟩
    | cons b before' =>
      have here : a = b := (List.cons.inj same).1
      rw [here] at holds
      exact (none' b List.mem_cons_self holds).elim
  | cons b before ih =>
    cases before' with
    | nil =>
      have here : b = a' := (List.cons.inj same).1
      rw [← here] at holds'
      exact (none b List.mem_cons_self holds').elim
    | cons b' before' =>
      obtain ⟨here, later⟩ := List.cons.inj same
      rw [List.forall_mem_cons] at none none'
      obtain ⟨front, value⟩ := ih later none.2 none'.2
      rw [here, front]
      exact ⟨rfl, value⟩

theorem useful_of_covers {earlier later : List (List Char)} {range : List Char}
    (split : rs = earlier ++ range :: later) (writer : w ∈ ws)
    (covers : Covers range w.mediaType.toList) : Useful ws rs := by
  rw [split]
  exact ⟨range, List.mem_append_cons_self, w, writer, covers⟩

theorem mem_of_seat {before after : List Writer} (seat : ws = before ++ w :: after) : w ∈ ws := by
  rw [seat]
  exact List.mem_append_cons_self

theorem Places.unique (places : Places ws rs place) (places' : Places ws rs place') :
    place = place' := by
  have vain {earlier : List (List Char)} (useless : ¬ Useful ws earlier) :
      ∀ r ∈ earlier, ¬ ∃ w ∈ ws, Covers r w.mediaType.toList := by
    intro r member calls
    exact useless ⟨r, member, calls⟩
  cases places with
  | @covered _ range _ _ _ _ split useless seat passed covers =>
    have writer := mem_of_seat seat
    cases places' with
    | covered split' useless' seat' passed' covers' =>
      have writer' := mem_of_seat seat'
      have ranges := split.symm.trans split'
      obtain ⟨-, same⟩ := first_unique ranges (vain useless) ⟨_, writer, covers⟩ (vain useless')
        ⟨_, writer', covers'⟩
      rw [← same] at passed' covers'
      have seats := seat.symm.trans seat'
      obtain ⟨front, -⟩ := first_unique (p := fun x : Writer => Covers range x.mediaType.toList)
        seats passed covers passed' covers'
      rw [front]
    | fallback useless' => exact (useless' (useful_of_covers split writer covers)).elim
  | fallback useless =>
    cases places' with
    | covered split' _ seat' _ covers' =>
      exact (useless (useful_of_covers split' (mem_of_seat seat') covers')).elim
    | fallback => rfl

/-- A writer that is chosen has a place. -/
theorem Chooses.places (chooses : Chooses ws rs w) :
    ∃ place, Places ws rs place ∧ ws[place]? = some w := by
  cases chooses with
  | covered split useless seat passed covers =>
    refine ⟨_, .covered split (not_useful_iff.mpr useless) seat passed covers, ?_⟩
    rw [seat]
    simp
  | fallback useless seat =>
    refine ⟨0, .fallback (not_useful_iff.mpr useless), ?_⟩
    rw [seat]
    rfl

theorem Useful.mono {rs' : List (List Char)} (useful : Useful ws rs) (among : rs ⊆ rs') :
    Useful ws rs' := by
  obtain ⟨range, member, calls⟩ := useful
  exact ⟨range, among member, calls⟩

theorem useful_add_iff :
    Useful (ws ++ [y]) rs ↔ Useful ws rs ∨ ∃ range ∈ rs, Covers range y.mediaType.toList := by
  simp only [Useful, List.mem_append, List.mem_singleton, or_and_right, exists_or, and_or_left,
    exists_eq_left]

theorem forestalls_of_covers {front back : List (List Char)} {range : List Char}
    (split : rs = front ++ back) (useless : ¬ Useful ws front) (member : range ∈ front)
    (covers : Covers range y.mediaType.toList) : Forestalls ws rs y := by
  obtain ⟨earlier, later, cut⟩ := List.append_of_mem member
  have split' : rs = earlier ++ range :: (later ++ back) := by
    rw [split, cut, List.append_assoc, List.cons_append]
  have among : earlier ++ [range] ⊆ front := by
    rw [cut]
    simp
  exact .intro split' (fun useful => useless (useful.mono among)) covers

/-- A new writer that nothing calls for in time leaves the choice as it is. -/
theorem Places.add (places : Places ws rs place) (late : ¬ Forestalls ws rs y) :
    Places (ws ++ [y]) rs place := by
  have useless {front back : List (List Char)} (split : rs = front ++ back)
      (none : ¬ Useful ws front) : ¬ Useful (ws ++ [y]) front := by
    rw [useful_add_iff]
    rintro (useful | ⟨range, member, covers⟩)
    · exact none useful
    · exact late (forestalls_of_covers split none member covers)
  cases places with
  | @covered earlier range later before w after split none seat passed covers =>
    have seat' : ws ++ [y] = before ++ w :: (after ++ [y]) := by
      rw [seat, List.append_assoc, List.cons_append]
    exact .covered split (useless split none) seat' passed covers
  | fallback none => exact .fallback (useless (List.append_nil rs).symm none)

/-- A new writer that some range calls for in time is chosen. -/
theorem Forestalls.places (forestalls : Forestalls ws rs y) :
    Places (ws ++ [y]) rs ws.length := by
  obtain ⟨split, useless, covers⟩ := forestalls
  obtain ⟨first, before, after, none, calls, cut, -⟩ :=
    List.exists_of_eraseP (p := fun r => MediaRange.covers r y.mediaType)
      (List.mem_append_right _ List.mem_cons_self) (MediaRange.covers_iff.mpr covers)
  simp only [MediaRange.covers_iff] at none calls
  rw [cut] at useless
  have split' := split
  rw [List.append_cons, cut, List.append_assoc, List.cons_append] at split'
  refine .covered split' ?_ rfl ?_ calls
  · rw [useful_add_iff]
    rintro (useful | ⟨range, member, covers⟩)
    · exact useless (useful.mono (List.subset_append_left _ _))
    · exact none range member covers
  · intro x writer covers
    exact useless ⟨first, List.mem_append_cons_self, x, writer, covers⟩

/-- The writer at this place, and at no other, is to be chosen from the ranges, and it answers the
client whatever the error. -/
structure AnswersAt (n : Negotiator) (x : Exchange) (rs : List (List Char)) (place : Nat)
    (w : Writer) : Prop where
  chosen (other : Nat) : Places n.writers rs other ↔ other = place
  seat : n.writers[place]? = some w
  writes {ω : Type} (e : AuthError) (memory : ω) :
    n.toResponder.respond x e memory = (.ok (w.write e), memory)

namespace AnswersAt

theorem of_places (wants : Wants x.request rs) (places : Places n.writers rs place)
    (seat : n.writers[place]? = some w) : AnswersAt n x rs place w := by
  obtain ⟨w', chooses⟩ := n.exists_chooses rs
  obtain ⟨place', places', seat'⟩ := chooses.places
  rw [places'.unique places, seat] at seat'
  rw [← Option.some.inj seat'] at chooses
  have chosen (other : Nat) : Places n.writers rs other ↔ other = place := by
    constructor
    · exact fun others => others.unique places
    · intro here
      rw [here]
      exact places
  exact ⟨chosen, seat, respond_of_chooses wants chooses⟩

theorem places (answers : AnswersAt n x rs place w) : Places n.writers rs place :=
  (answers.chosen place).mpr rfl

theorem add_of_forestalls (wants : Wants x.request rs) (forestalls : Forestalls n.writers rs y) :
    AnswersAt (n.add y) x rs n.writers.length y :=
  of_places wants forestalls.places List.getElem?_concat_length

theorem add_of_late (wants : Wants x.request rs) (answers : AnswersAt n x rs place w)
    (late : ¬ Forestalls n.writers rs y) : AnswersAt (n.add y) x rs place w := by
  obtain ⟨within, -⟩ := List.getElem?_eq_some_iff.mp answers.seat
  have seat : (n.writers ++ [y])[place]? = some w := by
    rw [List.getElem?_append_left within, answers.seat]
  exact of_places wants (answers.places.add late) seat

/-- Of many new writers one answers, or the same old writer as before. -/
theorem foldl_add (wants : Wants x.request rs) (answers : AnswersAt n x rs place w)
    (ys : List Writer) :
    AnswersAt (ys.foldl add n) x rs place w ∨
      ∃ place' y, n.writers.length ≤ place' ∧ y ∈ ys ∧
        AnswersAt (ys.foldl add n) x rs place' y := by
  induction ys generalizing n place w with
  | nil => exact .inl answers
  | cons y ys ih =>
    have longer : (n.add y).writers.length = n.writers.length + 1 := by
      rw [writers_add, List.length_append, List.length_singleton]
    have further {place' : Nat} (behind : (n.add y).writers.length ≤ place') :
        n.writers.length ≤ place' := by
      omega
    by_cases forestalls : Forestalls n.writers rs y
    · rcases ih (add_of_forestalls wants forestalls) with same | ⟨place', y', behind, new, later⟩
      · exact .inr ⟨_, y, Nat.le_refl _, List.mem_cons_self, same⟩
      · exact .inr ⟨place', y', further behind, List.mem_cons_of_mem y new, later⟩
    · rcases ih (add_of_late wants answers forestalls) with same | ⟨place', y', behind, new, later⟩
      · exact .inl same
      · exact .inr ⟨place', y', further behind, List.mem_cons_of_mem y new, later⟩

end AnswersAt

/-- A writer that is added answers if some range calls for it before any range calls for a writer
that was there, and otherwise the same writer answers as before. However many are added, the choice
among those that were there stays the same. -/
theorem respond_of_added (n : Negotiator) (x : Exchange) :
    ∃ rs place w, (∀ rs', Wants x.request rs' ↔ rs' = rs) ∧ AnswersAt n x rs place w ∧
      (∀ y, (n.add y).writers = n.writers ++ [y] ∧
        (Forestalls n.writers rs y → AnswersAt (n.add y) x rs n.writers.length y) ∧
        (¬ Forestalls n.writers rs y → AnswersAt (n.add y) x rs place w)) ∧
      ∀ ys : List Writer, (ys.foldl add n).writers = n.writers ++ ys ∧
        (AnswersAt (ys.foldl add n) x rs place w ∨
          ∃ place' y, n.writers.length ≤ place' ∧ y ∈ ys ∧
            AnswersAt (ys.foldl add n) x rs place' y) := by
  let rs := ((accept? x.request).map MediaRange.ranges).getD []
  have wants : Wants x.request rs := wants_iff.mpr rfl
  obtain ⟨w, chooses⟩ := n.exists_chooses rs
  obtain ⟨place, places, seat⟩ := chooses.places
  have answers := AnswersAt.of_places wants places seat
  have only (rs' : List (List Char)) : Wants x.request rs' ↔ rs' = rs := wants_iff
  refine ⟨rs, place, w, only, answers, ?_, ?_⟩
  · intro y
    exact ⟨n.writers_add y, AnswersAt.add_of_forestalls wants, answers.add_of_late wants⟩
  · intro ys
    exact ⟨n.writers_foldl_add ys, answers.foldl_add wants ys⟩

end Negotiator

end Gatekeeper
