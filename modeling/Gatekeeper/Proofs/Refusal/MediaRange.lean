import Gatekeeper.Refusal.MediaRange
import Mathlib.Data.List.DropRight
import Mathlib.Data.List.Forall2

namespace Gatekeeper.MediaRange

variable {range range' piece : List Char}

/-- The range that stands in a piece of the text, when the blanks around it and the parameters
behind it are left away. -/
inductive Holds : List Char → List Char → Prop
  | intro {left range right parameters} (before : ∀ c ∈ left, isBlank c = true)
      (after : ∀ c ∈ right, isBlank c = true) (bare : ';' ∉ range)
      (first : ∀ c ∈ range.head?, isBlank c = false)
      (last : ∀ c ∈ range.getLast?, isBlank c = false)
      (further : ∀ c ∈ parameters.head?, c = ';') :
      Holds (left ++ (range ++ right) ++ parameters) range

/-- The ranges that a text lists: those in the pieces between its commas, but for empty ones. -/
inductive Lists : String → List (List Char) → Prop
  | intro {text pieces held} (joined : text.toList = [','].intercalate pieces) (some : pieces ≠ [])
      (apart : ∀ p ∈ pieces, ',' ∉ p) (holds : List.Forall₂ Holds pieces held) :
      Lists text (held.filter (!·.isEmpty))

theorem pieces_eq_splitOn (separator : Char) (s : List Char) :
    pieces separator s = s.splitOn separator := by
  induction s with
  | nil => rfl
  | cons c rest ih =>
    rw [List.splitOn_cons_eq_if_modifyHead, pieces, ih]
    by_cases here : c = separator
    · rw [if_pos here, if_pos (beq_iff_eq.mpr here)]
    · rw [if_neg here, if_neg (by simpa using here)]
      cases split : rest.splitOn separator with
      | nil => exact (List.splitOn_ne_nil separator rest split).elim
      | cons p ps => rfl

theorem not_mem_of_mem_pieces {separator : Char} {s p : List Char}
    (member : p ∈ pieces separator s) : separator ∉ p := by
  induction s generalizing p with
  | nil =>
    rw [List.mem_singleton.mp member]
    exact List.not_mem_nil
  | cons c rest ih =>
    rw [pieces] at member
    by_cases here : c = separator
    · rw [if_pos here] at member
      rcases List.mem_cons.mp member with rfl | later
      · exact List.not_mem_nil
      · exact ih later
    · rw [if_neg here] at member
      cases split : pieces separator rest with
      | nil =>
        rw [split, List.mem_singleton] at member
        rw [member, List.mem_singleton]
        exact fun same => here same.symm
      | cons q qs =>
        rw [split] at ih member
        rcases List.mem_cons.mp member with rfl | later
        · rw [List.mem_cons, not_or]
          exact ⟨fun same => here same.symm, ih List.mem_cons_self⟩
        · exact ih (List.mem_cons_of_mem q later)

section Cutting

variable {separator : Char} {s rest : List Char}

theorem not_mem_takeWhile_ne : separator ∉ s.takeWhile (· ≠ separator) := by
  intro member
  have kept := List.mem_takeWhile_imp member
  simp at kept

theorem eq_of_head_dropWhile_ne {c : Char} (head : c ∈ (s.dropWhile (· ≠ separator)).head?) :
    c = separator := by
  have spec := List.head?_dropWhile_not (fun x : Char => decide (x ≠ separator)) s
  rw [Option.mem_def.mp head] at spec
  simpa using spec

theorem takeWhile_ne_append (bare : separator ∉ s) (further : ∀ c ∈ rest.head?, c = separator) :
    (s ++ rest).takeWhile (· ≠ separator) = s := by
  have kept (c : Char) (member : c ∈ s) : decide (c ≠ separator) = true := by
    apply decide_eq_true
    intro same
    rw [same] at member
    exact bare member
  have cut : rest.takeWhile (· ≠ separator) = [] := by
    cases rest with
    | nil => rfl
    | cons c rest =>
      have here : c = separator := further c rfl
      exact List.takeWhile_cons_of_neg (by simpa using here)
  rw [List.takeWhile_append_of_pos kept, cut, List.append_nil]

end Cutting

theorem trim_eq (s : List Char) : trim s = (s.dropWhile isBlank).rdropWhile isBlank := rfl

theorem not_isBlank_of_head_dropWhile {s : List Char} {c : Char}
    (head : c ∈ (s.dropWhile isBlank).head?) : isBlank c = false := by
  have spec := List.head?_dropWhile_not isBlank s
  rw [Option.mem_def.mp head] at spec
  exact spec

/-- The range that is read stands in the piece. -/
theorem holds_trim (piece : List Char) : Holds piece (trim (withoutParameters piece)) := by
  let s := withoutParameters piece
  let d := s.dropWhile isBlank
  have inner : trim s ++ d.rtakeWhile isBlank = d := List.rdropWhile_append_rtakeWhile
  have split : s.takeWhile isBlank ++ (trim s ++ d.rtakeWhile isBlank) ++
      piece.dropWhile (· ≠ ';') = piece := by
    rw [inner, List.takeWhile_append_dropWhile]
    exact List.takeWhile_append_dropWhile
  have front : trim s <+: d := List.rdropWhile_prefix isBlank d
  have within {c : Char} (member : c ∈ trim s) : c ∈ s :=
    (List.dropWhile_sublist isBlank).subset (front.subset member)
  have holds : Holds (s.takeWhile isBlank ++ (trim s ++ d.rtakeWhile isBlank) ++
      piece.dropWhile (· ≠ ';')) (trim s) := by
    apply Holds.intro
    · intro c member
      exact List.mem_takeWhile_imp member
    · intro c member
      exact List.mem_rtakeWhile_imp member
    · exact fun member => not_mem_takeWhile_ne (within member)
    · intro c head
      have leads : c ∈ d.head? := by
        rw [← inner, List.head?_append, Option.mem_def.mp head]
        rfl
      exact not_isBlank_of_head_dropWhile leads
    · intro c last
      obtain ⟨some, same⟩ := List.mem_getLast?_eq_getLast last
      rw [same]
      exact Bool.eq_false_iff.mpr (List.rdropWhile_last_not isBlank d some)
    · exact fun c => eq_of_head_dropWhile_ne
  rw [split] at holds
  exact holds

theorem trim_append {left right : List Char} (before : ∀ c ∈ left, isBlank c = true)
    (after : ∀ c ∈ right, isBlank c = true) (first : ∀ c ∈ range.head?, isBlank c = false)
    (last : ∀ c ∈ range.getLast?, isBlank c = false) : trim (left ++ (range ++ right)) = range := by
  have trailing : (range ++ right).rdropWhile isBlank = range := by
    have behind : ∀ c ∈ right.reverse, isBlank c = true := by
      intro c member
      exact after c (List.mem_reverse.mp member)
    have whole : range.rdropWhile isBlank = range := by
      rw [List.rdropWhile_eq_self_iff]
      intro some blank
      have plain := last _ (List.getLast?_eq_some_getLast some)
      rw [blank] at plain
      cases plain
    unfold List.rdropWhile at whole ⊢
    rw [List.reverse_append, List.dropWhile_append_of_pos behind]
    exact whole
  rw [trim_eq, List.dropWhile_append_of_pos before]
  cases range with
  | nil =>
    have none : right.dropWhile isBlank = [] := List.dropWhile_eq_nil_iff.mpr after
    rw [List.nil_append, none]
    rfl
  | cons c rest =>
    have plain : ¬ isBlank c = true := Bool.eq_false_iff.mp (first c rfl)
    rw [List.cons_append, List.dropWhile_cons_of_neg plain]
    exact trailing

theorem holds_iff : Holds piece range ↔ range = trim (withoutParameters piece) := by
  constructor
  · intro holds
    cases holds with
    | @intro left range right parameters before after bare first last further =>
      have blank {s : List Char} (blanks : ∀ c ∈ s, isBlank c = true) : ';' ∉ s := by
        intro member
        cases blanks ';' member
      have shown : ';' ∉ left ++ (range ++ right) := by
        simp only [List.mem_append, not_or]
        exact ⟨blank before, bare, blank after⟩
      have cut : withoutParameters (left ++ (range ++ right) ++ parameters) =
          left ++ (range ++ right) := takeWhile_ne_append shown further
      rw [cut, trim_append before after first last]
  · intro same
    rw [same]
    exact holds_trim piece

/-- A text lists just the ranges that are read in it. -/
theorem lists_iff {text : String} {rs : List (List Char)} : Lists text rs ↔ rs = ranges text := by
  constructor
  · intro lists
    cases lists with
    | @intro ps held joined some apart holds =>
      have found : pieces ',' text.toList = ps := by
        rw [pieces_eq_splitOn, joined, List.splitOn_intercalate ',' apart some]
      have read : held = ps.map fun p => trim (withoutParameters p) := by
        clear joined some apart found
        induction holds with
        | nil => rfl
        | cons here _ ih => rw [List.map_cons, ← ih, holds_iff.mp here]
      rw [ranges, found, read]
  · intro same
    rw [same]
    have joined : text.toList = [','].intercalate (pieces ',' text.toList) := by
      rw [pieces_eq_splitOn, List.intercalate_splitOn]
    have some : pieces ',' text.toList ≠ [] := by
      rw [pieces_eq_splitOn]
      exact List.splitOn_ne_nil ',' text.toList
    have holds (ps : List (List Char)) :
        List.Forall₂ Holds ps (ps.map fun p => trim (withoutParameters p)) := by
      induction ps with
      | nil => exact .nil
      | cons p ps ih => exact .cons (holds_trim p) ih
    exact .intro joined some (fun p => not_mem_of_mem_pieces) (holds _)

/-- The same but for the case of letters. -/
def EqUpToCase (s t : List Char) : Prop := s.map Char.toLower = t.map Char.toLower

instance (s t : List Char) : Decidable (EqUpToCase s t) :=
  inferInstanceAs (Decidable (s.map Char.toLower = t.map Char.toLower))

/-- A range covers a media type that it names, every media type of a kind that it names, or every
media type there is. -/
inductive Covers : List Char → List Char → Prop
  | everything (mediaType) : Covers ['*', '/', '*'] mediaType
  | named {range mediaType} (alike : EqUpToCase range mediaType) : Covers range mediaType
  | kind {kind mediaKind rest} (whole : '/' ∉ mediaKind) (alike : EqUpToCase kind mediaKind) :
      Covers (kind ++ ['/', '*']) (mediaKind ++ '/' :: rest)

theorem kind?_eq_some_iff {k : List Char} : kind? range = some k ↔ range = k ++ ['/', '*'] := by
  unfold kind?
  constructor
  · intro found
    split at found
    · next ends =>
      obtain ⟨front, rfl⟩ := List.isSuffixOf_iff_suffix.mp ends
      have taken : (front ++ ['/', '*']).take ((front ++ ['/', '*']).length - 2) = front := by simp
      rw [taken] at found
      rw [Option.some.inj found]
    · cases found
  · intro same
    have ends : ['/', '*'].isSuffixOf range = true := by
      rw [List.isSuffixOf_iff_suffix, same]
      exact List.suffix_append k _
    rw [if_pos ends, same]
    simp

theorem mediaKind?_eq_some_iff {mediaType k : List Char} :
    mediaKind? mediaType = some k ↔ '/' ∉ k ∧ ∃ rest, mediaType = k ++ '/' :: rest := by
  unfold mediaKind?
  constructor
  · intro found
    split at found
    · next slashed =>
      have cut : mediaType.takeWhile (· ≠ '/') = k := Option.some.inj found
      have whole : '/' ∉ k := by
        rw [← cut]
        exact not_mem_takeWhile_ne
      have split : k ++ mediaType.dropWhile (· ≠ '/') = mediaType := by
        rw [← cut]
        exact List.takeWhile_append_dropWhile
      refine ⟨whole, ?_⟩
      cases left : mediaType.dropWhile (· ≠ '/') with
      | nil =>
        rw [left, List.append_nil] at split
        rw [split] at whole
        exact (whole slashed).elim
      | cons c rest =>
        have head : c ∈ (mediaType.dropWhile (· ≠ '/')).head? := congrArg List.head? left
        have slash : c = '/' := eq_of_head_dropWhile_ne head
        rw [left, slash] at split
        exact ⟨rest, split.symm⟩
    · cases found
  · intro split
    obtain ⟨whole, rest, same⟩ := split
    have slashed : '/' ∈ mediaType := by
      rw [same]
      exact List.mem_append_right k List.mem_cons_self
    have cut : (k ++ '/' :: rest).takeWhile (· ≠ '/') = k :=
      takeWhile_ne_append whole fun c head => (Option.some.inj head).symm
    rw [if_pos slashed, same, cut]

theorem sameIgnoringCase_iff {s t : List Char} : sameIgnoringCase s t = true ↔ EqUpToCase s t :=
  decide_eq_true_iff

theorem covers_iff {mediaType : String} :
    covers range mediaType = true ↔ Covers range mediaType.toList := by
  constructor
  · intro covers
    unfold MediaRange.covers at covers
    rw [Bool.or_eq_true, Bool.or_eq_true, decide_eq_true_iff, sameIgnoringCase_iff] at covers
    rcases covers with (everything | named) | ofKind
    · rw [everything]
      exact .everything _
    · exact .named named
    · split at ofKind
      · next k m found present =>
        obtain ⟨whole, rest, split⟩ := mediaKind?_eq_some_iff.mp present
        rw [kind?_eq_some_iff.mp found, split]
        exact .kind whole (sameIgnoringCase_iff.mp ofKind)
      · cases ofKind
  · intro covers
    unfold MediaRange.covers
    rw [Bool.or_eq_true, Bool.or_eq_true, decide_eq_true_iff, sameIgnoringCase_iff]
    generalize mediaType.toList = letters at covers
    cases covers with
    | everything => exact .inl (.inl rfl)
    | named alike => exact .inl (.inr alike)
    | @kind kind mediaKind rest whole alike =>
      have found : kind? (kind ++ ['/', '*']) = some kind := kind?_eq_some_iff.mpr rfl
      have present : mediaKind? (mediaKind ++ '/' :: rest) = some mediaKind :=
        mediaKind?_eq_some_iff.mpr ⟨whole, rest, rfl⟩
      rw [found, present]
      exact .inr (sameIgnoringCase_iff.mpr alike)

theorem isUpper_iff {c : Char} : c.isUpper = true ↔ 65 ≤ c.toNat ∧ c.toNat ≤ 90 :=
  decide_eq_true_iff

theorem isLower_iff {c : Char} : c.isLower = true ↔ 97 ≤ c.toNat ∧ c.toNat ≤ 122 := by
  show (decide (97 ≤ c.toNat) && decide (c.toNat ≤ 122)) = true ↔ _
  rw [Bool.and_eq_true, decide_eq_true_iff, decide_eq_true_iff]

theorem toNat_toLower {c : Char} (upper : c.isUpper = true) : c.toLower.toNat = c.toNat + 32 := by
  have bounds := isUpper_iff.mp upper
  have moved : c.toLower.toNat = (c.val + 32).toNat :=
    congrArg Char.toNat (dif_pos (of_decide_eq_true upper))
  have value : c.val.toNat = c.toNat := rfl
  have offset : (32 : UInt32).toNat = 32 := rfl
  rw [moved, UInt32.toNat_add]
  omega

/-- A character that is no letter comes of itself only. -/
theorem toLower_eq_iff {c d : Char} (plain : d.isAlpha = false) : c.toLower = d ↔ c = d := by
  have other : d.isUpper = false ∧ d.isLower = false := Bool.or_eq_false_iff.mp plain
  cases upper : c.isUpper with
  | false =>
    have stays : c.toLower = c := dif_neg (of_decide_eq_false upper)
    rw [stays]
  | true =>
    have moved := toNat_toLower upper
    have bounds := isUpper_iff.mp upper
    constructor
    · intro same
      have lower : d.isLower = true := by
        rw [isLower_iff, ← same]
        omega
      rw [other.2] at lower
      cases lower
    · intro same
      rw [same, other.1] at upper
      cases upper

theorem pieces_map {f : Char → Char} {separator : Char}
    (fixed : ∀ c, f c = separator ↔ c = separator) (s : List Char) :
    pieces separator (s.map f) = (pieces separator s).map (List.map f) := by
  induction s with
  | nil => rfl
  | cons c rest ih =>
    rw [List.map_cons, pieces, pieces, ih]
    by_cases here : c = separator
    · rw [if_pos here, if_pos ((fixed c).mpr here)]
      rfl
    · rw [if_neg here, if_neg (mt (fixed c).mp here)]
      cases pieces separator rest <;> rfl

theorem isBlank_toLower (c : Char) : isBlank c.toLower = isBlank c := by
  have space : c.toLower = ' ' ↔ c = ' ' := toLower_eq_iff rfl
  have tab : c.toLower = '\t' ↔ c = '\t' := toLower_eq_iff rfl
  unfold isBlank
  rw [decide_eq_decide.mpr space, decide_eq_decide.mpr tab]

theorem trim_map_toLower (s : List Char) :
    trim (s.map Char.toLower) = (trim s).map Char.toLower := by
  have blanks : isBlank ∘ Char.toLower = isBlank := funext isBlank_toLower
  unfold trim
  rw [List.dropWhile_map, ← List.map_reverse, List.dropWhile_map, ← List.map_reverse, blanks]

theorem withoutParameters_map_toLower (s : List Char) :
    withoutParameters (s.map Char.toLower) = (withoutParameters s).map Char.toLower := by
  have semicolons : (fun c : Char => decide (c ≠ ';')) ∘ Char.toLower =
      fun c : Char => decide (c ≠ ';') := by
    funext c
    exact decide_eq_decide.mpr (not_congr (toLower_eq_iff rfl))
  unfold withoutParameters
  rw [List.takeWhile_map, semicolons]

/-- Texts that differ in the case of letters list ranges that differ in no more. -/
theorem ranges_eqUpToCase {text text' : String} (alike : EqUpToCase text.toList text'.toList) :
    List.Forall₂ EqUpToCase (ranges text) (ranges text') := by
  have lowered (text : String) : (ranges text).map (List.map Char.toLower) =
      ((pieces ',' (text.toList.map Char.toLower)).map fun p => trim (withoutParameters p)).filter
        (!·.isEmpty) := by
    have nonempty : (fun r : List Char => !r.isEmpty) ∘ List.map Char.toLower =
        fun r : List Char => !r.isEmpty := by
      funext r
      cases r <;> rfl
    have read : (fun p => trim (withoutParameters p)) ∘ List.map Char.toLower =
        List.map Char.toLower ∘ fun p => trim (withoutParameters p) := by
      funext p
      show trim (withoutParameters (p.map Char.toLower)) = _
      rw [withoutParameters_map_toLower, trim_map_toLower]
      rfl
    rw [pieces_map (fun c => toLower_eq_iff rfl), List.map_map, read, ← List.map_map,
      List.filter_map, nonempty]
    rfl
  have same : (ranges text).map (List.map Char.toLower) =
      (ranges text').map (List.map Char.toLower) := by
    rw [lowered, lowered, alike]
  rw [← List.forall₂_eq_eq_eq, List.forall₂_map_left_iff, List.forall₂_map_right_iff] at same
  exact same

/-- What has no letters is like nothing else. -/
theorem EqUpToCase.eq_of_plain {s t : List Char} (alike : EqUpToCase s t)
    (plain : s.any Char.isAlpha = false) : t = s := by
  induction s generalizing t with
  | nil => exact List.map_eq_nil_iff.mp alike.symm
  | cons c s ih =>
    cases t with
    | nil => cases alike
    | cons d t =>
      obtain ⟨here, later⟩ := List.cons.inj alike
      rw [List.any_cons, Bool.or_eq_false_iff] at plain
      obtain ⟨plainHere, plainLater⟩ := plain
      have stays : c.toLower = c := (toLower_eq_iff plainHere).mpr rfl
      have same : d = c := (toLower_eq_iff plainHere).mp (here.symm.trans stays)
      rw [same, ih later plainLater]

/-- Nor does covering go by the case of letters. -/
theorem Covers.congr {mediaType : List Char} (alike : EqUpToCase range range')
    (covers : Covers range mediaType) : Covers range' mediaType := by
  cases covers with
  | everything =>
    rw [alike.eq_of_plain rfl]
    exact .everything mediaType
  | named named => exact .named (alike.symm.trans named)
  | @kind kind mediaKind rest whole ofKind =>
    have lowered : range'.map Char.toLower = kind.map Char.toLower ++ ['/', '*'] := by
      rw [← alike, List.map_append]
      rfl
    obtain ⟨kind', suffix, rfl, front, back⟩ := List.map_eq_append_iff.mp lowered
    have ends : suffix = ['/', '*'] := EqUpToCase.eq_of_plain back.symm rfl
    rw [ends]
    exact .kind whole (front.trans ofKind)

end Gatekeeper.MediaRange
