import Gatekeeper.Json.Parser
import Gatekeeper.Json.Printer
import Mathlib.Tactic.SplitIfs

namespace Gatekeeper.Json

theorem hexValue?_hexDigit : ∀ n < 16, hexValue? (hexDigit n) = some n := by decide

theorem charOf?_toNat (c : Char) : charOf? c.toNat = some c := by
  have valid : c.toNat.isValidChar := c.valid
  unfold charOf?
  rw [if_pos valid, Char.ofNat_toNat]

/-- A control character is read from its number. -/
theorem readUnits?_of_control {c : Char} (control : c.toNat < 0x20) (rest : List Char) :
    readUnits? '0' '0' (hexDigit (c.toNat / 16)) (hexDigit (c.toNat % 16)) rest =
      some (c, rest) := by
  have high := hexValue?_hexDigit (c.toNat / 16) (by omega)
  have low := hexValue?_hexDigit (c.toNat % 16) (Nat.mod_lt _ (by decide))
  have zero : hexValue? '0' = some 0 := by decide
  have unit : hexUnit? '0' '0' (hexDigit (c.toNat / 16)) (hexDigit (c.toNat % 16)) =
      some c.toNat := by
    unfold hexUnit?
    rw [zero, high, low]
    exact congrArg some (by omega)
  have plain : ¬ (0xd800 ≤ c.toNat ∧ c.toNat < 0xdc00) := by omega
  unfold readUnits?
  rw [unit, Option.bind_eq_bind, Option.bind_some, if_neg plain, charOf?_toNat]
  rfl

/-- A character that is not escaped is read as it stands. -/
theorem readChar?_of_plain {c : Char} (backslash : c ≠ '\\') (control : ¬ c.toNat < 0x20)
    (rest : List Char) : readChar? (c :: rest) = some (c, rest) := by
  unfold readChar?
  split
  · next same => exact (backslash (List.cons.inj same).1).elim
  · next same => exact (backslash (List.cons.inj same).1).elim
  · next same =>
    obtain ⟨rfl, rfl⟩ := List.cons.inj same
    exact if_neg control
  · next same => cases same

theorem readChar?_escaped (c : Char) (rest : List Char) :
    readChar? (escaped c ++ rest) = some (c, rest) := by
  unfold escaped
  split_ifs with quote backslash backspace tab newline feed return' control
  · rw [quote]; rfl
  · rw [backslash]; rfl
  · rw [backspace]; rfl
  · rw [tab]; rfl
  · rw [newline]; rfl
  · rw [feed]; rfl
  · rw [return']; rfl
  · exact readUnits?_of_control control rest
  · exact readChar?_of_plain backslash control rest

theorem escaped_ne_nil (c : Char) : escaped c ≠ [] := by
  unfold escaped
  split_ifs <;> exact List.cons_ne_nil _ _

theorem head?_escaped (c : Char) (rest : List Char) : (escaped c ++ rest).head? ≠ some '"' := by
  unfold escaped
  split_ifs with quote
  all_goals first | exact fun same => quote (Option.some.inj same) | simp

/-- A string is read to its closing mark. -/
theorem readString?_text {s : List Char} {fuel : Nat} (enough : s.length < fuel)
    (rest : List Char) :
    readString? fuel (s.flatMap escaped ++ '"' :: rest) = some (s, rest) := by
  induction s generalizing fuel with
  | nil =>
    cases fuel with
    | zero => cases enough
    | succ fuel => rfl
  | cons c s ih =>
    cases fuel with
    | zero => cases enough
    | succ fuel =>
      have char := readChar?_escaped c (s.flatMap escaped ++ '"' :: rest)
      have inside := head?_escaped c (s.flatMap escaped ++ '"' :: rest)
      have more := ih (Nat.lt_of_succ_lt_succ enough)
      rw [List.flatMap_cons, List.append_assoc]
      unfold readString?
      split
      · next same => cases same
      · next same => exact (inside (congrArg List.head? same)).elim
      · next same _ =>
        cases same
        rw [char, Option.bind_eq_bind, Option.bind_some]
        dsimp only
        rw [more]
        rfl

/-- What may follow a value in a text. -/
def Delimits (rest : List Char) : Prop := ∀ c ∈ rest.head?, c = ',' ∨ c = ']' ∨ c = '\x7d'

theorem digitsValue_toDigits (n : Nat) : digitsValue (Nat.toDigits 10 n) = n := by
  have value : digitsValue (Nat.toDigits 10 n) = Nat.ofDigitChars 10 (Nat.toDigits 10 n) 0 := by
    unfold digitsValue Nat.ofDigitChars
    congr 1
    funext sofar c
    rw [Nat.mul_comm]
    rfl
  rw [value, Nat.ofDigitChars_ten_toDigits]

theorem isDigit_of_mem_toDigits {n : Nat} {c : Char} (member : c ∈ Nat.toDigits 10 n) :
    isDigit c = true := by
  have digit := Nat.isDigit_of_mem_toDigits (by decide) (by decide) member
  rw [Char.isDigit, Bool.and_eq_true, decide_eq_true_iff, decide_eq_true_iff] at digit
  exact decide_eq_true digit

theorem head?_toDigits {n : Nat} (positive : 0 < n) : (Nat.toDigits 10 n).head? ≠ some '0' := by
  induction n using Nat.strongRecOn with
  | ind n ih =>
    by_cases small : n < 10
    · have digits : ∀ d < 10, 0 < d → d.digitChar ≠ '0' := by decide
      rw [Nat.toDigits_of_lt_base small]
      exact fun same => digits n small positive (Option.some.inj same)
    · have front := ih (n / 10) (by omega) (by omega)
      obtain ⟨d, ds, split⟩ := List.exists_cons_of_ne_nil (@Nat.toDigits_ne_nil (n / 10) 10)
      rw [split] at front
      rw [Nat.toDigits_of_base_le (by decide) (by omega), split]
      exact front

/-- No number has a zero in front, but zero itself. -/
theorem toDigits_leading (n : Nat) :
    ¬ ((Nat.toDigits 10 n).head? = some '0' ∧ (Nat.toDigits 10 n).length ≠ 1) := by
  rintro ⟨zero, longer⟩
  rcases Nat.eq_zero_or_pos n with rfl | positive
  · exact longer rfl
  · exact head?_toDigits positive zero

theorem digitRun?_append {ds rest : List Char} (some : ds ≠ [])
    (digits : ∀ c ∈ ds, isDigit c = true) (ends : ∀ c ∈ rest.head?, isDigit c = false) :
    digitRun? (ds ++ rest) = .some (ds, rest) := by
  have none : rest.takeWhile isDigit = [] ∧ rest.dropWhile isDigit = rest := by
    cases rest with
    | nil => exact ⟨rfl, rfl⟩
    | cons c rest =>
      have here : ¬ isDigit c = true := Bool.eq_false_iff.mp (ends c rfl)
      exact ⟨List.takeWhile_cons_of_neg here, List.dropWhile_cons_of_neg here⟩
  unfold digitRun?
  rw [List.takeWhile_append_of_pos digits, List.dropWhile_append_of_pos digits, none.1, none.2,
    List.append_nil]
  cases ds with
  | nil => exact (some rfl).elim
  | cons d ds => rfl

theorem Delimits.not_isDigit {rest : List Char} (delimits : Delimits rest) :
    ∀ c ∈ rest.head?, isDigit c = false := by
  intro c head
  rcases delimits c head with rfl | rfl | rfl <;> rfl

theorem Delimits.readFraction? {rest : List Char} (delimits : Delimits rest) :
    readFraction? rest = some ([], rest) := by
  unfold Json.readFraction?
  split
  · rcases delimits '.' rfl with same | same | same <;> cases same
  · rfl

theorem Delimits.readExponent? {rest : List Char} (delimits : Delimits rest) :
    readExponent? rest = some (none, rest) := by
  unfold Json.readExponent?
  split
  · rcases delimits 'e' rfl with same | same | same <;> cases same
  · rcases delimits 'E' rfl with same | same | same <;> cases same
  · rfl

theorem readMagnitude?_toDigits (negative : Bool) (n : Nat) {rest : List Char}
    (delimits : Delimits rest) :
    readMagnitude? negative (Nat.toDigits 10 n ++ rest) =
      some (.ofDecimal negative n 0 true, rest) := by
  have run := digitRun?_append Nat.toDigits_ne_nil (fun c => isDigit_of_mem_toDigits (n := n))
    delimits.not_isDigit
  unfold readMagnitude?
  rw [run, Option.bind_eq_bind, Option.bind_some]
  dsimp only
  rw [if_neg (toDigits_leading n), delimits.readFraction?, Option.bind_eq_bind, Option.bind_some]
  dsimp only
  rw [delimits.readExponent?, Option.bind_some, List.append_nil, digitsValue_toDigits]
  rfl

theorem exists_toDigits (n : Nat) : ∃ c cs, Nat.toDigits 10 n = c :: cs ∧ isDigit c = true := by
  obtain ⟨c, cs, split⟩ := List.exists_cons_of_ne_nil (@Nat.toDigits_ne_nil n 10)
  refine ⟨c, cs, split, isDigit_of_mem_toDigits (n := n) ?_⟩
  rw [split]
  exact List.mem_cons_self

/-- A number that is written without fraction and exponent. -/
def Number.Whole : Number → Prop
  | .whole n => least ≤ n ∧ n ≤ greatest
  | .real _ => False

theorem Number.ofDecimal_false {m : Nat} (whole : (Number.whole (.ofNat m)).Whole) :
    ofDecimal false m 0 true = .whole (.ofNat m) := by
  unfold ofDecimal
  exact if_pos ⟨rfl, whole.1, whole.2, rfl⟩

theorem Number.ofDecimal_true {m : Nat} (whole : (Number.whole (.negSucc m)).Whole) :
    ofDecimal true (m + 1) 0 true = .whole (.negSucc m) := by
  unfold ofDecimal
  exact if_pos ⟨rfl, whole.1, whole.2, rfl⟩

theorem Number.Whole.opens {n : Number} (whole : n.Whole) :
    ∃ c cs, n.text = c :: cs ∧ (isDigit c = true ∨ c = '-') := by
  match n with
  | .real _ => exact whole.elim
  | .whole (.ofNat m) =>
    obtain ⟨c, cs, split, digit⟩ := exists_toDigits m
    exact ⟨c, cs, split, .inl digit⟩
  | .whole (.negSucc m) => exact ⟨'-', _, rfl, .inr rfl⟩

theorem readNumber?_text {n : Number} (whole : n.Whole) {rest : List Char}
    (delimits : Delimits rest) : readNumber? (n.text ++ rest) = some (n, rest) := by
  match n with
  | .real _ => exact whole.elim
  | .whole (.ofNat m) =>
    have magnitude := readMagnitude?_toDigits false m delimits
    rw [Number.ofDecimal_false whole] at magnitude
    obtain ⟨c, cs, split, digit⟩ := exists_toDigits m
    rw [Number.text, ← magnitude, split]
    unfold readNumber?
    split
    · next same =>
      rw [(List.cons.inj same).1] at digit
      cases digit
    · rfl
  | .whole (.negSucc m) =>
    have magnitude := readMagnitude?_toDigits true (m + 1) delimits
    rw [Number.ofDecimal_true whole] at magnitude
    exact magnitude

/-- A value in which every number is whole. -/
inductive Value.Whole : Value → Prop
  | null : Whole .null
  | bool (b : Bool) : Whole (.bool b)
  | number {n : Number} (whole : n.Whole) : Whole (.number n)
  | string (s : String) : Whole (.string s)
  | array {items : List Value} (each : ∀ v ∈ items, Whole v) : Whole (.array items)
  | object {members : List (String × Value)} (each : ∀ m ∈ members, Whole m.2) :
      Whole (.object members)

/-- The sign or digit that opens a number is no other mark. -/
theorem ne_of_numeric {c d : Char} (numeric : isDigit c = true ∨ c = '-')
    (other : isDigit d = false) (dash : d ≠ '-') : c ≠ d := by
  rintro rfl
  rcases numeric with digit | same
  · rw [other] at digit
    cases digit
  · exact dash same

theorem not_isBlank_of_numeric {c : Char} (numeric : isDigit c = true ∨ c = '-') :
    isBlank c = false := by
  have space := ne_of_numeric (d := ' ') numeric rfl (by decide)
  have tab := ne_of_numeric (d := '\t') numeric rfl (by decide)
  have newline := ne_of_numeric (d := '\n') numeric rfl (by decide)
  have return' := ne_of_numeric (d := '\r') numeric rfl (by decide)
  simp [isBlank, space, tab, newline, return']

theorem skipBlanks_of_opens {c : Char} (opens : isBlank c = false) (s : List Char) :
    skipBlanks (c :: s) = c :: s :=
  List.dropWhile_cons_of_neg (Bool.eq_false_iff.mp opens)

/-- No blank opens the text of a value, nor the mark that closes an array. -/
theorem Value.Whole.opens {v : Value} (whole : v.Whole) :
    ∃ c cs, v.text = c :: cs ∧ isBlank c = false ∧ c ≠ ']' := by
  cases whole with
  | null => exact ⟨_, _, rfl, rfl, by decide⟩
  | bool b => cases b <;> exact ⟨_, _, rfl, rfl, by decide⟩
  | number whole =>
    obtain ⟨c, cs, split, numeric⟩ := whole.opens
    exact ⟨c, cs, split, not_isBlank_of_numeric numeric, ne_of_numeric numeric rfl (by decide)⟩
  | string s => exact ⟨_, _, rfl, rfl, by decide⟩
  | array => exact ⟨_, _, rfl, rfl, by decide⟩
  | object => exact ⟨_, _, rfl, rfl, by decide⟩

theorem stringText_append (s rest : List Char) :
    stringText s ++ rest = '"' :: (s.flatMap escaped ++ '"' :: rest) := by
  simp [stringText]

theorem readString?_all (s rest : List Char) :
    readString? ((s.flatMap escaped ++ '"' :: rest).length + 1) (s.flatMap escaped ++ '"' :: rest) =
      some (s, rest) := by
  have shorter : s.length ≤ (s.flatMap escaped).length := by
    induction s with
    | nil => exact Nat.le_refl 0
    | cons c s ih =>
      have one : 0 < (escaped c).length := List.length_pos_iff.mpr (escaped_ne_nil c)
      rw [List.flatMap_cons, List.length_append, List.length_cons]
      omega
  apply readString?_text
  rw [List.length_append]
  omega

theorem readKey?_text (key : String) (rest : List Char) :
    readKey? (stringText key.toList ++ ':' :: rest) = some (key, rest) := by
  have read := readString?_all key.toList (':' :: rest)
  unfold readKey?
  rw [stringText_append, skipBlanks_of_opens rfl]
  simp only [read, Option.bind_eq_bind, Option.bind_some, skipBlanks_of_opens (c := ':') rfl,
    String.ofList_toList]

theorem readValue?_of_numeric {c : Char} (numeric : isDigit c = true ∨ c = '-') (cs : List Char)
    (fuel : Nat) :
    readValue? (fuel + 1) (c :: cs) = (readNumber? (c :: cs)).map fun p => (.number p.1, p.2) := by
  have other {d : Char} {s : List Char} (plain : isDigit d = false) (dash : d ≠ '-')
      (same : c :: cs = d :: s) : False :=
    ne_of_numeric numeric plain dash (List.cons.inj same).1
  rw [readValue?, skipBlanks_of_opens (not_isBlank_of_numeric numeric)]
  split
  all_goals first
    | rfl
    | next same => exact (other rfl (by decide) same).elim

theorem readItems?_last {fuel : Nat} {s rest : List Char} {v : Value}
    (first : readValue? fuel s = some (v, ']' :: rest)) :
    readItems? (fuel + 1) s = some ([v], rest) := by
  rw [readItems?, first]
  rfl

theorem readItems?_more {fuel : Nat} {s rest left : List Char} {v : Value} {vs : List Value}
    (first : readValue? fuel s = some (v, ',' :: rest))
    (more : readItems? fuel rest = some (vs, left)) :
    readItems? (fuel + 1) s = some (v :: vs, left) := by
  rw [readItems?, first]
  simp only [Option.bind_eq_bind, Option.bind_some, skipBlanks_of_opens (c := ',') rfl, more]
  rfl

theorem readMembers?_last {fuel : Nat} {s rest left : List Char} {key : String} {v : Value}
    (named : readKey? s = some (key, rest))
    (first : readValue? fuel rest = some (v, '\x7d' :: left)) :
    readMembers? (fuel + 1) s = some ([(key, v)], left) := by
  rw [readMembers?, named, Option.bind_eq_bind, Option.bind_some]
  dsimp only
  rw [first]
  rfl

theorem readMembers?_more {fuel : Nat} {s rest rest' left : List Char} {key : String} {v : Value}
    {members : List (String × Value)} (named : readKey? s = some (key, rest))
    (first : readValue? fuel rest = some (v, ',' :: rest'))
    (more : readMembers? fuel rest' = some (members, left)) :
    readMembers? (fuel + 1) s = some ((key, v) :: members, left) := by
  rw [readMembers?, named, Option.bind_eq_bind, Option.bind_some]
  dsimp only
  rw [first]
  simp only [Option.bind_eq_bind, Option.bind_some, skipBlanks_of_opens (c := ',') rfl, more]
  rfl

theorem Delimits.cons {c : Char} (closes : c = ',' ∨ c = ']' ∨ c = '\x7d') (rest : List Char) :
    Delimits (c :: rest) := by
  intro d head
  rw [← Option.some.inj head]
  exact closes

theorem readValue?_array {fuel : Nat} {c : Char} {s rest : List Char} {vs : List Value}
    (opens : isBlank c = false) (item : c ≠ ']')
    (items : readItems? fuel (c :: s) = some (vs, rest)) :
    readValue? (fuel + 1) ('[' :: c :: s) = some (.array vs, rest) := by
  rw [readValue?, skipBlanks_of_opens rfl]
  simp only [skipBlanks_of_opens opens]
  split
  · next same => exact (item (List.cons.inj same).1).elim
  · rw [items]
    rfl

theorem readValue?_object {fuel : Nat} {s rest : List Char} {members : List (String × Value)}
    (read : readMembers? fuel ('"' :: s) = some (members, rest)) :
    readValue? (fuel + 1) ('\x7b' :: '"' :: s) = some (.object members, rest) := by
  rw [readValue?, skipBlanks_of_opens rfl]
  simp only [skipBlanks_of_opens (c := '"') rfl]
  split
  · next same => cases same
  · rw [read]
    rfl

theorem text_pos {v : Value} (whole : v.Whole) : 0 < v.text.length := by
  obtain ⟨c, cs, split, -⟩ := whole.opens
  rw [split]
  exact Nat.zero_lt_succ _

theorem itemsText_opens {v : Value} (whole : v.Whole) (vs : List Value) :
    ∃ c cs, itemsText (v :: vs) = c :: cs ∧ isBlank c = false ∧ c ≠ ']' := by
  obtain ⟨c, cs, split, opens⟩ := whole.opens
  cases vs with
  | nil => exact ⟨c, cs, split, opens⟩
  | cons w vs =>
    refine ⟨c, cs ++ ',' :: itemsText (w :: vs), ?_, opens⟩
    rw [itemsText, split, List.cons_append]

theorem membersText_opens (key : String) (v : Value) (ms : List (String × Value)) :
    ∃ cs, membersText ((key, v) :: ms) = '"' :: cs := by
  cases ms with
  | nil => exact ⟨_, rfl⟩
  | cons m ms => exact ⟨_, rfl⟩

-- The induction is on the value. Fuel of twice its length leaves a unit for the list inside its
-- brackets, and each item of the list is shorter than the list.
mutual

/-- A value is read off the front of a text, and what follows it is left. -/
theorem readValue?_text : ∀ {v : Value}, v.Whole → ∀ (fuel : Nat) (rest : List Char),
    2 * v.text.length ≤ fuel → Delimits rest → readValue? fuel (v.text ++ rest) = some (v, rest)
  | .null, _, fuel + 1, rest, _, _ => rfl
  | .bool true, _, fuel + 1, rest, _, _ => rfl
  | .bool false, _, fuel + 1, rest, _, _ => rfl
  | .number n, .number whole, fuel + 1, rest, _, delimits => by
    obtain ⟨c, cs, split, numeric⟩ := whole.opens
    have read := readNumber?_text whole delimits
    rw [split, List.cons_append] at read
    rw [Value.text, split, List.cons_append, readValue?_of_numeric numeric, read]
    rfl
  | .string s, _, fuel + 1, rest, _, _ => by
    rw [Value.text, stringText_append, readValue?, skipBlanks_of_opens rfl]
    simp only [readString?_all, Option.map_some, String.ofList_toList]
  | .array [], _, fuel + 1, rest, _, _ => rfl
  | .array (v :: vs), .array each, fuel + 1, rest, enough, _ => by
    have inside : 2 * (itemsText (v :: vs)).length < fuel := by
      rw [Value.text, List.length_append, List.length_cons, List.length_singleton] at enough
      omega
    have items := readItems?_text each fuel rest inside
    obtain ⟨c, cs, split, opens, item⟩ := itemsText_opens (each v List.mem_cons_self) vs
    rw [split, List.cons_append] at items
    rw [Value.text, split, List.append_assoc, List.singleton_append, List.cons_append,
      List.cons_append]
    exact readValue?_array opens item items
  | .object [], _, fuel + 1, rest, _, _ => rfl
  | .object ((key, v) :: ms), .object each, fuel + 1, rest, enough, _ => by
    have inside : 2 * (membersText ((key, v) :: ms)).length < fuel := by
      rw [Value.text, List.length_append, List.length_cons, List.length_singleton] at enough
      omega
    have read := readMembers?_text each fuel rest inside
    obtain ⟨cs, split⟩ := membersText_opens key v ms
    rw [split, List.cons_append] at read
    rw [Value.text, split, List.append_assoc, List.singleton_append, List.cons_append,
      List.cons_append]
    exact readValue?_object read
  -- No text is empty, so there is fuel.
  | _, whole, 0, _, enough, _ => by
    have := text_pos whole
    omega

/-- The items of an array are read to the closing bracket. -/
theorem readItems?_text : ∀ {v : Value} {vs : List Value}, (∀ w ∈ v :: vs, w.Whole) →
    ∀ (fuel : Nat) (rest : List Char), 2 * (itemsText (v :: vs)).length < fuel →
      readItems? fuel (itemsText (v :: vs) ++ ']' :: rest) = some (v :: vs, rest)
  | v, [], each, fuel + 1, rest, enough => by
    have whole : v.Whole := each v List.mem_cons_self
    have first := readValue?_text whole fuel (']' :: rest) (Nat.le_of_lt_succ enough)
      (.cons (.inr (.inl rfl)) rest)
    exact readItems?_last first
  | v, w :: vs, each, fuel + 1, rest, enough => by
    rw [itemsText, List.length_append, List.length_cons] at enough
    have whole : v.Whole := each v List.mem_cons_self
    have others : ∀ u ∈ w :: vs, u.Whole := fun u member => each u (List.mem_cons_of_mem v member)
    have first := readValue?_text whole fuel (',' :: (itemsText (w :: vs) ++ ']' :: rest))
      (by omega) (.cons (.inl rfl) _)
    have more := readItems?_text others fuel rest (by omega)
    rw [itemsText, List.append_assoc, List.cons_append]
    exact readItems?_more first more

/-- The members of an object are read to the closing brace. -/
theorem readMembers?_text : ∀ {key : String} {v : Value} {ms : List (String × Value)},
    (∀ m ∈ (key, v) :: ms, m.2.Whole) → ∀ (fuel : Nat) (rest : List Char),
    2 * (membersText ((key, v) :: ms)).length < fuel →
      readMembers? fuel (membersText ((key, v) :: ms) ++ '\x7d' :: rest) =
        some ((key, v) :: ms, rest)
  | key, v, [], each, fuel + 1, rest, enough => by
    rw [membersText, List.length_append, List.length_cons] at enough
    have whole : v.Whole := each (key, v) List.mem_cons_self
    have named := readKey?_text key (v.text ++ '\x7d' :: rest)
    have first := readValue?_text whole fuel ('\x7d' :: rest) (by omega)
      (.cons (.inr (.inr rfl)) rest)
    rw [membersText, List.append_assoc, List.cons_append]
    exact readMembers?_last named first
  | key, v, (key', w) :: ms, each, fuel + 1, rest, enough => by
    rw [membersText, List.length_append, List.length_append, List.length_cons,
      List.length_cons] at enough
    have whole : v.Whole := each (key, v) List.mem_cons_self
    let further := membersText ((key', w) :: ms) ++ '\x7d' :: rest
    have others : ∀ m ∈ (key', w) :: ms, m.2.Whole :=
      fun m member => each m (List.mem_cons_of_mem (key, v) member)
    have named := readKey?_text key (v.text ++ ',' :: further)
    have first := readValue?_text whole fuel (',' :: further) (by omega) (.cons (.inl rfl) further)
    have more := readMembers?_text others fuel rest (by omega)
    rw [membersText, List.append_assoc, List.append_assoc, List.cons_append, List.cons_append]
    exact readMembers?_more named first more

end

/-- The text of a value is read as that value. -/
theorem parse?_compact {v : Value} (whole : v.Whole) : parse? v.compact = some v := by
  have read := readValue?_text whole (2 * v.text.length + 2) [] (Nat.le_add_right _ 2) nofun
  rw [List.append_nil] at read
  unfold parse? Value.compact
  rw [String.toList_ofList]
  simp only [read]
  rfl

end Gatekeeper.Json
