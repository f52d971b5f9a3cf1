import ApiSchema.Proofs.Number.Digits
import ApiSchema.Proofs.Text.Spelling

/-!
Searching a text for a pattern, and the words of a part as such a search finds them.

A pattern may match the front of a text in several ways, which are tried in order. A search takes the
first, goes on behind it, and passes over a character where no way is left, so it may lose some. The
search for words loses none: it cuts a part of letters and digits into words.
-/

namespace ApiSchema.Text

inductive Pattern where
  | one (kind : Char → Bool)
  | many (kind : Char → Bool)
  | perhaps (kind : Char → Bool)
  | pair (first second : Pattern)
  | choice (first second : Pattern)
  | ahead (next : Pattern)
  | ending

namespace Pattern

def runs (kind : Char → Bool) : List Char → List (List Char)
  | [] => []
  | c :: rest => if kind c then runs kind rest ++ [rest] else []

def rests : Pattern → List Char → List (List Char)
  | .one _, [] => []
  | .one kind, c :: rest => if kind c then [rest] else []
  | .many kind, text => runs kind text
  | .perhaps _, [] => [[]]
  | .perhaps kind, c :: rest => if kind c then [rest, c :: rest] else [c :: rest]
  | .pair first second, text => (first.rests text).flatMap second.rests
  | .choice first second, text => first.rests text ++ second.rests text
  | .ahead next, text => if (next.rests text).isEmpty then [] else [text]
  | .ending, text => if text.isEmpty || text == ['\n'] then [text] else []

/-- The matches in a text from left to right, of a pattern that does not match the empty text. -/
def found (p : Pattern) : List Char → List (List Char)
  | [] => []
  | c :: rest =>
    match (p.rests (c :: rest)).head? with
    | some left =>
      if left.length ≤ rest.length then
        (c :: rest.take (rest.length - left.length)) :: found p left
      else found p rest
    | none => found p rest
termination_by text => text.length
decreasing_by all_goals simp only [List.length_cons]; omega

def numeral : Pattern := .one fun c => (decimalValue? c).isSome

def capitals : Pattern :=
  .pair (.many Char.isUpper) (.ahead
    (.choice (.pair (.one Char.isUpper) (.one Char.isLower)) (.choice numeral .ending)))

def smalls : Pattern := .pair (.perhaps Char.isUpper) (.many Char.isLower)

def numerals : Pattern := .many fun c => (decimalValue? c).isSome

def word : Pattern := .choice capitals (.choice smalls numerals)

variable {kind : Char → Bool} {text front after : List Char} {c d : Char}

theorem runs_none (stop : text.head?.any kind = false) : runs kind text = [] := by
  cases text with
  | nil => rfl
  | cons c rest => simpa [runs] using stop

theorem runs_first (starts : kind c = true) (rest : List Char) :
    (runs kind (c :: rest)).head? = some (rest.dropWhile kind) := by
  induction rest generalizing c with
  | nil => simp [runs, starts]
  | cons d rest ih =>
      rw [runs, if_pos starts]
      by_cases next : kind d = true
      · rw [List.head?_append, ih next]
        simp [next]
      · have stopped : runs kind (d :: rest) = [] := by simp [runs, next]
        simp [stopped, next]

-- The longest run comes first. The next one, if there is another, gives its last character back.
theorem runs_back (run : ∀ c ∈ front, kind c = true) (last : kind d = true)
    (stop : after.head?.any kind = false) :
    ∃ more, runs kind (front ++ d :: after) = after :: more ∧
      more.head? = if front = [] then none else some (d :: after) := by
  induction front with
  | nil => exact ⟨[], by simp [runs, last, runs_none stop], rfl⟩
  | cons c front ih =>
      obtain ⟨more, same, second⟩ := ih fun c member => run c (by simp [member])
      refine ⟨more ++ [front ++ d :: after], ?_, ?_⟩
      · rw [List.cons_append, runs, if_pos (run c (by simp)), same]
        rfl
      · rw [List.head?_append, second]
        by_cases none : front = [] <;> simp [none]

theorem ahead_filtered (p next : Pattern) (text : List Char) :
    (pair p (ahead next)).rests text = (p.rests text).filter fun left => !(next.rests left).isEmpty := by
  rw [rests]
  induction p.rests text with
  | nil => rfl
  | cons left more ih =>
      rw [List.flatMap_cons, ih, rests]
      by_cases none : (next.rests left).isEmpty = true <;> simp [none]

end Pattern

section Words

open Pattern

variable {part front after text : List Char} {c d : Char}

theorem drop_run (kind : Char → Bool) (text : List Char) :
    text.drop (text.takeWhile kind).length = text.dropWhile kind := by
  have whole := congrArg (List.drop (text.takeWhile kind).length)
    (List.takeWhile_append_dropWhile (p := kind) (l := text))
  rw [List.drop_left] at whole
  exact whole.symm

theorem drop_while_same {kind kind' : Char → Bool} (same : ∀ c ∈ text, kind c = kind' c) :
    text.dropWhile kind = text.dropWhile kind' := by
  induction text with
  | nil => rfl
  | cons c rest ih =>
      rw [List.dropWhile_cons, List.dropWhile_cons, same c (by simp),
        ih fun d member => same d (by simp [member])]

theorem small_alpha (small : c.isLower = true) : c.isAlpha = true :=
  Bool.or_eq_true_iff.mpr (.inr small)

theorem capital_alpha (capital : c.isUpper = true) : c.isAlpha = true :=
  Bool.or_eq_true_iff.mpr (.inl capital)

theorem letter_cases (letter : isLetterOrDigit c = true) :
    c.isDigit = true ∨ c.isLower = true ∨ c.isUpper = true := by
  obtain alpha | digit := Bool.or_eq_true_iff.mp letter
  · obtain capital | small := Bool.or_eq_true_iff.mp alpha
    · exact .inr (.inr capital)
    · exact .inr (.inl small)
  · exact .inl digit

theorem digit_kind (digit : c.isDigit = true) : c.isUpper = false ∧ c.isLower = false := by
  have all : decimalDigits.all (fun d => !d.isUpper && !d.isLower) = true := by decide
  simpa using List.all_eq_true.mp all c (digit_listed digit)

theorem small_kind (letter : isLetterOrDigit c = true) (small : c.isLower = true) :
    c.isUpper = false ∧ c.isDigit = false :=
  word_forall (fun c => c.isLower = true → c.isUpper = false ∧ c.isDigit = false)
    (by decide +kernel) (letter_word letter) small

theorem capital_kind (letter : isLetterOrDigit c = true) (capital : c.isUpper = true) :
    c.isLower = false ∧ c.isDigit = false :=
  word_forall (fun c => c.isUpper = true → c.isLower = false ∧ c.isDigit = false)
    (by decide +kernel) (letter_word letter) capital

theorem letter_decimal (letter : isLetterOrDigit c = true) :
    (decimalValue? c).isSome = c.isDigit :=
  word_forall (fun c => isLetterOrDigit c = true → (decimalValue? c).isSome = c.isDigit)
    (by decide +kernel) (letter_word letter) letter

theorem split_capitals (capital : c.isUpper = true) (rest : List Char) :
    ∃ front d after, c :: rest = front ++ d :: after ∧ (∀ c ∈ front, c.isUpper = true) ∧
      d.isUpper = true ∧ after.head?.any Char.isUpper = false := by
  induction rest generalizing c with
  | nil => exact ⟨[], c, [], rfl, nofun, capital, rfl⟩
  | cons e rest ih =>
      by_cases next : e.isUpper = true
      · obtain ⟨front, d, after, same, run, last, stop⟩ := ih next
        refine ⟨c :: front, d, after, by rw [same]; rfl, fun x member => ?_, last, stop⟩
        obtain rfl | later := List.mem_cons.mp member
        · exact capital
        · exact run x later
      · exact ⟨[], c, e :: rest, rfl, nofun, capital, by simpa using next⟩

theorem capitals_length (run : ∀ c ∈ front, c.isUpper = true) (last : d.isUpper = true)
    (stop : after.head?.any Char.isUpper = false) :
    capitalsLength (front ++ d :: after) =
      if after.head?.all Char.isDigit then front.length + 1 else front.length := by
  have capitals : (front ++ d :: after).takeWhile Char.isUpper = front ++ [d] := by
    rw [List.takeWhile_append_of_pos run]
    cases after with
    | nil => simp [last]
    | cons e tail =>
        have small : e.isUpper = false := by simpa using stop
        simp [last, small]
  have behind : (front ++ d :: after).drop (front ++ [d]).length = after := by
    rw [List.append_cons front d after, List.drop_left]
  simp only [capitalsLength, capitals, behind]
  cases after with
  | nil => simp
  | cons e tail => by_cases digit : e.isDigit = true <;> simp [digit]

theorem capitals_none (small : text.head?.any Char.isUpper = false) : capitals.rests text = [] := by
  rw [capitals, ahead_filtered, rests, runs_none small]
  rfl

theorem capitals_before (letters : ∀ c ∈ after, isLetterOrDigit c = true)
    (run : ∀ c ∈ front, c.isUpper = true) (last : d.isUpper = true)
    (stop : after.head?.any Char.isUpper = false) (digit : after.head?.all Char.isDigit = true) :
    (capitals.rests (front ++ d :: after)).head? = some after := by
  obtain ⟨more, same, -⟩ := runs_back run last stop
  rw [capitals, ahead_filtered, rests, same]
  cases after with
  | nil => simp [rests, numeral]
  | cons e tail =>
      have decimal : (decimalValue? e).isSome = true := by
        rw [letter_decimal (letters e (by simp))]
        simpa using digit
      simp [rests, numeral, decimal]

-- Before a small letter the last capital is given back, and a capital alone is no match.
theorem capitals_back {e : Char} (letter : isLetterOrDigit e = true) (small : e.isLower = true)
    (run : ∀ c ∈ front, c.isUpper = true) (last : d.isUpper = true) :
    (capitals.rests (front ++ d :: e :: text)).head? =
      if front = [] then none else some (d :: e :: text) := by
  obtain ⟨capital, digit⟩ := small_kind letter small
  have decimal : (decimalValue? e).isSome = false := by rw [letter_decimal letter, digit]
  have other : e ≠ '\n' := by
    rintro rfl
    cases small
  have stop : (e :: text).head?.any Char.isUpper = false := by simpa using capital
  obtain ⟨more, same, second⟩ := runs_back run last stop
  rw [capitals, ahead_filtered, rests, same]
  cases more with
  | nil =>
      by_cases alone : front = []
      · simp [rests, numeral, capital, decimal, other, alone]
      · simp [alone] at second
  | cons next more =>
      by_cases alone : front = []
      · simp [alone] at second
      · obtain rfl : next = d :: e :: text := by simpa [alone] using second
        simp [rests, numeral, capital, decimal, other, alone, last, small]

theorem smalls_none (capital : c.isUpper = false) (small : c.isLower = false) :
    smalls.rests (c :: text) = [] := by
  simp [smalls, rests, runs, capital, small]

theorem smalls_first (capital : c.isUpper = false) (small : c.isLower = true) :
    (smalls.rests (c :: text)).head? = some (text.dropWhile Char.isLower) := by
  simp [smalls, rests, capital, runs_first small]

theorem smalls_second (capital : c.isUpper = true) (small : d.isLower = true) :
    (smalls.rests (c :: d :: text)).head? = some (text.dropWhile Char.isLower) := by
  simp [smalls, rests, capital, List.head?_append, runs_first small]

theorem word_ways (text : List Char) :
    word.rests text = capitals.rests text ++ (smalls.rests text ++ numerals.rests text) := rfl

theorem drop_word (kind : Char → Bool) (c : Char) (rest : List Char) :
    (c :: rest).drop (1 + (rest.takeWhile kind).length) = rest.dropWhile kind := by
  rw [Nat.add_comm, List.drop_succ_cons, drop_run]

theorem word_digits (letters : ∀ x ∈ c :: text, isLetterOrDigit x = true) (digit : c.isDigit = true) :
    (word.rests (c :: text)).head? = some ((c :: text).drop (wordLength (c :: text))) := by
  obtain ⟨capital, small⟩ := digit_kind digit
  have decimal : (decimalValue? c).isSome = true := by rw [letter_decimal (letters c (by simp)), digit]
  have same : text.dropWhile (fun c => (decimalValue? c).isSome) = text.dropWhile Char.isDigit :=
    drop_while_same fun d member => letter_decimal (letters d (by simp [member]))
  have first := @runs_first (fun c => (decimalValue? c).isSome) c decimal text
  rw [word_ways, capitals_none (by simpa using capital), smalls_none capital small, wordLength,
    if_pos digit, drop_word, ← same]
  exact first

theorem word_smalls (letter : isLetterOrDigit c = true) (small : c.isLower = true) (text : List Char) :
    (word.rests (c :: text)).head? = some ((c :: text).drop (wordLength (c :: text))) := by
  obtain ⟨capital, digit⟩ := small_kind letter small
  rw [word_ways, capitals_none (by simpa using capital), wordLength, digit, if_neg Bool.false_ne_true,
    if_pos small, drop_word, List.nil_append, List.head?_append, smalls_first capital small]
  rfl

theorem word_capitals (letters : ∀ x ∈ c :: text, isLetterOrDigit x = true) (capital : c.isUpper = true) :
    (word.rests (c :: text)).head? = some ((c :: text).drop (wordLength (c :: text))) := by
  obtain ⟨small, digit⟩ := capital_kind (letters c (by simp)) capital
  obtain ⟨front, d, after, same, run, last, stop⟩ := split_capitals capital text
  have length := capitals_length run last stop
  have inside : ∀ x ∈ after, isLetterOrDigit x = true := fun x member =>
    letters x (by rw [same]; simp [member])
  rw [word_ways, wordLength, digit, if_neg Bool.false_ne_true, small, if_neg Bool.false_ne_true,
    List.head?_append]
  -- Before a digit or the end all capitals are a word. Before a small letter the last one starts the next.
  by_cases numeral : after.head?.all Char.isDigit = true
  · rw [if_pos numeral] at length
    rw [same, length, capitals_before inside run last stop numeral]
    simp
  · rw [if_neg numeral] at length
    obtain ⟨e, tail, rfl⟩ : ∃ e tail, after = e :: tail :=
      List.exists_cons_of_ne_nil fun none => numeral (by rw [none]; rfl)
    have letter := inside e (by simp)
    have low : e.isLower = true := by
      obtain digit | low | capital := letter_cases letter
      · exact absurd digit (by simpa using numeral)
      · exact low
      · rw [List.head?_cons, Option.any_some, capital] at stop
        cases stop
    have back : (capitals.rests (front ++ d :: e :: tail)).head? =
        if front = [] then none else some (d :: e :: tail) := capitals_back letter low run last
    rw [← same] at back length
    -- That leaves nothing of a capital alone: the word is the capital with the small letters behind it.
    by_cases alone : front = []
    · have zero : capitalsLength (c :: text) = 0 := by rw [length, alone]; rfl
      obtain ⟨rfl, rfl⟩ : c = d ∧ text = e :: tail := by simpa [alone] using same
      rw [if_pos alone] at back
      rw [back, Option.none_or, List.head?_append, smalls_second capital low]
      simp only [zero, if_true, drop_word, List.dropWhile_cons_of_pos low, Option.some_or]
    · have long : front.length ≠ 0 := by simpa using alone
      rw [if_neg alone] at back
      simp only [back, length, if_neg long]
      rw [same, List.drop_left]
      rfl

theorem word_front (letters : ∀ x ∈ c :: text, isLetterOrDigit x = true) :
    (word.rests (c :: text)).head? = some ((c :: text).drop (wordLength (c :: text))) := by
  have letter := letters c (by simp)
  obtain digit | small | capital := letter_cases letter
  · exact word_digits letters digit
  · exact word_smalls letter small text
  · exact word_capitals letters capital

theorem word_length_pos (c : Char) (rest : List Char) : 0 < wordLength (c :: rest) := by
  simp only [wordLength]
  split
  · omega
  · split
    · omega
    · split <;> omega

-- A search for words finds the words into which a part is cut.
theorem found_words (letters : ∀ c ∈ part, isLetterOrDigit c = true) :
    word.found part = cutWords part := by
  fun_induction cutWords part with
  | case1 => simp [found]
  | case2 c rest length ih =>
      have front := word_front letters
      obtain ⟨n, same⟩ := Nat.exists_eq_add_one.mpr (word_length_pos c rest)
      have cut : length = n := by simp [length, same]
      rw [same, List.drop_succ_cons] at front
      rw [found, front]
      have shorter : (rest.drop n).length ≤ rest.length := by simp
      have taken : rest.take (rest.length - (rest.drop n).length) = rest.take n := by
        rw [List.take_eq_take_iff, List.length_drop]
        omega
      rw [cut] at ih ⊢
      simp only [if_pos shorter, taken]
      rw [ih fun x member => letters x (List.mem_cons_of_mem _ (List.mem_of_mem_drop member))]

end Words

end ApiSchema.Text
