import ApiSchema.Document.Pointer
import ApiSchema.Proofs.Number.Digits
import ApiSchema.Proofs.Text.Splitting

/-!
Paths through a document and the pointers that spell them.

A pointer spells each step of a path, in order, behind a slash of its own. What the path leads to is what
the pointer names, whatever the keys on the way are made of. Only the empty key cannot come first, since
slashes in front of a pointer are dropped together.

Nothing else is named, but for liberties of spelling: a slash alone is the whole document, slashes in front
count for nothing, and a tilde that escapes nothing stands for itself. A pointer without them that names
something is the pointer of a path, character by character, if it names items of lists in plain decimal
digits.
-/

namespace ApiSchema.Pointer

inductive Step where
  | key (name : String)
  | index (position : Nat)
deriving DecidableEq

def Step.text : Step → List Char
  | key name => name.toList
  | index position => Nat.toDigits 10 position

inductive Leads (g : Graph) : Item → List Step → Item → Prop where
  | here (item : Item) : Leads g item [] item
  | key {item part target : Item} {entries : Entries} {name : String} {path : List Step}
      (map : g.entries? item = some entries) (found : lookup? entries (.text name) = some part)
      (onward : Leads g part path target) : Leads g item (.key name :: path) target
  | index {item part target : Item} {items : List Item} {position : Nat} {path : List Step}
      (list : g.items? item = some items) (found : items[position]? = some part)
      (onward : Leads g part path target) : Leads g item (.index position :: path) target

def spelled (path : List Step) : List (List Char) := path.map fun step => escape step.text

def ofPath (path : List Step) : String := String.ofList ('/' :: List.intercalate ['/'] (spelled path))

variable {g : Graph} {item part target : Item} {path : List Step}

theorem escape_no_slash (name : List Char) : '/' ∉ escape name := by
  intro member
  obtain ⟨c, _, inside⟩ := List.mem_flatMap.mp member
  split at inside
  · simp at inside
  · split at inside
    · simp at inside
    next other =>
      have same := List.mem_singleton.mp inside
      simp [← same] at other

theorem escape_empty {name : List Char} : escape name = [] ↔ name = [] := by
  refine ⟨fun none => ?_, fun none => by rw [none]; rfl⟩
  rw [← unescape_escape name, none]
  rfl

theorem escape_injective {name other : List Char} (same : escape name = escape other) : name = other := by
  rw [← unescape_escape name, same, unescape_escape]

theorem of_some_map {entries : Entries} (map : g.entries? item = some entries) :
    g.of? item = some (.map entries) := by
  unfold Graph.entries? at map
  split at map
  next held =>
    cases map
    exact held
  next => cases map

theorem of_some_list {items : List Item} (list : g.items? item = some items) :
    g.of? item = some (.list items) := by
  unfold Graph.items? at list
  split at list
  next held =>
    cases list
    exact held
  next => cases list

theorem follow_key {entries : Entries} (map : g.entries? item = some entries) (name : String) :
    follow? g item (escape name.toList) = lookup? entries (.text name) := by
  simp only [follow?, of_some_map map, unescape_escape, String.ofList_toList]

theorem follow_index {items : List Item} {position : Nat} (list : g.items? item = some items)
    (found : items[position]? = some part) :
    follow? g item (escape (Nat.toDigits 10 position)) = some part := by
  obtain ⟨inside, -⟩ := List.getElem?_eq_some_iff.mp found
  have named : position? items.length (Nat.toDigits 10 position) = some position := by
    have whole : ¬ (position : Int) < 0 := by omega
    simp [position?, integer_of_digits, whole, inside]
  simp only [follow?, of_some_list list, unescape_escape, named, Option.bind_some, found]

theorem leads_follow (leads : Leads g item path target) :
    (spelled path).foldlM (follow? g) item = some target := by
  induction leads with
  | here item => rfl
  | @key item part _ entries name path map found _ ih =>
      change ((follow? g item (escape name.toList)).bind fun part =>
        (spelled path).foldlM (follow? g) part) = _
      rw [follow_key map, found, Option.bind_some, ih]
  | @index item part _ items position path list found _ ih =>
      change ((follow? g item (escape (Nat.toDigits 10 position))).bind fun part =>
        (spelled path).foldlM (follow? g) part) = _
      rw [follow_index list found, Option.bind_some, ih]

theorem step_spelled {step : Step} (named : step ≠ .key "") : escape step.text ≠ [] := by
  intro none
  cases step with
  | key name => exact named (congrArg Step.key (String.ext (escape_empty.mp none)))
  | index position => exact Nat.toDigits_ne_nil (escape_empty.mp none)

-- Nothing is dropped in front of a step that is spelled with something.
theorem joined_kept {first : List Char} (filled : first ≠ []) (apart : '/' ∉ first)
    (others : List (List Char)) : (List.intercalate ['/'] (first :: others)).dropWhile (· == '/') =
      List.intercalate ['/'] (first :: others) := by
  obtain ⟨c, rest, rfl⟩ := List.exists_cons_of_ne_nil filled
  have other : (c == '/') = false := by
    simpa using fun same : c = '/' => apart (by simp [same])
  cases others with
  | nil => simp [List.intercalate, other]
  | cons next more => simp [List.intercalate, other]

theorem spelled_steps {step : Step} (named : step ≠ .key "") (path : List Step) :
    steps (ofPath (step :: path)).toList = spelled (step :: path) := by
  have apart : ∀ piece ∈ spelled (step :: path), '/' ∉ piece := by
    intro piece member
    obtain ⟨step, -, rfl⟩ := List.mem_map.mp member
    exact escape_no_slash step.text
  have kept := joined_kept (step_spelled named) (escape_no_slash step.text) (spelled path)
  rw [steps, ofPath, String.toList_ofList, List.dropWhile_cons_of_pos (by rfl)]
  exact (congrArg (Text.splitOn '/') kept).trans (Text.split_joined _ _ apart)

theorem pointer_long {step : Step} (named : step ≠ .key "") (path : List Step) :
    ((ofPath (step :: path)).isEmpty || ofPath (step :: path) == "/") = false := by
  have filled : List.intercalate ['/'] (spelled (step :: path)) ≠ [] := by
    intro none
    have pieces := spelled_steps named path
    rw [ofPath, String.toList_ofList, none] at pieces
    exact step_spelled named (List.cons.inj pieces).1.symm
  rw [Bool.or_eq_false_iff]
  constructor
  · simp [ofPath, ← String.toList_inj]
  · simpa [ofPath, ← String.toList_inj] using filled

-- The pointer of a path names what the path leads to.
theorem leads_resolve (leads : Leads g item path target) (named : path.head? ≠ some (.key "")) :
    resolve? g item (ofPath path) = some target := by
  cases path with
  | nil =>
      cases leads
      rfl
  | cons step rest =>
      have named : step ≠ .key "" := fun same => named (congrArg some same)
      rw [resolve?, pointer_long named rest, if_neg Bool.false_ne_true, spelled_steps named rest]
      exact leads_follow leads

def isEscaped : List Char → Bool
  | [] => true
  | '~' :: c :: rest => (c == '0' || c == '1') && isEscaped rest
  | c :: rest => c != '~' && isEscaped rest

def respell (step : List Char) : List Char := escape (unescape step)

/-- One slash in front with something behind it, and only tildes that escape something. -/
def isRegular (pointer : String) : Bool :=
  (match pointer.toList with
    | '/' :: c :: _ => c != '/'
    | _ => false) && (steps pointer.toList).all isEscaped

def isPlain (text : List Char) : Bool :=
  match integerOf? text with
  | some n => text == Nat.toDigits 10 n.toNat
  | none => true

def inDecimal (g : Graph) (item : Item) : List (List Char) → Bool
  | [] => true
  | step :: more =>
    match follow? g item step with
    | some part => ((g.items? item).isNone || isPlain (unescape step)) && inDecimal g part more
    | none => true

section Escapes

theorem unescape_zero (rest : List Char) : unescape ('~' :: '0' :: rest) = '~' :: unescape rest := by
  simp [unescape, replaceTilde]

theorem unescape_one (rest : List Char) : unescape ('~' :: '1' :: rest) = '/' :: unescape rest := by
  simp [unescape, replaceTilde]

theorem unescape_other {c : Char} (other : c ≠ '~') (rest : List Char) :
    unescape (c :: rest) = c :: unescape rest := by
  rw [unescape, replaceTilde_of_ne _ _ _ other, replaceTilde_of_ne _ _ _ other, unescape]

theorem escaped_escape (name : List Char) : isEscaped (escape name) = true := by
  induction name with
  | nil => rfl
  | cons c rest ih =>
      by_cases tilde : c = '~'
      · subst tilde
        simpa [escape, isEscaped] using ih
      · by_cases slash : c = '/'
        · subst slash
          simpa [escape, isEscaped] using ih
        · have front : escape (c :: rest) = c :: escape rest := by simp [escape, tilde, slash]
          rw [front, isEscaped]
          · simpa [tilde] using ih
          · intro d more same
            exact absurd same tilde

-- Spelling a step again changes nothing if its tildes are escapes.
theorem respell_escaped {step : List Char} (apart : '/' ∉ step) (escaped : isEscaped step = true) :
    respell step = step := by
  fun_induction isEscaped step with
  | case1 => rfl
  | case2 c rest ih =>
      obtain ⟨digit, escaped⟩ := Bool.and_eq_true_iff.mp escaped
      have onward := ih (fun member => apart (by simp [member])) escaped
      rw [respell] at onward ⊢
      obtain rfl | rfl : c = '0' ∨ c = '1' := by simpa using digit
      · rw [unescape_zero, escape, List.flatMap_cons, ← escape, onward]
        rfl
      · rw [unescape_one, escape, List.flatMap_cons, ← escape, onward]
        rfl
  | case3 c rest _ ih =>
      obtain ⟨other, escaped⟩ := Bool.and_eq_true_iff.mp escaped
      have tilde : c ≠ '~' := by simpa using other
      have slash : c ≠ '/' := fun same => apart (by simp [same])
      have onward := ih (fun member => apart (by simp [member])) escaped
      rw [respell] at onward ⊢
      rw [unescape_other tilde, escape, List.flatMap_cons, ← escape, onward]
      simp [tilde, slash]

end Escapes

section Following

-- Only what a step reads as counts.
theorem follow_read {step step' : List Char} (same : unescape step = unescape step') :
    follow? g item step = follow? g item step' := by
  rw [follow?, follow?, same]

theorem follow_each {written written' : List (List Char)}
    (same : written.map unescape = written'.map unescape) :
    written.foldlM (follow? g) item = written'.foldlM (follow? g) item := by
  induction written generalizing item written' with
  | nil =>
      obtain rfl := List.map_eq_nil_iff.mp same.symm
      rfl
  | cons step more ih =>
      obtain ⟨step', more', rfl, first, rest⟩ := List.map_eq_cons_iff.mp same.symm
      simp only [List.foldlM_cons, follow_read first, ih rest.symm]

theorem position_decimal {length n position : Nat}
    (named : position? length (Nat.toDigits 10 n) = some position) : position = n := by
  have whole : ¬ (n : Int) < 0 := by omega
  simp only [position?, integer_of_digits, Option.bind_some, if_neg whole] at named
  split at named
  · simpa using (Option.some.inj named).symm
  · cases named

theorem follow_cases {step : List Char} (found : follow? g item step = some part) :
    (∃ entries, g.entries? item = some entries ∧
      lookup? entries (.text (String.ofList (unescape step))) = some part) ∨
    ∃ items position, g.items? item = some items ∧
      position? items.length (unescape step) = some position ∧ items[position]? = some part := by
  simp only [follow?] at found
  split at found
  next entries held => exact .inl ⟨entries, by simp [Graph.entries?, held], found⟩
  next items held =>
    obtain ⟨position, named, there⟩ := Option.bind_eq_some_iff.mp found
    exact .inr ⟨items, position, by simp [Graph.items?, held], named, there⟩
  next => cases found

-- A step into a list is an integer, and if it is plain it is the position.
theorem plain_position {length position : Nat} {text : List Char}
    (named : position? length text = some position) (plain : isPlain text = true) :
    text = Nat.toDigits 10 position := by
  obtain ⟨n, whole, -⟩ := Option.bind_eq_some_iff.mp named
  simp only [isPlain, whole, beq_iff_eq] at plain
  rw [plain] at named ⊢
  rw [position_decimal named]

theorem written_leads {written : List (List Char)} (plain : inDecimal g item written = true)
    (found : written.foldlM (follow? g) item = some target) :
    ∃ path, Leads g item path target ∧ path.map Step.text = written.map unescape := by
  induction written generalizing item with
  | nil =>
      cases found
      exact ⟨[], .here _, rfl⟩
  | cons step more ih =>
      obtain ⟨part, first, rest⟩ := Option.bind_eq_some_iff.mp found
      simp only [inDecimal, first] at plain
      obtain ⟨decimal, onward⟩ := Bool.and_eq_true_iff.mp plain
      obtain ⟨path, leads, same⟩ := ih onward rest
      obtain ⟨entries, map, there⟩ | ⟨items, position, list, named, there⟩ := follow_cases first
      · refine ⟨.key (String.ofList (unescape step)) :: path, .key map there leads, ?_⟩
        simp [Step.text, same]
      · have text : unescape step = Nat.toDigits 10 position := by
          rw [list] at decimal
          exact plain_position named (by simpa using decimal)
        exact ⟨.index position :: path, .index list there leads, by simp [Step.text, same, text]⟩

theorem spelled_iff {written : List (List Char)} :
    spelled path = written.map respell ↔ path.map Step.text = written.map unescape := by
  have injective : Function.Injective (List.map escape) :=
    List.map_injective_iff.mpr fun _ _ => escape_injective
  have one : spelled path = (path.map Step.text).map escape := by simp [spelled]
  have two : written.map respell = (written.map unescape).map escape := by simp [respell]
  rw [one, two, injective.eq_iff]

-- Steps lead to what the path leads to that they spell.
theorem steps_lead {written : List (List Char)} (plain : inDecimal g item written = true) :
    written.foldlM (follow? g) item = some target ↔
      ∃ path, Leads g item path target ∧ spelled path = written.map respell := by
  constructor
  · intro found
    obtain ⟨path, leads, same⟩ := written_leads plain found
    exact ⟨path, leads, spelled_iff.mpr same⟩
  · rintro ⟨path, leads, same⟩
    have read : written.map unescape = (spelled path).map unescape := by
      rw [← spelled_iff.mp same]
      simp [spelled, unescape_escape]
    rw [follow_each read]
    exact leads_follow leads

end Following

section Regular

theorem regular_front {pointer : String} (regular : isRegular pointer = true) :
    ∃ c rest, pointer.toList = '/' :: c :: rest ∧ c ≠ '/' := by
  obtain ⟨front, -⟩ := Bool.and_eq_true_iff.mp regular
  split at front
  next c rest written => exact ⟨c, rest, written, by simpa using front⟩
  next => cases front

theorem regular_steps {pointer : String} (regular : isRegular pointer = true) :
    (steps pointer.toList).map respell = steps pointer.toList := by
  obtain ⟨-, escaped⟩ := Bool.and_eq_true_iff.mp regular
  refine (List.map_congr_left fun step member => ?_).trans (List.map_id _)
  exact respell_escaped (Text.split_pieces member) (List.all_eq_true.mp escaped step member)

theorem regular_joined {pointer : String} (regular : isRegular pointer = true) :
    pointer.toList = '/' :: List.intercalate ['/'] (steps pointer.toList) := by
  obtain ⟨c, rest, written, other⟩ := regular_front regular
  rw [steps, written, List.dropWhile_cons_of_pos (by rfl),
    List.dropWhile_cons_of_neg (by simpa using other), Text.joined_split]

-- A regular pointer spells a path exactly if it is the pointer of the path.
theorem regular_iff {pointer : String} (regular : isRegular pointer = true) :
    spelled path = (steps pointer.toList).map respell ↔ path ≠ [] ∧ pointer = ofPath path := by
  have joined := regular_joined regular
  rw [regular_steps regular]
  constructor
  · intro same
    refine ⟨?_, ?_⟩
    · rintro rfl
      obtain ⟨first, more, pieces⟩ := Text.split_some '/' (pointer.toList.dropWhile (· == '/'))
      rw [steps, pieces] at same
      cases same
    · rw [ofPath, same, ← joined, String.ofList_toList]
  · rintro ⟨filled, rfl⟩
    obtain ⟨step, rest, rfl⟩ := List.exists_cons_of_ne_nil filled
    refine (spelled_steps ?_ rest).symm
    -- An empty key in front would put two slashes there, or nothing behind the slash.
    rintro rfl
    obtain ⟨c, more, written, other⟩ := regular_front regular
    cases rest with
    | nil => simp [ofPath, spelled, Step.text, escape, List.intercalate] at written
    | cons next rest =>
        simp only [ofPath, spelled, List.map_cons, List.intercalate_cons_cons, String.toList_ofList] at written
        exact other (List.cons.inj (List.cons.inj written).2).1.symm

theorem path_regular {step : Step} (named : step ≠ .key "") (path : List Step) :
    isRegular (ofPath (step :: path)) = true := by
  obtain ⟨c, more, first⟩ := List.exists_cons_of_ne_nil (step_spelled named)
  have other : c ≠ '/' := fun same => escape_no_slash step.text (by simp [first, same])
  have front : ∃ rest, (ofPath (step :: path)).toList = '/' :: c :: rest := by
    cases path with
    | nil => exact ⟨more, by simp [ofPath, spelled, first, List.intercalate]⟩
    | cons next path => exact ⟨_, by simp [ofPath, spelled, first, List.intercalate_cons_cons]; rfl⟩
  obtain ⟨rest, written⟩ := front
  have escaped : (steps (ofPath (step :: path)).toList).all isEscaped = true := by
    rw [spelled_steps named]
    simp [spelled, escaped_escape]
  rw [isRegular, escaped, written]
  simpa using other

end Regular

theorem resolve_steps {pointer : String} (filled : pointer ≠ "") (more : pointer ≠ "/") :
    resolve? g item pointer = (steps pointer.toList).foldlM (follow? g) item := by
  have long : (pointer.isEmpty || pointer == "/") = false := by simp [filled, more]
  rw [resolve?, long, if_neg Bool.false_ne_true]

/-- Nothing is named by accident, where items of lists are named in plain decimal digits. A slash alone
is the whole. Another pointer names what a path leads to whose steps are its own, whatever slashes are in
front, with a tilde spelled as one where it escapes nothing, and names nothing if there is no such path.
A regular pointer is the pointer of that path itself. -/
theorem pointers_exact (g : Graph) (item : Item) (pointer : String) (filled : pointer ≠ "")
    (decimal : inDecimal g item (steps pointer.toList) = true) :
    (pointer = "/" → resolve? g item pointer = some item) ∧
    (pointer ≠ "/" → ∀ target, resolve? g item pointer = some target ↔
      ∃ path, Leads g item path target ∧ spelled path = (steps pointer.toList).map respell) ∧
    (isRegular pointer = true → ∀ target, resolve? g item pointer = some target ↔
      ∃ path, path ≠ [] ∧ Leads g item path target ∧ pointer = ofPath path) := by
  have named (more : pointer ≠ "/") (target : Item) : resolve? g item pointer = some target ↔
      ∃ path, Leads g item path target ∧ spelled path = (steps pointer.toList).map respell := by
    rw [resolve_steps filled more]
    exact steps_lead decimal
  refine ⟨fun slash => by rw [slash]; rfl, named, fun regular target => ?_⟩
  have more : pointer ≠ "/" := by
    rintro rfl
    revert regular
    decide
  rw [named more]
  simp only [regular_iff regular]
  exact ⟨fun ⟨path, leads, filled, same⟩ => ⟨path, filled, leads, same⟩,
    fun ⟨path, filled, leads, same⟩ => ⟨path, leads, filled, same⟩⟩

def tildes : Document := .ofValue (.map [
  (.text "a/b", .list [.int 4, .map [(.text "~", .int 5)]]), (.text "~", .int 6)])

theorem tildes_named :
    (∀ target, resolve? tildes.graph tildes.root "/a~1b/1/~0" = some target ↔
      ∃ path, path ≠ [] ∧ Leads tildes.graph tildes.root path target ∧ "/a~1b/1/~0" = ofPath path) ∧
    Leads tildes.graph tildes.root [.key "a/b", .index 1, .key "~"] (.scalar (.int 5)) ∧
    resolve? tildes.graph tildes.root "/a~1b/2" = none := by
  refine ⟨?_, .key rfl rfl (.index rfl rfl (.key rfl rfl (.here _))), by decide⟩
  exact (pointers_exact tildes.graph tildes.root "/a~1b/1/~0" (by decide) (by decide)).2.2 (by decide)

/-- No slash in front, two of them, and a tilde that escapes nothing: each of these pointers names
something and is the pointer of no path. -/
theorem irregular_named :
    resolve? tildes.graph tildes.root "~0" = some (.scalar (.int 6)) ∧
    resolve? tildes.graph tildes.root "//~0" = some (.scalar (.int 6)) ∧
    resolve? tildes.graph tildes.root "/~" = some (.scalar (.int 6)) ∧
    ∀ pointer ∈ ["~0", "//~0", "/~"], ∀ path target,
      Leads tildes.graph tildes.root path target → pointer ≠ ofPath path := by
  refine ⟨by decide, by decide, by decide, fun pointer member path target leads same => ?_⟩
  have irregular : ∀ pointer ∈ ["~0", "//~0", "/~"],
      pointer ≠ ofPath [] ∧ isRegular pointer = false := by decide
  obtain ⟨more, loose⟩ := irregular pointer member
  cases path with
  | nil => exact more same
  | cons step rest =>
      have named : step ≠ .key "" := by
        -- There is no empty key.
        rintro rfl
        cases leads with
        | key map there _ =>
            cases map
            cases there
      rw [same, path_regular named] at loose
      cases loose

end ApiSchema.Pointer
