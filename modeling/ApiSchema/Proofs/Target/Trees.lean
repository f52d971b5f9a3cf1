import ApiSchema.Proofs.Text.Identifiers

/-!
Reading the type expressions of TypeScript and JavaScript.

`[]` after a type makes it an array and binds tighter than `|` between types; parentheses group, and
a name takes arguments in angle brackets. The reader goes through the text once and keeps, for each
bracket that is open, what stood in front of it.
-/

namespace ApiSchema

inductive TypeTree where
  | leaf (text : String)
  | array (item : TypeTree)
  | apply (head argument : TypeTree)
  | union (first second : TypeTree)
deriving DecidableEq, Repr

namespace TypeTree

def joined : List TypeTree → TypeTree
  | [] => leaf ""
  | [only] => only
  | first :: rest => union first (joined rest)

/-- The members of a union in order, however they are grouped. What is not a union is its own only
member, with the unions in it regrouped. -/
def members : TypeTree → List TypeTree
  | leaf text => [leaf text]
  | array item => [array (joined item.members)]
  | apply head argument => [apply (joined head.members) (joined argument.members)]
  | union first second => first.members ++ second.members

def Same (t u : TypeTree) : Prop := t.members = u.members

instance (t u : TypeTree) : Decidable (t.Same u) := inferInstanceAs (Decidable (_ = _))

inductive Token where
  | word (text : List Char)
  | mark (c : Char)
deriving DecidableEq, Repr

def grow (c : Char) : List Token → List Token
  | .word text :: rest => .word (c :: text) :: rest
  | rest => .word [c] :: rest

def tokens : List Char → List Token
  | [] => []
  | c :: rest => if Text.isWordChar c then grow c (tokens rest) else .mark c :: tokens rest

structure Level where
  /-- What stands in front of the last `|`. -/
  before : Option TypeTree := none
  last : Option TypeTree := none
deriving DecidableEq, Repr

def Level.tree (l : Level) : Option TypeTree :=
  match l.before, l.last with
  | _, none => none
  | none, some t => some t
  | some u, some t => some (union u t)

inductive Bracket where
  | round
  | square
  | angle
deriving DecidableEq, Repr

structure Reading where
  level : Level := {}
  /-- The open brackets with what stands in front of each, the innermost in front. -/
  outer : List (Bracket × Level) := []
deriving DecidableEq, Repr

def Reading.take (r : Reading) (t : TypeTree) : Option Reading :=
  match r.level.last with
  | none => some { r with level := { r.level with last := some t } }
  | some _ => none

def Reading.argument (r : Reading) : Option (Level × List (Bracket × Level)) :=
  match r.level.tree, r.outer with
  | some argument, (.angle, ⟨before, some head⟩) :: outer =>
    some (⟨before, some (apply head argument)⟩, outer)
  | _, _ => none

def step (r : Reading) : Token → Option Reading
  | .word text => r.take (leaf (String.ofList text))
  | .mark ' ' => some r
  | .mark '*' => r.take (leaf "*")
  | .mark '|' => r.level.tree.map fun t => { r with level := { before := some t } }
  | .mark '(' =>
    match r.level.last with
    | none => some ⟨{}, (.round, r.level) :: r.outer⟩
    | some _ => none
  | .mark ')' =>
    match r.level.tree, r.outer with
    | some t, (.round, l) :: outer => some ⟨{ l with last := some t }, outer⟩
    | _, _ => none
  | .mark '[' =>
    match r.level.last with
    | some _ => some ⟨{}, (.square, r.level) :: r.outer⟩
    | none => none
  | .mark ']' =>
    match r with
    | ⟨⟨none, none⟩, (.square, ⟨before, some t⟩) :: outer⟩ => some ⟨⟨before, some (array t)⟩, outer⟩
    | _ => none
  | .mark '<' =>
    match r.level.last with
    | some (leaf _) => some ⟨{}, (.angle, r.level) :: r.outer⟩
    | _ => none
  | .mark ',' => r.argument.map fun (l, outer) => ⟨{}, (.angle, l) :: outer⟩
  | .mark '>' => r.argument.map fun (l, outer) => ⟨l, outer⟩
  | .mark _ => none

def run (text : List Char) (r : Reading) : Option Reading := (tokens text).foldlM step r

def read (text : String) : Option TypeTree :=
  match run text.toList {} with
  | some ⟨level, []⟩ => level.tree
  | _ => none

section Tokens

variable {a b text : List Char}

def Parted (a b : List Char) : Prop :=
  ∀ c ∈ a.getLast?, ∀ d ∈ b.head?, Text.isWordChar c = false ∨ Text.isWordChar d = false

theorem parted_mark {c : Char} {rest : List Char} (mark : Text.isWordChar c = false) :
    Parted a (c :: rest) := by
  intro d _ e front
  have same : c = e := by simpa using front
  exact .inr (same ▸ mark)

theorem parted_after {c : Char} (last : c ∈ a.getLast?) (mark : Text.isWordChar c = false) :
    Parted a b := by
  intro d back e _
  have same : c = d := Option.some.inj (last.symm.trans back)
  exact .inl (same ▸ mark)

theorem grow_append (c : Char) {front : List Token} (filled : front ≠ []) (back : List Token) :
    grow c (front ++ back) = grow c front ++ back := by
  cases front with
  | nil => exact absurd rfl filled
  | cons t rest => cases t <;> rfl

theorem grow_filled (c : Char) (l : List Token) : grow c l ≠ [] := by
  unfold grow
  split <;> simp

theorem tokens_filled (filled : text ≠ []) : tokens text ≠ [] := by
  cases text with
  | nil => exact absurd rfl filled
  | cons c rest =>
      unfold tokens
      split
      · exact grow_filled c _
      · simp

theorem tokens_append (parted : Parted a b) : tokens (a ++ b) = tokens a ++ tokens b := by
  induction a with
  | nil => rfl
  | cons c rest ih =>
      cases rest with
      | nil =>
          by_cases word : Text.isWordChar c = true
          · cases b with
            | nil => simp [tokens]
            | cons d more =>
                have mark : Text.isWordChar d = false := by simpa [Parted, word] using parted
                simp [tokens, grow, word, mark]
          · simp [tokens, word]
      | cons d more =>
          have split := ih (by simpa [Parted] using parted)
          by_cases word : Text.isWordChar c = true
          · rw [List.cons_append, tokens, if_pos word, split, grow_append c (tokens_filled (by simp))]
            conv_rhs => rw [tokens, if_pos word]
          · rw [List.cons_append, tokens, if_neg word, split]
            conv_rhs => rw [tokens, if_neg word]
            rfl

theorem tokens_word (filled : text ≠ []) (plain : ∀ c ∈ text, Text.isWordChar c = true) :
    tokens text = [.word text] := by
  induction text with
  | nil => exact absurd rfl filled
  | cons c rest ih =>
      have word := plain c (by simp)
      cases rest with
      | nil => simp [tokens, grow, word]
      | cons d more =>
          have back := ih (by simp) fun e member => plain e (by simp [member])
          rw [tokens, if_pos word, back]
          rfl

theorem run_through (parted : Parted a b) {r r' : Reading} {last : Option Reading}
    (first : run a r = some r') (second : run b r' = last) : run (a ++ b) r = last := by
  unfold run at first second ⊢
  rw [tokens_append parted, List.foldlM_append, first]
  exact second

theorem run_mark {c : Char} (mark : Text.isWordChar c = false) (r : Reading) :
    run [c] r = step r (.mark c) := by
  simp [run, tokens, mark]

end Tokens

section Phrases

variable {text more : List Char} {ms ns : List TypeTree}

def Level.members (l : Level) : List TypeTree :=
  (l.before.map TypeTree.members).getD [] ++ (l.last.map TypeTree.members).getD []

theorem level_tree {l : Level} (ended : l.last ≠ none) :
    ∃ t, l.tree = some t ∧ t.members = l.members := by
  obtain ⟨before, last⟩ := l
  cases last with
  | none => exact absurd rfl ended
  | some t => cases before <;> exact ⟨_, rfl, rfl⟩

def Reads (text : List Char) (ms : List TypeTree) : Prop :=
  ∀ before outer, ∃ level, run text ⟨{ before }, outer⟩ = some ⟨level, outer⟩ ∧ level.last ≠ none ∧
    level.members = (before.map members).getD [] ++ ms

/-- Where a type may begin, the text is one, to which what follows binds as a whole. -/
def Tight (text : List Char) (ms : List TypeTree) : Prop :=
  ∀ before outer, ∃ t, run text ⟨{ before }, outer⟩ = some ⟨{ before, last := some t }, outer⟩ ∧
    t.members = ms

theorem Tight.reads (tight : Tight text ms) : Reads text ms := by
  intro before outer
  obtain ⟨t, read, rfl⟩ := tight before outer
  exact ⟨_, read, by simp, rfl⟩

theorem word_tight (filled : text ≠ []) (plain : ∀ c ∈ text, Text.isWordChar c = true) :
    Tight text [leaf (String.ofList text)] := by
  intro before outer
  refine ⟨leaf (String.ofList text), ?_, rfl⟩
  rw [run, tokens_word filled plain]
  rfl

theorem star_tight : Tight ['*'] [leaf "*"] := fun _ _ => ⟨leaf "*", rfl, rfl⟩

theorem array_tight (tight : Tight text ms) : Tight (text ++ ['[', ']']) [array (joined ms)] := by
  intro before outer
  obtain ⟨t, read, rfl⟩ := tight before outer
  exact ⟨array t, run_through (parted_mark (by decide)) read rfl, rfl⟩

theorem group_tight (reads : Reads text ms) : Tight ('(' :: (text ++ [')'])) ms := by
  intro before outer
  obtain ⟨level, read, ended, same⟩ := reads none ((.round, { before }) :: outer)
  obtain ⟨t, whole, members⟩ := level_tree ended
  have shut : run [')'] ⟨level, (.round, { before }) :: outer⟩ =
      some ⟨{ before, last := some t }, outer⟩ := by
    rw [run_mark (by decide)]
    simp [step, whole]
  refine ⟨t, ?_, members.trans same⟩
  exact run_through (a := ['(']) (parted_after rfl (by decide)) rfl
    (run_through (parted_mark (by decide)) read shut)

-- The first argument is `string`.
theorem map_tight {head : List Char} (filled : head ≠ [])
    (plain : ∀ c ∈ head, Text.isWordChar c = true) (reads : Reads text ms) :
    Tight (head ++ ("<string, ".toList ++ (text ++ ['>'])))
      [apply (apply (leaf (String.ofList head)) (leaf "string")) (joined ms)] := by
  intro before outer
  let front := apply (leaf (String.ofList head)) (leaf "string")
  obtain ⟨level, read, ended, same⟩ := reads none ((.angle, { before, last := some front }) :: outer)
  obtain ⟨t, whole, members⟩ := level_tree ended
  have shut : run ['>'] ⟨level, (.angle, { before, last := some front }) :: outer⟩ =
      some ⟨{ before, last := some (apply front t) }, outer⟩ := by
    rw [run_mark (by decide)]
    simp [step, Reading.argument, whole]
  have named : run head ⟨{ before }, outer⟩ =
      some ⟨{ before, last := some (leaf (String.ofList head)) }, outer⟩ := by
    rw [run, tokens_word filled plain]
    rfl
  refine ⟨apply front t, ?_, ?_⟩
  · exact run_through (parted_mark (by decide)) named
      (run_through (parted_after rfl (by decide)) rfl
        (run_through (parted_mark (by decide)) read shut))
  · have inside : t.members = ms := members.trans same
    rw [TypeTree.members, inside]
    rfl

theorem union_reads (first : Reads text ms) (second : Reads more ns) :
    Reads (text ++ (" | ".toList ++ more)) (ms ++ ns) := by
  intro before outer
  obtain ⟨level, read, ended, same⟩ := first before outer
  obtain ⟨t, whole, members⟩ := level_tree ended
  have bar : run " | ".toList ⟨level, outer⟩ = some ⟨{ before := some t }, outer⟩ := by
    have spelled : tokens " | ".toList = [.mark ' ', .mark '|', .mark ' '] := by decide +kernel
    rw [run, spelled]
    simp [step, whole]
  obtain ⟨level', read', ended', same'⟩ := second (some t) outer
  refine ⟨level', ?_, ended', ?_⟩
  · exact run_through (parted_mark (by decide)) read
      (run_through (parted_after rfl (by decide)) bar read')
  · rw [same', Option.map_some, Option.getD_some, members, same, List.append_assoc]

theorem read_reads {text : String} (reads : Reads text.toList ms) :
    ∃ t, read text = some t ∧ t.members = ms := by
  obtain ⟨level, whole, ended, same⟩ := reads none []
  obtain ⟨t, tree, members⟩ := level_tree ended
  refine ⟨t, ?_, members.trans same⟩
  rw [read, whole]
  exact tree

theorem joined_members {ts : List TypeTree} (filled : ts ≠ []) : (joined ts).members = ts.flatMap members := by
  induction ts with
  | nil => exact absurd rfl filled
  | cons first rest ih =>
      cases rest with
      | nil => simp [joined]
      | cons second more =>
          change first.members ++ (joined (second :: more)).members = _
          rw [ih (by simp)]
          rfl

/-- What an expression is read as, wherever it is put: a union binds to what follows only in
parentheses. -/
structure Stands (text : String) (ms : List TypeTree) : Prop where
  reads : Reads text.toList ms
  tight : '|' ∉ text.toList → Tight text.toList ms

theorem Tight.stands {text : String} (tight : Tight text.toList ms) : Stands text ms :=
  ⟨tight.reads, fun _ => tight⟩

-- Induction on the members: each is followed by all that come after it.
theorem union_stands {part : String → List TypeTree} {texts : List String} (filled : texts ≠ [])
    (each : ∀ text ∈ texts, Stands text (part text)) :
    Reads (" | ".intercalate texts).toList (texts.flatMap part) := by
  induction texts with
  | nil => exact absurd rfl filled
  | cons first rest ih =>
      have front := each first (by simp)
      cases rest with
      | nil => simpa using front.reads
      | cons second more =>
          have back := ih (by simp) fun text member => each text (by simp [member])
          rw [String.intercalate_cons_cons, String.append_assoc, String.toList_append,
            String.toList_append, List.flatMap_cons]
          exact union_reads front.reads back

end Phrases

end TypeTree

end ApiSchema
