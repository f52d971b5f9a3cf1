import ApiSchema.Proofs.Frontend.RoundTrip
import ApiSchema.Proofs.OpenApi.DroppedDocuments
import ApiSchema.Proofs.OpenApi.Ending

namespace ApiSchema.OpenApi

section Depth

variable {d : Document} {reply : Question → Script String}

theorem plays_unique {α : Type} {script : Script α} {c : Context} {log log' : List Visit}
    {out out' : Except Fault α × Context} (plays : Plays reply script c log out)
    (plays' : Plays reply script c log' out') : out = out' := by
  -- A script says which rules may come next, and of these all but one contradict what has come out before.
  induction plays generalizing log' with
  | done =>
      cases plays' with
      | done => rfl
  | step acts _ ih =>
      cases plays' with
      | step acts' plays' =>
          cases acts.symm.trans acts'
          exact ih plays'
      | stopped fails => cases acts.symm.trans fails
  | stopped fails =>
      cases plays' with
      | step acts' _ => cases fails.symm.trans acts'
      | stopped fails' =>
          cases fails.symm.trans fails'
          rfl
  | ask _ _ answered ih =>
      cases plays' with
      | ask answer' plays' =>
          cases answered answer'
          exact ih plays'
      | unanswered fails => cases answered fails
  | unanswered _ failed =>
      cases plays' with
      | ask answer' _ => cases failed answer'
      | unanswered fails' =>
          cases failed fails'
          rfl
  | known found _ ih =>
      cases plays' with
      | known found' plays' =>
          cases found.symm.trans found'
          exact ih plays'
      | built absent | unbuilt absent => cases found.symm.trans absent
  | built absent _ left _ builds ih =>
      cases plays' with
      | known found => cases absent.symm.trans found
      | built _ builds' left' plays' =>
          cases builds builds'
          cases left.symm.trans left'
          exact ih plays'
      | unbuilt _ builds' left' =>
          cases builds builds'
          cases left.symm.trans left'
  | unbuilt absent _ left builds =>
      cases plays' with
      | known found => cases absent.symm.trans found
      | built _ builds' left' _ =>
          cases builds builds'
          cases left.symm.trans left'
      | unbuilt _ builds' left' =>
          cases builds builds'
          cases left.symm.trans left'
          rfl

-- From some depth on no conversion gets deeper.
theorem deep_enough (d : Document) (options : FrontendOptions) :
    ∃ fuel, ∀ more, fuel ≤ more → convertBy (convertWithin d more) d options = convert d options := by
  choose reply replies using reply_exists d
  obtain ⟨script, fit, same⟩ := convert_asks d options
  let bound := d.graph.cells.foldl (fun n cell => n + weight cell) 0
  have ended (fuel : Nat) (room : bound < fuel) (c : Context) :
      Ends d reply script c [] ((script.run (convertWithin d fuel)).run.run c) :=
    script_ends fit c fun q inner c' _ => by
      obtain ⟨trail, mentioned⟩ : q.trail = [] ∧ Mentioned d q := inner
      exact question_ends replies _ q (trail ▸ .nil) mentioned c'
        (Nat.lt_of_le_of_lt (measure_bounded d c' q.trail) room)
  have room := weights_from d 0 2 (by decide)
  refine ⟨d.graph.cells.foldl (fun n cell => n + weight cell) 2, fun more enough => ?_⟩
  funext c
  obtain ⟨_, plays, _⟩ := ended more (Nat.lt_of_lt_of_le room enough) c
  obtain ⟨_, plays', _⟩ := ended _ room c
  rw [same] at plays plays'
  exact plays_unique plays plays'

end Depth

section Parses

variable {d e : Document} {n : Nat} {k : String} {see : Option Constraints → Option Constraints}

theorem run_in_step (sides : Sides d e n k see) (options : FrontendOptions) (source : String) :
    InStep (Matched see (Noted d n k)) (Frontend.openApi.run options source (.ok e))
      (Frontend.openApi.run options source (.ok d)) fun s s' => s'.seen see = s.seen see := by
  have drops := sides.toDrops
  -- The two documents have bounds of their own, so both run with the larger one.
  obtain ⟨fuel, deep⟩ := deep_enough e options
  obtain ⟨fuel', deep'⟩ := deep_enough d options
  have step := convert_in_step drops (within_answered sides (max fuel fuel')) options
  rw [deep _ (Nat.le_max_left _ _), deep' _ (Nat.le_max_right _ _)] at step
  have problems : Agreed Eq (Frontend.openApi.problems e) (Frontend.openApi.problems d) :=
    agreed_of_eq (header_alike drops).symm
  change InStep _ (ofExcept (Frontend.openApi.problems e) >>= _)
    (ofExcept (Frontend.openApi.problems d) >>= _) _
  refine in_step_on (in_step_of_except problems) fun found => ?_
  by_cases empty : found.isEmpty = true
  all_goals simp only [empty, Bool.not_true, Bool.not_false, Bool.false_eq_true, if_true, if_false]
  · exact step
  · exact in_step_on (in_step_throw _) fun _ => step

/-- If a document has a schema, it has one with a malformed keyword at a node, and without the keyword. Both
are the same, and the keyword makes no more than warnings about itself. What is refused must be written out
in the warning, so an integer of too many digits is not among it. -/
theorem malformed_confined {d' : Document} (known : k ∈ keywords.map Prod.fst)
    (node : d.graph.isMap (.node n) = true) (spoiled : Lacks (dropped d n k) d' n k)
    (malformed : Malformed d' n k) (told : Told d n k) (told' : Told d' n k)
    (confined : Confined (dropped d n k) n k)
    (options : FrontendOptions) (source : String)
    (parsed : (Frontend.openApi.parseLoaded options source (.ok d)).schema.isSome) :
    let clean := Frontend.openApi.parseLoaded options source (.ok (dropped d n k))
    let warned := Frontend.openApi.parseLoaded options source (.ok d')
    (∃ s, clean.schema = some s ∧ warned.schema = some s) ∧
      warned.errors = clean.errors ∧ warned.issues = clean.issues ∧
      Padded (Noted d' n k) clean.warnings warned.warnings ∧
      (options.strict = false → warned.success = clean.success) := by
  -- What the document holds under the keyword may make constraints, so against it these are not looked at:
  -- it only tells that the conversion comes to an end.
  have before : Sides d (dropped d n k) n k fun _ => none :=
    ⟨⟨known, dropped_lacks k node, confined⟩, .inl fun _ _ => rfl, told⟩
  have after : Sides d' (dropped d n k) n k id := ⟨⟨known, spoiled, confined⟩, .inr malformed, told'⟩
  obtain ⟨-, first⟩ := run_in_step before options source {} {} matched_empty
  obtain ⟨notes, second⟩ := run_in_step after options source {} {} matched_empty
  unfold Frontend.parseLoaded at parsed ⊢
  generalize (Frontend.openApi.run options source (.ok d)).run.run {} = given at parsed first
  generalize (Frontend.openApi.run options source (.ok (dropped d n k))).run.run {} = mine at first second notes ⊢
  generalize (Frontend.openApi.run options source (.ok d')).run.run {} = other at second notes ⊢
  obtain ⟨result, c⟩ := given
  obtain ⟨result₁, c₁⟩ := mine
  obtain ⟨result₂, c₂⟩ := other
  obtain ⟨s, made⟩ := Option.isSome_iff_exists.mp parsed
  have given : result = .ok s := Frontend.outcome_schema made
  subst given
  cases first with
  | ok _ =>
      cases second with
      | @ok _ s' same =>
          rw [schema_whole, schema_whole] at same
          subst same
          have errors : c₂.errors = c₁.errors := notes.errors
          have issues : c₂.issues = c₁.issues := notes.issues
          refine ⟨⟨_, rfl, rfl⟩, errors, congrArg (List.map Fault.node) issues, notes.warnings,
            fun lenient => ?_⟩
          simp only [Frontend.outcomeOf, errors, lenient, Bool.false_and]

def book (title : List (String × Value)) : Document :=
  .ofValue (.object [("openapi", .text "3.0.0"), ("info", .object [("title", .text "Books"), ("version", .text "1")]),
    ("paths", .object []), ("components", .object [("schemas", .object [("Book", .object [("type", .text "object"),
      ("properties", .object [("title", .object title),
        ("next", .object [("$ref", .text "#/components/schemas/Book")])])])])])])

def bookParts : List (Role × Item) :=
  [(.document, .node 8), (.info, .node 0), (.paths, .node 1), (.components, .node 7), (.schemas, .node 6),
    (.schema, .node 5), (.schemas, .node 4), (.schema, .node 2), (.schema, .node 3)]

theorem book_lacks : Lacks (dropped (book [("type", .text "string"), ("minLength", .int 3)]) 2 "minLength")
    (book [("type", .text "string"), ("minLength", .text "many")]) 2 "minLength" :=
  lacks_listed rfl (by decide +kernel) (by decide +kernel)
    [(.text "type", .scalar (.text "string")), (.text "minLength", .scalar (.text "many"))]
    (by decide +kernel) (by decide +kernel)

theorem book_warned :
    let titled (length : Value) : Document := book [("type", .text "string"), ("minLength", length)]
    let parse (d : Document) := Frontend.openApi.parseLoaded plainOptions "books" (.ok d)
    let clean := parse (dropped (titled (.int 3)) 2 "minLength")
    let warned := parse (titled (.text "many"))
    (∃ s, clean.schema = some s ∧ warned.schema = some s) ∧ clean.warnings = [] ∧
      warned.warnings = ["Ignoring invalid 'minLength' on 'Book_title': 'many'",
        "Ignoring invalid 'minLength' on 'Book.title': 'many'"] := by
  have malformed : Malformed (book [("type", .text "string"), ("minLength", .text "many")]) 2 "minLength" := by
    intro entries field map listed
    cases map
    have named : field = "min_length" :=
      (by decide : ∀ word ∈ keywords, word.1 = "minLength" → word.2 = "min_length") _ listed rfl
    subst named
    decide +kernel
  have confined :
      Confined (dropped (book [("type", .text "string"), ("minLength", .int 3)]) 2 "minLength") 2 "minLength" :=
    confined_listed (show covers _ bookParts = true by decide +kernel) (by decide +kernel) (by decide)
  have told : ∀ length ∈ [Value.int 3, .text "many"],
      Told (book [("type", .text "string"), ("minLength", length)]) 2 "minLength" := by
    intro length among entries field map listed refused
    simp only [List.mem_cons, List.not_mem_nil, or_false] at among
    rcases among with rfl | rfl
    all_goals
      cases map
      decide +kernel
  have parsed := malformed_confined (by decide) (by decide +kernel) book_lacks malformed
    (told _ (by simp)) (told _ (by simp)) confined plainOptions "books" (by decide +kernel)
  exact ⟨parsed.1, by decide +kernel, by decide +kernel⟩

-- A warning cannot name a number of too many digits.
example : (Frontend.openApi.parseLoaded plainOptions "books"
    (.ok (book [("type", .text "string"), ("pattern", .int (10 ^ digitLimit))]))).schema.isNone = true := by
  decide +kernel

/-- An array with bounds that cannot be read has no type, nor has the document a schema. -/
theorem array_bounds_refused :
    let parse (bounds : List (String × Value)) :=
      Frontend.openApi.parseLoaded plainOptions "books" (.ok (book ([("type", .text "array"),
        ("items", .object [("type", .text "string")])] ++ bounds)))
    ∀ keyword ∈ ["minItems", "maxItems", "uniqueItems"],
      (parse []).schema.isSome = true ∧ (parse [(keyword, .text "many")]).schema.isNone = true := by
  decide +kernel

end Parses

end ApiSchema.OpenApi
