import ApiSchema.Frontend.Registry
import ApiSchema.Proofs.Dialect.Tidy
import ApiSchema.Proofs.OpenApi.Tidy

namespace ApiSchema.Frontend

variable {f : Frontend} {options : FrontendOptions} {s : Schema}

theorem outcome_schema {result : Except Fault Schema} {notes : Context}
    (parsed : (outcomeOf options result notes).schema = some s) : result = .ok s := by
  cases result with
  | ok t =>
      cases parsed
      rfl
  | error fault => cases fault <;> cases parsed

theorem loaded_converted {name : String} {loaded : Except Fault Document}
    (parsed : (f.parseLoaded options name loaded).schema = some s) :
    ∃ d c, loaded = .ok d ∧ (f.convert d options).run.run {} = (.ok s, c) := by
  unfold parseLoaded at parsed
  cases ran : (f.run options name loaded).run.run {} with
  | mk result notes =>
      rw [ran] at parsed
      have finished : Gives (f.run options name loaded) {} s notes := by
        rw [Gives, ran, outcome_schema parsed]
      unfold run at finished
      obtain ⟨d, read, finished⟩ := gives_of_except_bind.mp finished
      obtain ⟨problems, -, finished⟩ := gives_of_except_bind.mp finished
      split at finished
      · obtain ⟨_, _, stopped, -⟩ := gives_bind.mp finished
        exact absurd stopped gives_throw
      · exact ⟨d, notes, read, finished⟩

-- Whatever was loaded, from wherever: a schema that a frontend has made is tidy.
theorem parsed_tidy (known : f = openApi ∨ f = dialect) {surround : Surround} {source : DocumentSource}
    (parsed : (f.parse options surround source).schema = some s) : s.Tidy := by
  obtain ⟨d, c, -, converted⟩ := loaded_converted parsed
  rcases known with rfl | rfl
  · exact OpenApi.convert_tidy converted
  · simp only [dialect] at converted
    cases decoded : Dialect.DialectDocument.ofValue d.value with
    | error rejection =>
        rw [decoded] at converted
        cases converted
    | ok document =>
        rw [decoded] at converted
        exact Dialect.convert_tidy converted

/-- A schema is written if all that it carries from its document has a JSON form. There is a text if every
text in it can be encoded, and it comes back equal as far as its nesting and its integers are within what
the reader takes. -/
theorem parsed_comes_back (known : f = openApi ∨ f = dialect) {surround : Surround} {source : DocumentSource}
    (parsed : (f.parse options surround source).schema = some s)
    (plain : ∀ v ∈ s.carried, v.IsPlain plainLevels) {now : Moment} (universal : now.IsUniversal) :
    ∃ v, (s.stamped now).dump = .ok v ∧ ((∀ a ∈ v.scalars, a.Encodes) → ∀ indent, ∃ text,
      (s.stamped now).toJson indent = .ok text ∧
        (v.FitsIn 200 → Schema.ofJson text = .ok (s.stamped now))) := by
  have known := (stamped_json (parsed_tidy known parsed) universal).mpr plain
  obtain ⟨v, written, read, json⟩ := schema_exchanged known
  refine ⟨v, written, fun encodes indent => ?_⟩
  exact ⟨_, printed_json written json encodes indent, fun fits => text_read_back read json fits indent⟩

def describing (type : Value) : DocumentSource :=
  .inMemory (.map [(.text "openapi", .text "3.0.0"), (.text "info", .map [(.text "version", .text "1")]),
    (.text "paths", .map []), (.text "components", .map [(.text "schemas", .map [(.text "A", type)])])])

def nowhere : Surround where
  files := { files := [], directories := [], current := [] }

def bounded : DocumentSource :=
  describing (.map [(.text "properties", .map [(.text "n", .map [(.text "type", .text "number"),
    (.text "minimum", .float (.ofDecimal false 1 (-1))), (.text "default", .float (.ofDecimal false 25 (-1)))])])])

theorem bounded_comes_back : ∃ s text,
    (openApi.parse openApi.defaultOptions nowhere bounded).schema = some s ∧ s.carried.length = 3 ∧
      (s.stamped newYear).toJson (some 2) = .ok text ∧ Schema.ofJson text = .ok (s.stamped newYear) := by
  have known : (openApi.parse openApi.defaultOptions nowhere bounded).schema.map (fun s =>
      (s.carried.length, decide (∀ v ∈ s.carried, v.IsPlain plainLevels), match (s.stamped newYear).dump with
        | .ok v => decide ((∀ a ∈ v.scalars, a.Encodes) ∧ v.FitsIn 200)
        | .error _ => false)) = some (3, true, true) := by decide +kernel
  obtain ⟨s, parsed, carried⟩ := Option.map_eq_some_iff.mp known
  obtain ⟨three, rest⟩ := Prod.mk.inj carried
  obtain ⟨plain, within⟩ := Prod.mk.inj rest
  obtain ⟨v, written, back⟩ :=
    parsed_comes_back (.inl rfl) parsed (of_decide_eq_true plain) new_year_universal
  rw [written] at within
  obtain ⟨encodes, fits⟩ := of_decide_eq_true within
  obtain ⟨text, printed, read⟩ := back encodes (some 2)
  exact ⟨s, text, parsed, three, printed, read fits⟩

def comesBack (s : Schema) : Option Bool :=
  match s.dump with
  | .error _ => none
  | .ok v =>
    let text := (Json.Style.canonical (some 2)).write 0 v
    if ¬ Json.Clean text then none
    else match Json.Strict.read text with
      | .error _ => none
      | .ok w =>
        match schema w with
        | .ok t => some (t == s)
        | .bad _ => none

def unbounded : DocumentSource :=
  describing (.map [(.text "properties", .map [(.text "n", .map [(.text "type", .text "number"),
    (.text "default", ((Json.read "1e400".toList).toOption.getD .null))])])])

theorem unbounded_lost : ∃ s text t, (openApi.parse openApi.defaultOptions nowhere unbounded).schema = some s ∧
    (s.stamped newYear).toJson (some 2) = .ok text ∧ Schema.ofJson text = .ok t ∧
    (t == s.stamped newYear) = false := by
  -- The text is looked at as a list of characters, which is what the reader reads.
  have lost : ((openApi.parse openApi.defaultOptions nowhere unbounded).schema.bind fun s =>
      comesBack (s.stamped newYear)) = some false := by decide +kernel
  obtain ⟨s, parsed, back⟩ := Option.bind_eq_some_iff.mp lost
  unfold comesBack at back
  split at back
  · cases back
  next v written =>
    dsimp only at back
    split at back
    · cases back
    next clean =>
      split at back
      · cases back
      next w read =>
        split at back
        next t decoded =>
          refine ⟨s, (Json.Style.canonical (some 2)).render v, t, parsed,
            printed_clean written (not_not.mp clean), ?_, Option.some.inj back⟩
          rw [Schema.ofJson, Json.Style.render, String.toList_ofList, read]
          simp only [decoded]
        · cases back

end ApiSchema.Frontend
