import ApiSchema.Proofs.Source.Growth
import ApiSchema.Proofs.Yaml.Behind

namespace ApiSchema.Loading

variable {s : Surround} {o : LoaderOptions} {step : String → Loading Item}

def StopsAnywhere (step : Loading Item) : Prop := ∃ f, ∀ l, Stops step l f l

def Puts (step : Loading Item) (made : Graph) (item : Item) : Prop :=
  ∀ l, Gives step l (item.behind l.graph.size) { l with graph := l.graph.before made }

/-- Whether a document is read, and which, depends neither on the loader nor on the label. -/
def Uniform (step : String → Loading Item) : Prop :=
  (∀ label, StopsAnywhere (step label)) ∨
  ∃ made item, Graph.empty.Adds made [item] ∧ ∀ label, Puts (step label) made item

theorem uniform_label (uniform : Uniform step) (label : String) : Uniform fun _ => step label := by
  rcases uniform with stops | ⟨made, item, added, puts⟩
  · exact .inl fun _ => stops label
  · exact .inr ⟨made, item, added, fun _ => puts label⟩

theorem uniform_throw (f : String → Fault) : Uniform fun label => throw (f label) :=
  .inl fun label => ⟨f label, fun _ => rfl⟩

theorem puts_change {change : Graph → Graph × Item} (uniform : Graph.Uniform change) :
    Puts (fun l => (.ok (change l.graph).2, { l with graph := (change l.graph).1 }))
      (change .empty).1 (change .empty).2 := by
  intro l
  have same := uniform l.graph
  change (Except.ok (change l.graph).2, { l with graph := (change l.graph).1 }) = _
  rw [same]

theorem puts_value (v : Value) :
    Puts (addValue v) (Graph.empty.addValue v).1 (Graph.empty.addValue v).2 :=
  puts_change (Graph.value_uniform v)

theorem puts_document (d : Document) :
    Puts (addDocument d) (Graph.empty.addDocument d).1 (Graph.empty.addDocument d).2 :=
  puts_change (Graph.document_uniform d)

theorem uniform_json (o : LoaderOptions) (text : String) : Uniform fun label => readJson o label text := by
  unfold readJson
  cases Json.readWithin o.jsonDepth text.toList with
  | ok v =>
      exact .inr ⟨_, _, Graph.add_value_adds .empty v, fun _ => puts_value v⟩
  | error failure =>
      dsimp only
      split
      all_goals exact uniform_throw _

theorem uniform_yaml (o : LoaderOptions) (text : String) : Uniform fun label => readYaml o label text := by
  rcases Yaml.load_uniform text o.yamlDepth with ⟨fault, stops⟩ | ⟨made, item, added, loaded⟩
  · refine .inl fun label => ?_
    cases fault with
    | malformed =>
        refine ⟨.load label (some .yaml), fun l => ?_⟩
        change readYaml o label text l = _
        rw [readYaml, stops]
    | misuse m =>
        refine ⟨.misuse m, fun l => ?_⟩
        change readYaml o label text l = _
        rw [readYaml, stops]
  · refine .inr ⟨made, item, added, fun label l => ?_⟩
    change readYaml o label text l = _
    rw [readYaml, loaded]

theorem uniform_text (o : LoaderOptions) (yaml : Bool) (text : String) :
    Uniform fun label => if yaml then readYaml o label text else readJson o label text := by
  cases yaml with
  | true => exact uniform_yaml o text
  | false => exact uniform_json o text

theorem uniform_page (s : Surround) (o : LoaderOptions) (address : String) :
    Uniform fun _ => readPage s o address := by
  unfold readPage
  cases s.web.get o.followsRedirects address with
  | error fault => cases fault <;> exact uniform_throw _
  | ok page => exact uniform_label (uniform_text o _ page.body) address

theorem uniform_file (s : Surround) (o : LoaderOptions) (location : String) :
    Uniform fun label => readFile s o location label := by
  unfold readFile
  dsimp only
  generalize (Text.lowerText (Path.ofString location).suffix == ".yaml" ||
    Text.lowerText (Path.ofString location).suffix == ".yml") = yaml
  cases s.files.refuses (Path.ofString location) with
  | some wording => exact .inl fun label => ⟨_, fun _ => rfl⟩
  | none =>
      cases s.files.exists? (Path.ofString location) with
      | false => exact .inl fun label => ⟨_, fun _ => rfl⟩
      | true =>
          cases s.files.read (Path.ofString location) with
          | error denial => exact uniform_throw _
          | ok bytes =>
              dsimp only
              cases textOf bytes with
              | error fault => exact .inl fun _ => ⟨fault, fun _ => rfl⟩
              | ok text => exact uniform_text o yaml text

theorem uniform_at (s : Surround) (o : LoaderOptions) (location : String) : Uniform (readAt s o location) := by
  unfold readAt
  split
  · exact uniform_page s o location
  · exact uniform_file s o location

end ApiSchema.Loading
