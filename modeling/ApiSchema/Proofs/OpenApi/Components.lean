import ApiSchema.Proofs.Document.Steps
import ApiSchema.Proofs.OpenApi.Schemas

namespace ApiSchema.OpenApi

def componentPath (name : String) : List Pointer.Step := [.key "components", .key "schemas", .key name]

-- The reference of a component, its last step apart.
theorem component_front (name : String) : (componentReference name).toList =
    '#' :: '/' :: "components".toList ++ '/' :: "schemas".toList ++ '/' :: Pointer.escape name.toList := by
  have front : "#/components/schemas/".toList =
      '#' :: '/' :: "components".toList ++ '/' :: "schemas".toList ++ ['/'] := by decide
  have spelled : (componentReference name).toList =
      "#/components/schemas/".toList ++ Pointer.escape name.toList := by
    unfold componentReference
    rw [String.toList_append, String.toList_ofList (l := Pointer.escape name.toList)]
  rw [spelled, front]
  generalize "components".toList = components
  generalize "schemas".toList = schemas
  simp

theorem component_spelled (name : String) :
    (componentReference name).toList = '#' :: (Pointer.ofPath (componentPath name)).toList := by
  have components : Pointer.escape "components".toList = "components".toList := by decide
  have schemas : Pointer.escape "schemas".toList = "schemas".toList := by decide
  have joined (a b c : List Char) : List.intercalate ['/'] [a, b, c] = a ++ '/' :: b ++ '/' :: c := by
    simp [List.intercalate]
  rw [component_front, Pointer.ofPath, String.toList_ofList (l := '/' :: _)]
  simp only [Pointer.spelled, componentPath, List.map_cons, List.map_nil, Pointer.Step.text, components,
    schemas, joined]
  rfl

theorem field_entries {g : Graph} {entries inner : Entries} {name : String}
    (found : (g.entries? (fieldOf entries name)).getD [] = inner) (some_ : inner ≠ []) :
    ∃ item, lookup? entries (.text name) = some item ∧ g.entries? item = some inner := by
  unfold fieldOf at found
  cases there : lookup? entries (.text name) with
  | none =>
      rw [there] at found
      exact absurd found.symm some_
  | some item =>
      rw [there, Option.getD_some] at found
      refine ⟨item, rfl, ?_⟩
      cases read : g.entries? item with
      | none =>
          rw [read] at found
          exact absurd found.symm some_
      | some other =>
          rw [read] at found
          rw [← found]
          rfl

theorem lookup_some {entries : Entries} {key : Scalar} {item : Item}
    (found : lookup? entries key = some item) : entries ≠ [] := by
  rintro rfl
  cases found

theorem component_leads {d : Document} {name : String} {node : Item}
    (found : lookup? (schemasOf d) (.text name) = some node) :
    Pointer.Leads d.graph d.root (componentPath name) node := by
  obtain ⟨inner, innerThere, innerMap⟩ : ∃ item, lookup? (componentsOf d) (.text "schemas") =
      some item ∧ d.graph.entries? item = some (schemasOf d) := field_entries rfl (lookup_some found)
  obtain ⟨outer, outerThere, outerMap⟩ : ∃ item, lookup? ((d.graph.entries? d.root).getD [])
      (.text "components") = some item ∧ d.graph.entries? item = some (componentsOf d) :=
    field_entries rfl (lookup_some innerThere)
  cases map : d.graph.entries? d.root with
  | none =>
      rw [map] at outerThere
      cases outerThere
  | some entries =>
      rw [map, Option.getD_some] at outerThere
      exact .key map outerThere (.key outerMap innerThere (.key innerMap found (.here node)))

theorem component_resolves {d : Document} {name : String} {node : Item}
    (found : lookup? (schemasOf d) (.text name) = some node) :
    localTarget? d (componentReference name) = some node := by
  have pointed := Pointer.leads_resolve (component_leads found) (by simp [componentPath])
  unfold localTarget?
  rw [component_spelled]
  simpa only [String.ofList_toList] using pointed

theorem distinct_lookup {α : Type} {entries : List (Scalar × α)}
    (distinct : entries.Pairwise fun a b => a.1.same b.1 = false) {name : String} {value : α}
    (member : (.text name, value) ∈ entries) : lookup? entries (.text name) = some value := by
  induction distinct with
  | nil => cases member
  | @cons entry rest apart _ ih =>
      obtain ⟨key, held⟩ := entry
      rw [lookup_cons]
      obtain same | later := List.mem_cons.mp member
      · cases same
        simp
      · rw [if_neg (by simpa using apart _ later)]
        exact ih later

theorem component_found {d : Document}
    (distinct : (schemasOf d).Pairwise fun a b => a.1.same b.1 = false) {name : String} {node : Item}
    (member : (.text name, node) ∈ schemasOf d) :
    localTarget? d (componentReference name) = some node :=
  component_resolves (distinct_lookup distinct member)

theorem component_injective : Function.Injective componentReference := by
  intro name other same
  have spelled := congrArg String.toList same
  rw [component_front, component_front] at spelled
  exact String.ext (Pointer.escape_injective (List.cons.inj (List.append_cancel_left spelled)).2)

-- The name is behind the last slash, since what spells it has none.
theorem component_name {name : String} (named : name ≠ "") :
    Pointer.lastName (componentReference name) = name := by
  have apart : ∀ c ∈ (Pointer.escape name.toList).reverse, (c != '/') = true := by
    intro c member
    rw [bne_iff_ne]
    rintro rfl
    exact Pointer.escape_no_slash _ (List.mem_reverse.mp member)
  have last (front : List Char) :
      ((front ++ '/' :: Pointer.escape name.toList).reverse.takeWhile (· != '/')).reverse =
        Pointer.escape name.toList := by
    rw [List.reverse_append, List.reverse_cons, List.append_assoc, List.takeWhile_append_of_pos apart]
    simp
  have filled : name.toList.isEmpty = false := by
    rw [List.isEmpty_eq_false_iff]
    exact fun none => named (String.ext none)
  unfold Pointer.lastName
  rw [component_front]
  simp only [last, Pointer.unescape_escape, filled, Bool.false_eq_true, if_false, String.ofList_toList]

/-- What is spelled is read back: the pointer of a path names what the path leads to, and the reference of
a component names that component alone and tells its name. -/
theorem pointers_read_back (d : Document) :
    (∀ path target, Pointer.Leads d.graph d.root path target → path.head? ≠ some (.key "") →
      Pointer.resolve? d.graph d.root (Pointer.ofPath path) = some target) ∧
    (∀ name node, lookup? (schemasOf d) (.text name) = some node →
      localTarget? d (componentReference name) = some node) ∧
    Function.Injective componentReference ∧
    ∀ name, name ≠ "" → Pointer.lastName (componentReference name) = name :=
  ⟨fun _ _ => Pointer.leads_resolve, fun _ _ => component_resolves, component_injective,
    fun _ => component_name⟩

def slashed : Document := .ofValue (.map [
  (.text "a/b", .map [(.text "", .list [.null, .map [(.text "~1", .scalar (.int 5))]])]),
  (.text "components", .map [(.text "schemas", .map [(.text "~0/", .map [])])])])

theorem slashed_reads_back :
    Pointer.resolve? slashed.graph slashed.root "/a~1b//1/~01" = some (.scalar (.int 5)) ∧
      ∃ node, localTarget? slashed "#/components/schemas/~00~1" = some (.node node) ∧
        Pointer.lastName "#/components/schemas/~00~1" = "~0/" := by
  obtain ⟨paths, components, -, names⟩ := pointers_read_back slashed
  have leads : Pointer.Leads slashed.graph slashed.root
      [.key "a/b", .key "", .index 1, .key "~1"] (.scalar (.int 5)) :=
    .key rfl rfl (.key rfl rfl (.index rfl rfl (.key rfl rfl (.here _))))
  exact ⟨paths _ _ leads (by decide), _, components "~0/" _ rfl, names "~0/" (by decide)⟩

end ApiSchema.OpenApi
