import ApiSchema.Dialect.Convert
import Mathlib.Data.List.Nodup
import Mathlib.Data.List.Perm.Basic

namespace ApiSchema.Dialect

def TypeSource.number? : TypeSource → Option Nat
  | .name _ => none
  | .definition about .. => some about.number

def numbersOf (sources : List TypeSource) : List Nat := sources.filterMap TypeSource.number?

def Counts (n m : Nat) (numbers : List Nat) : Prop := n ≤ m ∧ numbers = List.range' n (m - n)

theorem counts_none (n : Nat) : Counts n n [] := ⟨Nat.le_refl n, by simp⟩

theorem counts_one (n : Nat) : Counts n (n + 1) [n] := ⟨Nat.le_succ n, by simp⟩

theorem counts_append {n m k : Nat} {first second : List Nat} (one : Counts n m first)
    (two : Counts m k second) : Counts n k (first ++ second) := by
  obtain ⟨less, rfl⟩ := one
  obtain ⟨less', rfl⟩ := two
  refine ⟨Nat.le_trans less less', ?_⟩
  have meet : m = n + (m - n) := by omega
  have whole : k - n = (m - n) + (k - m) := by omega
  rw [whole, ← List.range'_append_1, ← meet]

theorem numbers_append (first second : List TypeSource) :
    numbersOf (first ++ second) = numbersOf first ++ numbersOf second := List.filterMap_append

mutual

theorem source_counts (n : Nat) : (s : TypeSource) →
    Counts n (s.numbered n).1 (numbersOf (s.numbered n).2.definitions)
  | .name _ => counts_none n
  | .definition about properties items variants => by
      have fields := fields_count (n + 1) properties
      have items' := sources_count (numberedFields (n + 1) properties).1 items
      have variants' := sources_count (numberedSources (numberedFields (n + 1) properties).1 items).1 variants
      have all := counts_append (counts_one n) (counts_append fields (counts_append items' variants'))
      simpa [TypeSource.numbered, TypeSource.definitions, numbersOf, TypeSource.number?] using all

theorem fields_count (n : Nat) : (fields : List (Field × TypeSource)) →
    Counts n (numberedFields n fields).1 (numbersOf (definitionsOfFields (numberedFields n fields).2))
  | [] => counts_none n
  | (field, source) :: rest => by
      have first := source_counts n source
      have others := fields_count (source.numbered n).1 rest
      simpa only [numberedFields, definitionsOfFields, numbers_append] using counts_append first others

theorem sources_count (n : Nat) : (sources : List TypeSource) →
    Counts n (numberedSources n sources).1 (numbersOf (definitionsOfSources (numberedSources n sources).2))
  | [] => counts_none n
  | source :: rest => by
      have first := source_counts n source
      have others := sources_count (source.numbered n).1 rest
      simpa only [numberedSources, definitionsOfSources, numbers_append] using counts_append first others

end

theorem list_counts {α : Type} {number : Nat → α → Nat × α} {numbers : α → List Nat}
    (each : ∀ n a, Counts n (number n a).1 (numbers (number n a).2)) (n : Nat) (items : List α) :
    Counts n (numberedList number n items).1 ((numberedList number n items).2.flatMap numbers) := by
  induction items generalizing n with
  | nil => simpa only [numberedList, List.flatMap_nil] using counts_none n
  | cons a rest ih =>
      have both := counts_append (each n a) (ih (number n a).1)
      simpa only [numberedList, List.flatMap_cons] using both

def DialectResponse.numbers (r : DialectResponse) : List Nat :=
  numbersOf ((r.type.map TypeSource.definitions).getD [])

def bodyNumbers (body : Option DialectBody) : List Nat :=
  numbersOf ((body.map (·.type.definitions)).getD [])

def DialectEndpoint.numbers (e : DialectEndpoint) : List Nat :=
  e.parameters.flatMap (fun p => [p.number]) ++
    (bodyNumbers e.requestBody ++ e.responses.flatMap DialectResponse.numbers)

theorem response_counts (n : Nat) (r : DialectResponse) :
    Counts n (r.numbered n).1 (r.numbered n).2.numbers := by
  obtain ⟨status, description, contentType, type⟩ := r
  cases type with
  | none => exact counts_none n
  | some source => exact source_counts n source

theorem endpoint_counts (n : Nat) (e : DialectEndpoint) :
    Counts n (e.numbered n).1 (e.numbered n).2.numbers := by
  have parameters : Counts n (numberedList DialectParameter.numbered n e.parameters).1
      ((numberedList DialectParameter.numbered n e.parameters).2.flatMap fun p => [p.number]) :=
    list_counts (fun n _ => counts_one n) n e.parameters
  have responses (n : Nat) := list_counts response_counts n e.responses
  unfold DialectEndpoint.numbered DialectEndpoint.numbers
  cases e.requestBody with
  | none => exact counts_append parameters (responses _)
  | some body =>
      exact counts_append parameters (counts_append (source_counts _ body.type) (responses _))

section Inside

mutual

theorem definitions_inside {x y : TypeSource} (inner : y ∈ x.definitions) : (s : TypeSource) →
    x ∈ s.definitions → y ∈ s.definitions
  | .name s => by simp [TypeSource.definitions]
  | .definition about properties items variants => by
      intro member
      simp only [TypeSource.definitions, List.cons_append, List.mem_cons, List.mem_append] at member ⊢
      obtain same | (held | held) | held := member
      · subst same
        simpa only [TypeSource.definitions, List.cons_append, List.mem_cons, List.mem_append] using inner
      · exact .inr (.inl (.inl (fields_inside inner properties held)))
      · exact .inr (.inl (.inr (sources_inside inner items held)))
      · exact .inr (.inr (sources_inside inner variants held))

theorem fields_inside {x y : TypeSource} (inner : y ∈ x.definitions) :
    (fields : List (Field × TypeSource)) → x ∈ definitionsOfFields fields → y ∈ definitionsOfFields fields
  | [] => by simp [definitionsOfFields]
  | (field, source) :: rest => by
      intro member
      simp only [definitionsOfFields, List.mem_append] at member ⊢
      obtain first | later := member
      · exact .inl (definitions_inside inner source first)
      · exact .inr (fields_inside inner rest later)

theorem sources_inside {x y : TypeSource} (inner : y ∈ x.definitions) : (sources : List TypeSource) →
    x ∈ definitionsOfSources sources → y ∈ definitionsOfSources sources
  | [] => by simp [definitionsOfSources]
  | source :: rest => by
      intro member
      simp only [definitionsOfSources, List.mem_append] at member ⊢
      obtain first | later := member
      · exact .inl (definitions_inside inner source first)
      · exact .inr (sources_inside inner rest later)

end

theorem field_definitions {properties : List (Field × TypeSource)} {entry : Field × TypeSource}
    (member : entry ∈ properties) {x : TypeSource} (held : x ∈ entry.2.definitions) :
    x ∈ definitionsOfFields properties := by
  induction properties with
  | nil => cases member
  | cons first rest ih =>
      obtain ⟨field, source⟩ := first
      simp only [definitionsOfFields, List.mem_append]
      obtain rfl | later := List.mem_cons.mp member
      · exact .inl held
      · exact .inr (ih later)

theorem source_definitions {sources : List TypeSource} {source : TypeSource}
    (member : source ∈ sources) {x : TypeSource} (held : x ∈ source.definitions) :
    x ∈ definitionsOfSources sources := by
  induction sources with
  | nil => cases member
  | cons first rest ih =>
      simp only [definitionsOfSources, List.mem_append]
      obtain rfl | later := List.mem_cons.mp member
      · exact .inl held
      · exact .inr (ih later)

end Inside

namespace DialectDocument

def Lists (d : DialectDocument) (source : TypeSource) : Prop :=
  ∀ x ∈ source.definitions, x ∈ d.definitions

variable {d : DialectDocument}

theorem lists_name (s : String) : d.Lists (.name s) := fun _ member => by cases member

theorem definition_itself {about : About} {properties : List (Field × TypeSource)}
    {items variants : List TypeSource} (listed : d.Lists (.definition about properties items variants)) :
    .definition about properties items variants ∈ d.definitions :=
  listed _ (by simp [TypeSource.definitions])

theorem split_definitions (t : TypeSource) {x : TypeSource} (member : x ∈ t.definitions) :
    x = t ∨ x ∈ t.inner := by
  cases t with
  | name s => cases member
  | definition about properties items variants =>
      simpa [TypeSource.definitions, TypeSource.inner] using member

theorem lists_type {t : TypeSource} (member : t ∈ d.types) : d.Lists t := by
  intro x held
  refine List.mem_append_left _ ?_
  obtain rfl | inner := split_definitions t held
  · exact List.mem_append_left _ member
  · exact List.mem_append_right _ (List.mem_flatMap.mpr ⟨t, member, inner⟩)

theorem lists_body {e : DialectEndpoint} (member : e ∈ d.endpoints) {body : DialectBody}
    (has : e.requestBody = some body) : d.Lists body.type := by
  refine fun x held => List.mem_append_right _ (List.mem_flatMap.mpr ⟨e, member, ?_⟩)
  exact List.mem_append_left _ (by simpa [has] using held)

theorem lists_response {e : DialectEndpoint} (member : e ∈ d.endpoints) {r : DialectResponse}
    (has : r ∈ e.responses) {source : TypeSource} (typed : r.type = some source) : d.Lists source := by
  refine fun x held => List.mem_append_right _ (List.mem_flatMap.mpr ⟨e, member, ?_⟩)
  exact List.mem_append_right _ (List.mem_flatMap.mpr ⟨r, has, by simpa [typed] using held⟩)

-- A definition is listed because it is in a type that is, and so is all that is in it.
theorem lists_definition {x : TypeSource} (member : x ∈ d.definitions) : d.Lists x := by
  intro y inner
  obtain top | held := List.mem_append.mp member
  · obtain itself | held := List.mem_append.mp top
    · exact lists_type itself y inner
    · obtain ⟨t, there, held⟩ := List.mem_flatMap.mp held
      have whole : x ∈ t.definitions := by
        cases t with
        | name s => cases held
        | definition about properties items variants =>
            exact List.mem_cons_of_mem _ (by simpa [TypeSource.inner, TypeSource.definitions] using held)
      exact lists_type there y (definitions_inside inner t whole)
  · obtain ⟨e, there, held⟩ := List.mem_flatMap.mp held
    obtain held | held := List.mem_append.mp held
    · cases has : e.requestBody with
      | none => simp [has] at held
      | some body =>
          exact lists_body there has y (definitions_inside inner body.type (by simpa [has] using held))
    · obtain ⟨r, has, held⟩ := List.mem_flatMap.mp held
      cases typed : r.type with
      | none => simp [typed] at held
      | some source =>
          exact lists_response there has typed y
            (definitions_inside inner source (by simpa [typed] using held))

section Parts

variable {about : About} {properties : List (Field × TypeSource)} {items variants : List TypeSource}
  (listed : d.Lists (.definition about properties items variants))
include listed

theorem lists_property {entry : Field × TypeSource} (member : entry ∈ properties) :
    d.Lists entry.2 := fun x held => listed x (by
  simp [TypeSource.definitions, field_definitions member held])

theorem lists_item {source : TypeSource} (member : source ∈ items) : d.Lists source :=
  fun x held => listed x (by simp [TypeSource.definitions, source_definitions member held])

theorem lists_variant {source : TypeSource} (member : source ∈ variants) : d.Lists source :=
  fun x held => listed x (by simp [TypeSource.definitions, source_definitions member held])

end Parts

structure Apart (d : DialectDocument) : Prop where
  definitions : ∀ a ∈ d.definitions, ∀ b ∈ d.definitions, ∀ n, a.number? = some n →
    b.number? = some n → a = b
  parameters : ∀ e ∈ d.endpoints, ∀ p ∈ e.parameters, ∀ a ∈ d.definitions,
    a.number? ≠ some p.number

def fixedValues (d : DialectDocument) : List Literal :=
  (d.definitions.flatMap fun
    | .definition about .. => (about.values.getD []).map (·.value)
    | .name _ => []) ++ d.endpoints.flatMap fun e => e.parameters.flatMap fun p => p.enum.getD []

theorem fixed_definition {d : DialectDocument} {about : About} {properties : List (Field × TypeSource)}
    {items variants : List TypeSource} (listed : .definition about properties items variants ∈ d.definitions)
    {v : DialectValue} (given : v ∈ about.values.getD []) : v.value ∈ d.fixedValues :=
  List.mem_append_left _ (List.mem_flatMap.mpr ⟨_, listed, List.mem_map_of_mem given⟩)

theorem fixed_parameter {d : DialectDocument} {e : DialectEndpoint} (there : e ∈ d.endpoints)
    {p : DialectParameter} (member : p ∈ e.parameters) {l : Literal} (given : l ∈ p.enum.getD []) :
    l ∈ d.fixedValues :=
  List.mem_append_right _ (List.mem_flatMap.mpr ⟨e, there, List.mem_flatMap.mpr ⟨p, member, given⟩⟩)

def Short (d : DialectDocument) : Prop := ∀ l ∈ d.fixedValues, l.toScalar.isShort = true

instance (d : DialectDocument) : Decidable d.Short :=
  inferInstanceAs (Decidable (∀ l ∈ d.fixedValues, l.toScalar.isShort = true))

def parameterNumbers (d : DialectDocument) : List Nat :=
  d.endpoints.flatMap fun e => e.parameters.flatMap fun p => [p.number]

theorem own_number (t : TypeSource) :
    t.number?.toList ++ numbersOf t.inner = numbersOf t.definitions := by
  cases t with
  | name s => rfl
  | definition about properties items variants =>
      simp [TypeSource.number?, TypeSource.inner, TypeSource.definitions, numbersOf]

theorem sources_flat (sources : List TypeSource) :
    definitionsOfSources sources = sources.flatMap TypeSource.definitions := by
  induction sources with
  | nil => rfl
  | cons source rest ih => rw [definitionsOfSources, ih, List.flatMap_cons]

theorem numbers_flat {α : Type} (items : List α) (parts : α → List TypeSource) :
    numbersOf (items.flatMap parts) = items.flatMap fun a => numbersOf (parts a) :=
  List.filterMap_flatMap

-- The list of definitions puts the types in front of what is inside them; the walk does not.
theorem type_numbers_perm (types : List TypeSource) :
    (numbersOf (types ++ types.flatMap TypeSource.inner)).Perm
      (numbersOf (definitionsOfSources types)) := by
  rw [numbers_append, sources_flat, numbers_flat, numbers_flat]
  have tops : numbersOf types = types.flatMap fun t => t.number?.toList :=
    List.filterMap_eq_flatMap_toList _ _
  have walk := List.flatMap_append_perm types (fun t => t.number?.toList) fun t => numbersOf t.inner
  simp only [own_number] at walk
  rw [tops]
  exact walk

theorem all_numbers_perm (d : DialectDocument) :
    (numbersOf (definitionsOfSources d.types) ++ d.endpoints.flatMap DialectEndpoint.numbers).Perm
      (d.parameterNumbers ++ numbersOf d.definitions) := by
  have split := (List.flatMap_append_perm d.endpoints
    (fun e => e.parameters.flatMap fun p => [p.number])
    fun e => bodyNumbers e.requestBody ++ e.responses.flatMap DialectResponse.numbers).symm
  have ends : numbersOf d.definitions = numbersOf (d.types ++ d.types.flatMap TypeSource.inner) ++
      d.endpoints.flatMap fun e =>
        bodyNumbers e.requestBody ++ e.responses.flatMap DialectResponse.numbers := by
    simp only [definitions, numbers_append, numbers_flat, bodyNumbers]
    rfl
  rw [ends]
  refine (List.Perm.append_left _ split).trans ((List.perm_append_comm_assoc _ _ _).trans ?_)
  exact List.Perm.append_left _ ((type_numbers_perm d.types).symm.append_right _)

theorem number_unique {sources : List TypeSource} (distinct : (numbersOf sources).Nodup)
    {a b : TypeSource} (first : a ∈ sources) (second : b ∈ sources) {n : Nat}
    (one : a.number? = some n) (two : b.number? = some n) : a = b := by
  induction sources with
  | nil => cases first
  | cons source rest ih =>
      have later (c : TypeSource) (member : c ∈ rest) (given : c.number? = some n) :
          n ∈ numbersOf rest := List.mem_filterMap.mpr ⟨c, member, given⟩
      have others : (numbersOf rest).Nodup := by
        refine distinct.sublist ?_
        exact List.Sublist.filterMap _ (List.sublist_cons_self source rest)
      have apart (given : source.number? = some n) : n ∉ numbersOf rest := by
        simp only [numbersOf, List.filterMap_cons, given] at distinct
        exact (List.nodup_cons.mp distinct).1
      obtain front | first := List.mem_cons.mp first
      · obtain same | second := List.mem_cons.mp second
        · exact front.trans same.symm
        · exact absurd (later b second two) (apart (front ▸ one))
      · obtain front | second := List.mem_cons.mp second
        · exact absurd (later a first one) (apart (front ▸ two))
        · exact ih others first second

theorem numbered_apart (d : DialectDocument) : d.numbered.Apart := by
  have types := sources_count 0 d.types
  have endpoints := list_counts endpoint_counts (numberedSources 0 d.types).1 d.endpoints
  obtain ⟨_, counted⟩ := counts_append types endpoints
  have distinct : (d.numbered.parameterNumbers ++ numbersOf d.numbered.definitions).Nodup := by
    refine (all_numbers_perm d.numbered).nodup_iff.mp ?_
    change (numbersOf (definitionsOfSources (numberedSources 0 d.types).2) ++
      (numberedList DialectEndpoint.numbered (numberedSources 0 d.types).1 d.endpoints).2.flatMap
        DialectEndpoint.numbers).Nodup
    rw [counted]
    exact List.nodup_range'
  obtain ⟨_, own, across⟩ := List.nodup_append.mp distinct
  refine ⟨fun a first b second n one two => number_unique own first second one two, ?_⟩
  intro e there p held a listed same
  have placed : p.number ∈ d.numbered.parameterNumbers :=
    List.mem_flatMap.mpr ⟨e, there, List.mem_flatMap.mpr ⟨p, held, List.mem_singleton.mpr rfl⟩⟩
  exact across _ placed _ (List.mem_filterMap.mpr ⟨a, listed, same⟩) rfl

end DialectDocument

section Names

def TypeSource.isNamed (n : String) : TypeSource → Bool
  | .name _ => false
  | .definition about .. => about.name == n

-- The fold keeps what it has found, so the first of two definitions of a name stays.
theorem fold_found {step : List (String × TypeSource) → TypeSource → List (String × TypeSource)}
    (skips : ∀ found s, step found (.name s) = found)
    (notes : ∀ found about properties items variants,
      step found (.definition about properties items variants) =
        if (found.lookup about.name).isSome then found
        else found ++ [(about.name, .definition about properties items variants)])
    (definitions : List TypeSource) (found : List (String × TypeSource)) (n : String) :
    (definitions.foldl step found).lookup n =
      (found.lookup n).or (definitions.find? (·.isNamed n)) := by
  induction definitions generalizing found with
  | nil => simp
  | cons source rest ih =>
      rw [List.foldl_cons, ih]
      cases source with
      | name s => simp [skips, TypeSource.isNamed]
      | definition about properties items variants =>
          rw [notes]
          by_cases same : about.name = n
          · subst same
            cases known : found.lookup about.name with
            | none => simp [known, TypeSource.isNamed, List.lookup_append]
            | some first => simp [known]
          · have other : (n == about.name) = false := by simpa using Ne.symm same
            have skip : (TypeSource.definition about properties items variants).isNamed n = false := by
              simpa [TypeSource.isNamed] using same
            rw [List.find?_cons_of_neg (by simp [skip])]
            congr 1
            by_cases known : (found.lookup about.name).isSome
            · simp [known]
            · simp [known, List.lookup_append, List.lookup_cons, other]

theorem first_found (definitions : List TypeSource) (n : String) :
    (firstDefinitions definitions).lookup n = definitions.find? (·.isNamed n) := by
  rw [firstDefinitions, fold_found (fun _ _ => rfl) fun _ _ _ _ _ => rfl]
  simp

end Names

end ApiSchema.Dialect
