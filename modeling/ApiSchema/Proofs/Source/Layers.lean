import ApiSchema.Proofs.Source.Ending
import ApiSchema.Proofs.Source.Paths
import ApiSchema.Proofs.Source.Unfolding
import Mathlib.Algebra.Order.BigOperators.Group.List

/-!
Which files may refer to each other so that loading ends.

A location is the text of a path, and a path with a step up in it is another location for the same file.
So a cycle of relative references that has a step up goes through new locations for ever. If there is no
such cycle, the files are in layers, and finitely many locations can be reached.
-/

namespace ApiSchema

namespace Loading

variable {s : Surround} {o : LoaderOptions}

def filePart (reference : String) : String := String.ofList (Text.cutAt '#' reference.toList).1

def pointerPart (reference : String) : String := String.ofList (Text.cutAt '#' reference.toList).2

def filePath (reference : String) : Path := Path.ofString (filePart reference)

def beside (p : Path) (reference : String) : Path := p.parent.join (filePath reference)

def Cites (s : Surround) (o : LoaderOptions) (location reference : String) : Prop :=
  ∃ label l item l', Gives (readAt s o location label) l item l' ∧ Mentions l'.graph item reference

def firstPath (o : LoaderOptions) : DocumentSource → Path
  | .inMemory _ | .shared _ => o.base.child "__document__"
  | .named text => o.base.join (Path.ofString text)

/-- Local files in layers. A relative reference leads to the same layer or a lower one, and to a lower
one if its path has a step up. -/
structure Layered (s : Surround) (o : LoaderOptions) (source : DocumentSource) (l : Loader)
    (references : List String) (layer : Place → Nat) : Prop where
  web : s.web = []
  base : o.base.Plain
  home : Address.isWeb (o.base.child "__document__").toString = false
  first : ∀ location content m, Gives (openDocument s o source) l (location, content) m →
    ∀ reference, Mentions m.graph content reference → reference ∈ references
  others : ∀ location reference, Cites s o location reference → reference ∈ references
  falls : ∀ p reference x y, p.Plain → Cites s o p.toString reference → (filePath reference).isAbsolute = false →
    s.files.place p = .ok x → s.files.place (beside p reference) = .ok y → (s.files.fileAt y).isSome →
    layer y ≤ layer x ∧ (".." ∈ (filePath reference).names → layer y < layer x)

inductive Trail (s : Surround) (o : LoaderOptions) (first : Path) (references : List String) : Path → Prop
  | first : Trail s o first references first
  | next {reference : String} : reference ∈ references → Trail s o first references (beside first reference)
  | on {p : Path} {reference : String} : Trail s o first references p →
      Cites s o p.toString reference → reference ∈ references → Trail s o first references (beside p reference)

section Reading

theorem local_read {location label : String} {l l' : Loader} {item : Item} (web : s.web = [])
    (read : Gives (readAt s o location label) l item l') :
    Address.isWeb location = false ∧ Gives (readFile s o location label) l item l' := by
  unfold readAt at read
  cases remote : Address.isWeb location with
  | false =>
      rw [remote] at read
      exact ⟨rfl, read⟩
  | true =>
      have nowhere : s.web.get o.followsRedirects location = .error (.net .connect) := by
        rw [web, Web.get]
        split
        · rw [Web.follow]
          rfl
        · rfl
      simp only [remote, if_true, readPage, nowhere] at read
      exact (gives_throw read).elim

theorem file_read {location label : String} {l l' : Loader} {item : Item}
    (read : Gives (readFile s o location label) l item l') :
    ∃ bytes text, s.files.read (Path.ofString location) = .ok bytes ∧ textOf bytes = .ok text ∧
      Gives (if Text.lowerText (Path.ofString location).suffix == ".yaml" ||
          Text.lowerText (Path.ofString location).suffix == ".yml" then readYaml o label text
        else readJson o label text) l item l' := by
  unfold readFile at read
  dsimp only at read
  split at read
  · obtain ⟨_, _, stopped, _⟩ := gives_bind.mp read
    exact (gives_throw stopped).elim
  · split at read
    · obtain ⟨_, _, stopped, _⟩ := gives_bind.mp read
      exact (gives_throw stopped).elim
    · split at read
      · exact (gives_throw read).elim
      next bytes held =>
        obtain ⟨text, decoded, rest⟩ := gives_of_except_bind.mp read
        exact ⟨bytes, text, held, decoded, rest⟩

theorem read_at_path {p : Path} {label : String} {l l' : Loader} {item : Item} (web : s.web = [])
    (plain : p.Plain) (read : Gives (readAt s o p.toString label) l item l') :
    ∃ bytes, s.files.read p = .ok bytes := by
  obtain ⟨_, fromFile⟩ := local_read web read
  obtain ⟨bytes, _, held, _⟩ := file_read fromFile
  exact ⟨bytes, Path.of_string_to_string plain ▸ held⟩

end Reading

theorem beside_plain {p : Path} (plain : p.Plain) (reference : String) : (beside p reference).Plain :=
  Path.join_plain (Path.parent_plain plain) (Path.of_string_plain _)

theorem first_plain (base : o.base.Plain) (source : DocumentSource) : (firstPath o source).Plain := by
  have memory : (o.base.child "__document__").Plain := by
    refine ⟨base.root, fun name member => ?_⟩
    rcases List.mem_append.mp member with inside | last
    · exact base.names name inside
    · cases List.mem_singleton.mp last
      decide
  cases source with
  | named text => exact Path.join_plain base (Path.of_string_plain text)
  | inMemory content => exact memory
  | shared document => exact memory

theorem trail_plain {first p : Path} {references : List String} (plain : first.Plain)
    (trail : Trail s o first references p) : p.Plain := by
  induction trail with
  | first => exact plain
  | next => exact beside_plain plain _
  | on _ _ _ ih => exact beside_plain ih _

section Finite

variable {source : DocumentSource} {l : Loader} {references : List String} {layer : Place → Nat}

def Above (s : Surround) (o : LoaderOptions) (first : Path) (references : List String) (layer : Place → Nat)
    (n : Nat) (p : Path) : Prop :=
  Trail s o first references p ∧
    ∃ x, s.files.place p = .ok x ∧ (s.files.fileAt x).isSome ∧ n ≤ layer x

theorem read_file_at {p : Path} {bytes : ByteArray} (read : s.files.read p = .ok bytes) :
    ∃ x, s.files.place p = .ok x ∧ (s.files.fileAt x).isSome := by
  obtain ⟨x, file, place, found, _⟩ := FileTree.read_place read
  exact ⟨x, place, Option.isSome_iff_exists.mpr ⟨file, found⟩⟩

theorem layer_bound (s : Surround) (layer : Place → Nat) :
    ∃ top, ∀ x, (s.files.fileAt x).isSome → layer x < top := by
  refine ⟨(s.files.files.map fun file => layer file.1).sum + 1, fun x found => ?_⟩
  obtain ⟨file, listed⟩ := FileTree.file_listed found
  exact Nat.lt_succ_of_le (List.single_le_sum (by simp) _ (List.mem_map.mpr ⟨(x, file), listed, rfl⟩))

-- From the layers above on, the way goes down only.
theorem trail_spread (layered : Layered s o source l references layer) {n : Nat} {bases : List Path}
    (start : firstPath o source ∈ bases)
    (second : ∀ reference ∈ references, beside (firstPath o source) reference ∈ bases)
    (higher : ∀ p, Above s o (firstPath o source) references layer (n + 1) p →
      ∀ reference ∈ references, beside p reference ∈ bases)
    {p : Path} (above : Above s o (firstPath o source) references layer n p) :
    ∃ b ∈ bases, Path.Spread b p := by
  obtain ⟨trail, x, there, file, high⟩ := above
  induction trail generalizing x with
  | first => exact ⟨_, start, Path.spread_self _⟩
  | next listed => exact ⟨_, second _ listed, Path.spread_self _⟩
  | @on q reference before cites listed ih =>
      have plain := trail_plain (first_plain layered.base source) before
      by_cases absolute : (filePath reference).isAbsolute = true
      · -- An absolute path leads to the same place from everywhere.
        have same : beside q reference = beside (firstPath o source) reference := by
          simp [beside, Path.join, absolute]
        rw [same]
        exact ⟨_, second _ listed, Path.spread_self _⟩
      · have relative : (filePath reference).isAbsolute = false := by simpa using absolute
        have falls := fun w => layered.falls q reference w x plain cites relative
        obtain ⟨label, l₀, item, l₁, read, _⟩ := cites
        obtain ⟨bytes, held⟩ := read_at_path layered.web plain read
        obtain ⟨w, place, stands⟩ := read_file_at held
        obtain ⟨most, less⟩ := falls w place there file
        by_cases fresh : n + 1 ≤ layer w
        · exact ⟨_, higher q ⟨before, w, place, stands, fresh⟩ _ listed, Path.spread_self _⟩
        · have down : ".." ∉ (filePath reference).names := by
            intro up
            have lower := less up
            omega
          obtain ⟨b, inside, spread⟩ := ih w place stands (by omega)
          exact ⟨b, inside, Path.spread_beside spread relative down⟩

theorem finite_above (layered : Layered s o source l references layer) (n : Nat) :
    ∃ paths : List Path, ∀ p, Above s o (firstPath o source) references layer n p → p ∈ paths := by
  obtain ⟨top, bound⟩ := layer_bound s layer
  -- By induction on the number of layers that are not below.
  induction height : top - n generalizing n with
  | zero =>
      refine ⟨[], fun p above => ?_⟩
      obtain ⟨_, x, _, file, high⟩ := above
      have low := bound x file
      omega
  | succ height ih =>
      obtain ⟨paths, all⟩ := ih (n + 1) (by omega)
      let bases := firstPath o source :: references.map (beside (firstPath o source)) ++
        paths.flatMap fun p => references.map (beside p)
      refine ⟨bases.flatMap (Path.spellings s.files), fun p above => ?_⟩
      have start : firstPath o source ∈ bases := by simp [bases]
      obtain ⟨b, inside, spread⟩ := trail_spread layered start
        (fun reference listed => by
          simp only [bases, List.cons_append, List.mem_cons, List.mem_append, List.mem_map]
          exact .inr (.inl ⟨reference, listed, rfl⟩))
        (fun q higher reference listed => by
          simp only [bases, List.cons_append, List.mem_cons, List.mem_append, List.mem_flatMap, List.mem_map]
          exact .inr (.inr ⟨q, all q higher, reference, listed, rfl⟩))
        above
      obtain ⟨_, x, place, file, _⟩ := above
      exact List.mem_flatMap.mpr ⟨b, inside, Path.spread_spelled spread place file⟩

def Reach (s : Surround) (o : LoaderOptions) (first : Path) (references : List String)
    (location : String) : Prop :=
  (∃ p, Trail s o first references p ∧ location = p.toString) ∨ ∃ reference ∈ references,
    location = filePart reference ∧ Address.isWeb location = true

theorem reach_finite (layered : Layered s o source l references layer) : ∃ locations : List String,
    ∀ location, Reach s o (firstPath o source) references location → location ∈ locations := by
  obtain ⟨paths, all⟩ := finite_above layered 0
  let trails := firstPath o source :: references.map (beside (firstPath o source)) ++
    paths.flatMap fun p => references.map (beside p)
  refine ⟨trails.map Path.toString ++ references.map filePart, fun location reached => ?_⟩
  rcases reached with ⟨p, trail, rfl⟩ | ⟨reference, listed, rfl, -⟩
  · apply List.mem_append_left
    apply List.mem_map_of_mem
    simp only [trails, List.cons_append, List.mem_cons, List.mem_append, List.mem_map, List.mem_flatMap]
    cases trail with
    | first => exact .inl rfl
    | next listed => exact .inr (.inl ⟨_, listed, rfl⟩)
    | @on q reference before cites listed =>
        have plain := trail_plain (first_plain layered.base source) before
        obtain ⟨label, l₀, item, l₁, read, -⟩ := cites
        obtain ⟨bytes, held⟩ := read_at_path layered.web plain read
        obtain ⟨x, place, file⟩ := read_file_at held
        exact .inr (.inr ⟨q, all q ⟨before, x, place, file, Nat.zero_le _⟩, reference, listed, rfl⟩)
  · exact List.mem_append_right _ (List.mem_map_of_mem listed)

end Finite

section Load

variable {source : DocumentSource} {l l₁ : Loader} {references : List String} {layer : Place → Nat}

theorem aim_parts {reference base : String} {target : Aim} (aimed : aim o reference base = .ok target) :
    target.2 = pointerPart reference ∧
      (target.1 = base ∨ locate o (filePart reference) (some base) = .ok target.1) := by
  unfold aim at aimed
  dsimp only at aimed
  by_cases own : (Text.cutAt '#' reference.toList).1.isEmpty = true
  · rw [if_pos own] at aimed
    have same : (base, pointerPart reference) = target := Except.ok.inj aimed
    rw [← same]
    exact ⟨rfl, .inl rfl⟩
  · rw [if_neg own] at aimed
    change (locate o (filePart reference) (some base) >>= fun location =>
      Except.ok (location, pointerPart reference)) = Except.ok target at aimed
    cases located : locate o (filePart reference) (some base) with
    | error f =>
        rw [located] at aimed
        cases aimed
    | ok location =>
        rw [located] at aimed
        have same : (location, pointerPart reference) = target := Except.ok.inj aimed
        rw [← same]
        exact ⟨rfl, .inr rfl⟩

theorem aim_beside {p : Path} {reference : String} {target : Aim} (plain : p.Plain)
    (here : Address.isWeb p.toString = false) (aimed : aim o reference p.toString = .ok target) :
    target.1 = p.toString ∨ target.1 = (beside p reference).toString ∨
      target.1 = filePart reference ∧ Address.isWeb target.1 = true := by
  obtain ⟨-, own | located⟩ := aim_parts aimed
  · exact .inl own
  · unfold locate at located
    simp only [here, Bool.false_eq_true, if_false, Path.of_string_to_string plain] at located
    by_cases remote : Address.isWeb (filePart reference) = true
    · rw [if_pos remote] at located
      have same := Except.ok.inj located
      rw [← same]
      exact .inr (.inr ⟨rfl, remote⟩)
    · rw [if_neg remote] at located
      have same := Except.ok.inj located
      exact .inr (.inl same.symm)

theorem opened_first (used : Used s o l) (layered : Layered s o source l references layer)
    {location : String} {content : Item} (opened : Gives (openDocument s o source) l (location, content) l₁) :
    location = (firstPath o source).toString ∧ Address.isWeb location = false := by
  unfold openDocument at opened
  cases source with
  | inMemory v =>
      obtain ⟨item, m, added, rest⟩ := gives_bind.mp opened
      obtain ⟨same, rfl⟩ := gives_pure.mp rest
      cases same
      exact ⟨rfl, layered.home⟩
  | shared d =>
      obtain ⟨item, m, added, rest⟩ := gives_bind.mp opened
      obtain ⟨same, rfl⟩ := gives_pure.mp rest
      cases same
      exact ⟨rfl, layered.home⟩
  | named text =>
      obtain ⟨place, located, rest⟩ := gives_of_except_bind.mp opened
      obtain ⟨item, m, fetched, last⟩ := gives_bind.mp rest
      obtain ⟨same, rfl⟩ := gives_pure.mp last
      cases same
      obtain ⟨⟨housed, -⟩, -, held⟩ :=
        Regime.gives_kept (keeps_fetch (n := 0) _ _) ⟨housed_used used, Nat.zero_le _⟩ fetched
      obtain ⟨before, after, split, -⟩ := List.lookup_eq_some_iff.mp held
      obtain ⟨label, l₀, l₁, read, -⟩ := housed.read location content (by simp [split])
      obtain ⟨here, -⟩ := local_read layered.web read
      refine ⟨?_, here⟩
      unfold locate at located
      by_cases remote : Address.isWeb text = true
      · rw [if_pos remote] at located
        obtain rfl : text = location := Except.ok.inj located
        rw [here] at remote
        cases remote
      · rw [if_neg remote] at located
        exact (Except.ok.inj located).symm

theorem layered_confined (used : Used s o l) (layered : Layered s o source l references layer)
    {locations : List String}
    (all : ∀ location, Reach s o (firstPath o source) references location → location ∈ locations) :
    Confined s o source l (Reach s o (firstPath o source) references) locations where
  start := by
    intro location content m opened
    obtain ⟨rfl, here⟩ := opened_first used layered opened
    refine ⟨.inl ⟨_, .first, rfl⟩, fun reference target pointer mentions aimed => ?_⟩
    have listed := layered.first _ content m opened reference mentions
    obtain same | same | ⟨same, remote⟩ := aim_beside (first_plain layered.base source) here aimed
    · exact .inl ⟨_, .first, same⟩
    · exact .inl ⟨_, .next listed, same⟩
    · exact .inr ⟨reference, listed, same, remote⟩
  closed := by
    intro place reached label l item l' read reference target pointer mentions aimed
    obtain ⟨here, -⟩ := local_read layered.web read
    have cites : Cites s o place reference := ⟨label, l, item, l', read, mentions⟩
    have listed := layered.others place reference cites
    rcases reached with ⟨p, trail, rfl⟩ | ⟨_, _, _, remote⟩
    · have plain := trail_plain (first_plain layered.base source) trail
      obtain same | same | ⟨same, remote⟩ := aim_beside plain here aimed
      · exact .inl ⟨p, trail, same⟩
      · exact .inl ⟨_, .on trail cites listed, same⟩
      · exact .inr ⟨reference, listed, same, remote⟩
    · rw [here] at remote
      cases remote
  finite location reached _ := all location reached

theorem length_of_counts {α : Type} [BEq α] [LawfulBEq α] {log all : List α} {most : Nat}
    (inside : log ⊆ all) (few : ∀ a, log.count a ≤ most) : log.length ≤ most * all.length := by
  induction all generalizing log with
  | nil => simp [List.subset_nil.mp inside]
  | cons b rest ih =>
      have fewer : (log.filter fun a => !(a == b)).length ≤ most * rest.length := by
        apply ih
        · intro a member
          obtain ⟨listed, other⟩ := List.mem_filter.mp member
          rcases List.mem_cons.mp (inside listed) with rfl | later
          · simp at other
          · exact later
        · exact fun a => (List.filter_sublist.count_le a).trans (few a)
      have own : (log.filter (· == b)).length ≤ most := by
        rw [← List.count_eq_length_filter]
        exact few b
      rw [@List.length_eq_length_filter_add _ log (· == b), List.length_cons, Nat.mul_succ]
      omega

/-- In layers, loading comes to an end, whatever depth it is given, and expands finitely many targets:
each once, or twice if it is a list. -/
theorem layered_load_ends (used : Used s o l) (layered : Layered s o source l references layer) :
    Ends s o source l ∧ ∃ targets : List Aim, ∀ depth,
      let log := loadExpansions s { o with depth } source l
      log ⊆ targets ∧ log.length ≤ 2 * targets.length ∧ ∀ p, log.count p ≤ 2 ∧
        (2 ≤ log.count p → Listed ((loadDocument s { o with depth } source).run.run l).2 p) := by
  obtain ⟨locations, all⟩ := reach_finite layered
  have confined := layered_confined used layered all
  refine ⟨load_ends used confined, locations.product (references.map pointerPart), fun depth => ?_⟩
  intro log
  -- Nothing that is noted here depends on the depth.
  have housed := housed_used used
  have housed' : Housed s { o with depth } [] l := ⟨housed.inside, housed.one, housed.read⟩
  have closed : Closed s { o with depth } (Reach s o (firstPath o source) references) := confined.closed
  obtain ⟨twice, lists, met⟩ := load_expands housed' closed confined.start
  have inside : log ⊆ locations.product (references.map pointerPart) := by
    intro p member
    obtain ⟨reached, location, reference, ⟨item, m, mentions, came⟩, aimed⟩ := met p member
    have listed : reference ∈ references := by
      rcases came with opened | ⟨label, l₀, read⟩
      · exact layered.first location item m opened reference mentions
      · exact layered.others location reference ⟨label, l₀, item, m, read, mentions⟩
    have pointer : p.2 = pointerPart reference := (aim_parts aimed).1
    exact List.pair_mem_product.mpr ⟨all p.1 reached, pointer ▸ List.mem_map_of_mem listed⟩
  exact ⟨inside, length_of_counts inside twice, fun p => ⟨twice p, lists p⟩⟩

end Load

section Linked

def userText : String :=
  "\x7b\"friend\": \x7b\"$ref\": \"user.json\"\x7d, \"base\": \x7b\"$ref\": \"../base.json\"\x7d\x7d"

def baseText : String := "\x7b\"again\": \x7b\"$ref\": \"base.json\"\x7d\x7d"

def linked : Surround where
  files :=
    { files := [(["api", "user.json"], ⟨userText.toUTF8, false⟩), (["base.json"], ⟨baseText.toUTF8, false⟩)]
      directories := [["api"]]
      current := [] }

def linkedTexts : List (Place × String × List String) :=
  [(["api", "user.json"], userText, ["user.json", "../base.json"]), (["base.json"], baseText, ["base.json"])]

theorem linked_place {p : Path} {x : Place} (place : linked.files.place p = .ok x)
    (file : (linked.files.fileAt x).isSome) : ∃ front d name, p.names = front ++ [name] ∧
      linked.files.walk [] front = .ok d ∧ x = d ++ [name] ∧ x ∈ linkedTexts.map (·.1) := by
  have listed : x ∈ linkedTexts.map (·.1) := by
    obtain ⟨held, inside⟩ := FileTree.file_listed file
    simp only [linked, List.mem_cons, List.not_mem_nil, or_false, Prod.mk.injEq] at inside
    rcases inside with ⟨rfl, -⟩ | ⟨rfl, -⟩ <;> decide
  have walked : linked.files.walk [] p.names = .ok x := by
    rw [FileTree.place] at place
    split at place <;> exact place
  rcases List.eq_nil_or_concat' p.names with none | ⟨front, name, names⟩
  · rw [none] at walked
    cases walked
    exact absurd listed (by decide)
  · rw [names] at walked
    obtain ⟨d, first, last⟩ := FileTree.walk_append walked
    refine ⟨front, d, name, names, first, ?_, listed⟩
    by_cases inside : linked.files.isDirectoryAt d = true
    · have directory : d = [] ∨ d = ["api"] := by
        simpa [FileTree.isDirectoryAt, linked] using inside
      by_cases up : (name == "..") = true
      · -- No file is where a step up from a directory leads.
        simp only [FileTree.walk, inside, up, if_true] at last
        cases last
        rcases directory with rfl | rfl <;> exact absurd listed (by decide)
      · simp only [FileTree.walk, inside, up, if_true, Bool.false_eq_true, if_false] at last
        exact (Except.ok.inj last).symm
    · simp only [FileTree.walk, inside, Bool.false_eq_true, if_false] at last
      split at last <;> cases last

theorem mentions_text {g : Graph} {v : Value} {reference : String}
    (mentions : Mentions (g.addValue v).1 (g.addValue v).2 reference) : reference ∈ v.texts := by
  obtain ⟨id, entries, within, held, named⟩ := mentions
  have new := (Graph.adds_within (Graph.add_value_adds g v) within).1
  apply (Graph.value_spells g v).parts id _ reference new held
  unfold reference? at named
  split at named
  next r found =>
    obtain ⟨item, there, text⟩ := Option.bind_eq_some_iff.mp found
    have member := Pointer.lookup_member there
    simp only [Bool.false_and, Bool.false_eq_true, if_false, Option.some.injEq] at named
    subst named
    unfold Item.text? at text
    split at text
    · cases text
      exact member
    · cases text
  next => cases named

theorem json_mentions {label text : String} {l l' : Loader} {item : Item} {reference : String}
    (read : Gives (readJson o label text) l item l') (mentions : Mentions l'.graph item reference) :
    ∃ v, Json.readWithin o.jsonDepth text.toList = .ok v ∧ reference ∈ v.texts := by
  unfold readJson at read
  split at read
  next v found =>
    cases read
    exact ⟨v, found, mentions_text mentions⟩
  next =>
    split at read
    all_goals exact (gives_throw read).elim

theorem linked_cites {location reference : String} (cites : Cites linked Library.atTop location reference) :
    ∃ entry ∈ linkedTexts, linked.files.place (Path.ofString location) = .ok entry.1 ∧
      reference ∈ entry.2.2 := by
  obtain ⟨label, l, item, l', read, mentions⟩ := cites
  obtain ⟨-, fromFile⟩ := local_read rfl read
  obtain ⟨bytes, text, held, decoded, rest⟩ := file_read fromFile
  obtain ⟨x, file, place, found, content⟩ := FileTree.read_place held
  obtain ⟨front, d, name, names, -, same, listed⟩ := linked_place place (by rw [found]; rfl)
  obtain ⟨entry, inside, rfl⟩ := List.mem_map.mp listed
  have files : ∀ entry ∈ linkedTexts,
      (linked.files.fileAt entry.1).map (·.content) = some entry.2.1.toUTF8 := by decide +kernel
  have texts : ∀ entry ∈ linkedTexts, (textOf entry.2.1.toUTF8).toOption = some entry.2.1 := by
    decide +kernel
  have values : ∀ entry ∈ linkedTexts,
      (Json.readWithin Library.atTop.jsonDepth entry.2.1.toList).toOption.map Value.texts = some entry.2.2 := by
    decide +kernel
  have endings : ∀ entry ∈ linkedTexts,
      Text.lowerText (Path.suffix ⟨"", entry.1.getLast?.toList⟩) = ".json" := by decide +kernel
  have bytes_ : bytes = entry.2.1.toUTF8 := by
    have held := files entry inside
    rw [found, Option.map_some, content] at held
    exact Option.some.inj held
  have text_ : text = entry.2.1 := by
    have held := texts entry inside
    rw [← bytes_, decoded] at held
    exact Option.some.inj held
  have ending : Text.lowerText (Path.ofString location).suffix = ".json" := by
    have held := endings entry inside
    rw [same] at held
    simpa [Path.suffix, names] using held
  rw [ending] at rest
  obtain ⟨v, parsed, member⟩ := json_mentions rest mentions
  have held := values entry inside
  rw [← text_, parsed] at held
  exact ⟨entry, inside, place, Option.some.inj held ▸ member⟩

theorem linked_layered : Layered linked Library.atTop (Library.referring "api/user.json") {}
    ["api/user.json", "user.json", "../base.json", "base.json"] List.length where
  web := rfl
  base := ⟨by decide, fun _ member => nomatch member⟩
  home := by decide +kernel
  first := by
    intro location content m opened reference mentions
    cases opened
    have inside := mentions_text (g := .empty)
      (v := .map [(.text "a", .map [(.text "$ref", .text "api/user.json")])]) mentions
    have only : reference = "api/user.json" := List.mem_singleton.mp inside
    simp [only]
  others := by
    intro location reference cites
    obtain ⟨entry, listed, -, inside⟩ := linked_cites cites
    have all : ∀ entry ∈ linkedTexts, entry.2.2 ⊆
        ["api/user.json", "user.json", "../base.json", "base.json"] := by decide
    exact all entry listed inside
  falls := by
    intro p reference x y plain cites relative place there _
    obtain ⟨entry, listed, found, inside⟩ := linked_cites cites
    rw [Path.of_string_to_string plain] at found
    obtain rfl : entry.1 = x := Except.ok.inj (found.symm.trans place)
    have all : ∀ entry ∈ linkedTexts, ∀ reference ∈ entry.2.2,
        (linked.files.walk entry.1.dropLast (filePath reference).names).toOption.all fun y =>
          y.length ≤ entry.1.length ∧ (".." ∈ (filePath reference).names → y.length < entry.1.length) := by
      decide +kernel
    have stands : ∀ entry ∈ linkedTexts, (linked.files.fileAt entry.1).isSome := by decide
    obtain ⟨front, d, name, names, first, same, -⟩ := linked_place place (stands entry listed)
    have above : entry.1.dropLast = d := by rw [same, List.dropLast_concat]
    have onward : (beside p reference).names = front ++ (filePath reference).names := by
      simp [beside, Path.join, Path.parent, relative, names]
    have walked : linked.files.walk [] (beside p reference).names = .ok y := by
      rw [FileTree.place] at there
      split at there <;> exact there
    rw [onward] at walked
    -- The path leads through the directory of the file, so only the way of the reference from there has to
    -- be looked at.
    obtain ⟨middle, before, after⟩ := FileTree.walk_append walked
    obtain rfl : d = middle := Except.ok.inj (first.symm.trans before)
    have held := all entry listed reference inside
    rw [above, after] at held
    exact of_decide_eq_true held

theorem linked_load_ends : Ends linked Library.atTop (Library.referring "api/user.json") {} :=
  (layered_load_ends .new linked_layered).1

end Linked

end Loading

end ApiSchema
