import ApiSchema.Proofs.Source.Layers

namespace ApiSchema

namespace Loading

variable {s : Surround} {o : LoaderOptions} {f : Fault} {l m : Loader} {location : String}

def Fails {α : Type} (f : Fault) (step : Loading α) (l : Loader) : Prop := (step.run.run l).1 = .error f

theorem fails_first {α β : Type} {first : Loading α} {rest : α → Loading β} (fails : Fails f first l) :
    Fails f (first >>= rest) l := by
  unfold Fails at fails ⊢
  rw [run_bind]
  generalize first.run.run l = reached at fails ⊢
  obtain ⟨result, l'⟩ := reached
  cases fails
  rfl

theorem fails_later {α β : Type} {first : Loading α} {rest : α → Loading β} {a : α}
    (came : Gives first l a m) (fails : Fails f (rest a) m) : Fails f (first >>= rest) l := by
  unfold Fails at fails ⊢
  rw [run_bind, came]
  exact fails

def stopped (f : Fault) : Below := fun _ _ _ => throw f

structure Holds (l : Loader) (isRoot : Bool) (i : Nat) (reference : String) : Prop where
  outer : ∃ key j, l.graph.cell? i = some (.map [(key, .node j)]) ∧
    reference? isRoot [(key, .node j)] = none ∧
    l.graph.cell? j = some (.map [(.text "$ref", .text reference)])
  named : reference? isRoot [(.text "$ref", .text reference)] = some reference
  new : l.copies.lookup i = none

theorem holding_fails {depth i : Nat} {isRoot : Bool} {reference : String}
    (holds : Holds l isRoot i reference)
    (onward : ∀ less, less + 2 ≤ depth →
      Fails f (inlineTarget s o (bundleFrom s o (stopped f) less false) reference location)
        { l with graph := (l.graph.add (.map [])).1, copies := (i, .node l.graph.size) :: l.copies }) :
    Fails f (bundleFrom s o (stopped f) depth isRoot location (.node i)) l := by
  obtain ⟨⟨key, j, outer, plain, inner⟩, named, new⟩ := holds
  have older : j < l.graph.size := Graph.cell_inside inner
  have opened : Gives (openCopy i (.map [])) l (.node l.graph.size)
      { l with graph := (l.graph.add (.map [])).1, copies := (i, .node l.graph.size) :: l.copies } :=
    Library.gives_open_copy.mpr ⟨rfl, rfl⟩
  have kept : (l.graph.add (.map [])).1.of? (.node j) = some (.map [(.text "$ref", .text reference)]) := by
    change (l.graph.add (.map [])).1.cell? j = _
    rw [Graph.add_cell, if_neg (by omega), inner]
  cases depth with
  | zero => rfl
  | succ depth =>
      change Fails f (bundleStep s o (bundleFrom s o (stopped f) depth) isRoot location (.node i)) l
      apply fails_later (gives_get.mpr ⟨rfl, rfl⟩)
      simp only [Graph.of?, outer, plain]
      apply fails_later (gives_get.mpr ⟨rfl, rfl⟩)
      simp only [new]
      apply fails_later opened
      apply fails_first
      -- The only part is the reference.
      apply fails_first
      apply fails_first
      cases depth with
      | zero => rfl
      | succ less =>
          change Fails f (bundleStep s o (bundleFrom s o (stopped f) less) isRoot location (.node j)) _
          apply fails_later (gives_get.mpr ⟨rfl, rfl⟩)
          simp only [kept, named]
          exact onward less (Nat.le_refl _)

theorem aim_local {p : Path} {reference : String} (plain : p.Plain) (here : Address.isWeb p.toString = false)
    (named : reference.toList.isEmpty = false) (whole : Text.cutAt '#' reference.toList = (reference.toList, []))
    (near : Address.isWeb reference = false) :
    aim o reference p.toString = .ok ((beside p reference).toString, "") := by
  have file : filePart reference = reference := by
    rw [filePart, whole]
    exact String.ofList_toList
  have located : locate o reference (some p.toString) = .ok (beside p reference).toString := by
    unfold locate
    simp only [near, here, Bool.false_eq_true, if_false, Path.of_string_to_string plain, beside, filePath, file]
  unfold aim
  simp only [whole, named, Bool.false_eq_true, if_false, String.ofList_toList, located]
  rfl

section Looped

def loopedText : String := "\x7b\"self\": \x7b\"$ref\": \"../d/a.json\"\x7d\x7d"

def looped : Surround where
  files := { files := [(["d", "a.json"], ⟨loopedText.toUTF8, false⟩)], directories := [["d"]], current := [] }

def turns : Nat → List String
  | 0 => []
  | k + 1 => turns k ++ ["d", ".."]

def turned (k : Nat) : Path := ⟨"/", turns k ++ ["d", "a.json"]⟩

theorem turns_length (k : Nat) : (turns k).length = 2 * k := by
  induction k with
  | zero => rfl
  | succ k ih => simp [turns, ih]; omega

theorem turned_plain (k : Nat) : (turned k).Plain := by
  have each : ∀ name ∈ turns k, name = "d" ∨ name = ".." := by
    induction k with
    | zero => exact nofun
    | succ k ih =>
        intro name member
        rcases List.mem_append.mp member with early | late
        · exact ih name early
        · simpa using late
  refine ⟨by simp [turned], fun name member => ?_⟩
  rcases List.mem_append.mp member with early | late
  · rcases each name early with rfl | rfl <;> decide
  · rcases List.mem_cons.mp late with rfl | last
    · decide
    · cases List.mem_singleton.mp last
      decide

theorem turned_injective {j k : Nat} (same : (turned j).toString = (turned k).toString) : j = k := by
  have paths := congrArg Path.ofString same
  rw [Path.of_string_to_string (turned_plain j), Path.of_string_to_string (turned_plain k)] at paths
  have lengths := congrArg (fun p : Path => p.names.length) paths
  simp only [turned, List.length_append, turns_length] at lengths
  omega

theorem turned_next (k : Nat) : beside (turned k) "../d/a.json" = turned (k + 1) := by
  have path : filePath "../d/a.json" = ⟨"", ["..", "d", "a.json"]⟩ := by decide +kernel
  have front : (turns k ++ ["d", "a.json"]).dropLast = turns k ++ ["d"] := by
    rw [List.dropLast_append_of_ne_nil (by simp)]
    rfl
  simp [beside, path, turned, Path.join, Path.parent, Path.isAbsolute, front, turns]

theorem turned_read (k : Nat) : looped.files.read (turned k) = .ok loopedText.toUTF8 := by
  have back (k : Nat) (more : List String) :
      looped.files.walk [] (turns k ++ more) = looped.files.walk [] more := by
    induction k generalizing more with
    | zero => rfl
    | succ k ih =>
        rw [turns, List.append_assoc, ih]
        rfl
  have place : looped.files.place (turned k) = .ok ["d", "a.json"] := by
    change looped.files.walk [] (turns k ++ ["d", "a.json"]) = _
    rw [back]
    rfl
  unfold FileTree.read
  rw [place]
  rfl

-- A text that begins with a slash names no scheme.
theorem rooted_not_web {text : String} {rest : List Char} (rooted : text.toList = '/' :: rest) :
    Address.isWeb text = false := by
  have noScheme (more : List Char) : Address.splitScheme ('/' :: more) = (none, '/' :: more) := by
    have front : ('/' :: more).takeWhile (· != ':') = '/' :: more.takeWhile (· != ':') := rfl
    unfold Address.splitScheme
    simp only [front]
    split
    next first name_ colon_ same _ =>
      cases same
      rfl
    next => rfl
  have begun : Address.withoutBreaks (text.toList.dropWhile Address.isControlOrSpace) =
      '/' :: Address.withoutBreaks rest := by
    rw [rooted]
    rfl
  unfold Address.isWeb
  split
  next a found =>
    unfold Address.parse? at found
    simp only [begun, noScheme, Option.getD_none] at found
    obtain ⟨-, same⟩ := Option.ite_none_left_eq_some.mp found
    have scheme : a.scheme = [] := by rw [← Option.some.inj same]
    rw [scheme]
    rfl
  next => rfl

theorem turned_local (k : Nat) : Address.isWeb (turned k).toString = false := by
  have spelled := Path.toString_chars (turned k) (by simp [turned])
  have root : (turned k).root.toList = ['/'] := by simp [turned]
  rw [root] at spelled
  exact rooted_not_web spelled

theorem turned_aim (k : Nat) :
    aim Library.atTop "../d/a.json" (turned k).toString = .ok ((turned (k + 1)).toString, "") := by
  rw [aim_local (turned_plain k) (turned_local k) (by decide) (by decide) (by decide +kernel), turned_next]

def loopedValue : Value := .map [(.text "self", .map [(.text "$ref", .text "../d/a.json")])]

def isLooped : Value → Bool
  | .map [(.text key, .map [(.text name, .scalar (.text reference))])] =>
      key == "self" && name == "$ref" && reference == "../d/a.json"
  | _ => false

theorem looped_of_is {v : Value} (held : isLooped v = true) : v = loopedValue := by
  unfold isLooped at held
  split at held
  · simp only [Bool.and_eq_true, beq_iff_eq] at held
    obtain ⟨⟨rfl, rfl⟩, rfl⟩ := held
    rfl
  · cases held

theorem looped_value : Json.readWithin Json.usualDepth loopedText.toList = .ok loopedValue := by
  have held : (Json.readWithin Json.usualDepth loopedText.toList).toOption.map isLooped = some true := by
    decide +kernel
  cases read : Json.readWithin Json.usualDepth loopedText.toList with
  | error failure =>
      rw [read] at held
      cases held
  | ok v =>
      rw [read] at held
      rw [looped_of_is (Option.some.inj held)]

theorem turned_reads (k : Nat) (l : Loader) (label : String) :
    Gives (readAt looped Library.atTop (turned k).toString label) l (l.graph.addValue loopedValue).2
      { l with graph := (l.graph.addValue loopedValue).1 } := by
  have path : Path.ofString (turned k).toString = turned k := Path.of_string_to_string (turned_plain k)
  have there : looped.files.exists? (turned k) = true := by
    obtain ⟨place, file, found, held, -⟩ := FileTree.read_place (turned_read k)
    simp [FileTree.exists?, found, held]
  have text : textOf loopedText.toUTF8 = .ok loopedText := rfl
  have suffix : Text.lowerText (turned k).suffix = ".json" := by
    have short : (turned k).suffix = Path.suffix ⟨"", ["a.json"]⟩ := by simp [turned, Path.suffix]
    rw [short]
    decide +kernel
  unfold readAt
  rw [turned_local]
  change Gives (readFile looped Library.atTop (turned k).toString label) _ _ _
  unfold readFile
  simp only [path, there, turned_read, Bool.not_true, Bool.false_eq_true, if_false]
  apply gives_of_except_bind.mpr
  refine ⟨_, text, ?_⟩
  rw [suffix]
  change Gives (readJson Library.atTop label loopedText) _ _ _
  have read : Json.readWithin Library.atTop.jsonDepth loopedText.toList = .ok loopedValue := looped_value
  unfold readJson
  rw [read]
  rfl

theorem looped_added (g : Graph) : (g.addValue loopedValue).2 = .node (g.size + 1) ∧
    (g.addValue loopedValue).1.size = g.size + 2 ∧
    (g.addValue loopedValue).1.cell? g.size = some (.map [(.text "$ref", .text "../d/a.json")]) ∧
    (g.addValue loopedValue).1.cell? (g.size + 1) = some (.map [(.text "self", .node g.size)]) := by
  have added : g.addValue loopedValue =
      (g.add (.map [(.text "$ref", .text "../d/a.json")])).1.add (.map [(.text "self", .node g.size)]) := rfl
  have item (h : Graph) (cell : Cell) : (h.add cell).2 = .node h.size := rfl
  rw [added]
  simp [item, Graph.add_size, Graph.add_cell]

structure Ahead (k : Nat) (l : Loader) : Prop where
  documents : ∀ j, k ≤ j → l.documents.lookup (turned j).toString = none
  targets : ∀ j, k ≤ j → l.targets.lookup (targetKey (turned j).toString "") = none
  copies : ∀ id, l.graph.size ≤ id → l.copies.lookup id = none

theorem ahead_next {k i : Nat} {x y z : Item} {g : Graph} (ahead : Ahead k l) (below : i < g.size)
    (grown : l.graph.size ≤ g.size) :
    Ahead (k + 1)
      { graph := g, documents := l.documents ++ [((turned k).toString, x)], copies := (i, y) :: l.copies
        targets := (targetKey (turned k).toString "", z) :: l.targets } where
  documents := by
    intro j late
    have apart : (turned j).toString ≠ (turned k).toString := by
      intro same
      have := turned_injective same
      omega
    rw [List.lookup_append, ahead.documents j (by omega), Library.lookup_noted, if_neg apart]
    rfl
  targets := by
    intro j late
    have apart : targetKey (turned j).toString "" ≠ targetKey (turned k).toString "" := by
      intro same
      have keys := String.ext_iff.mp same
      simp only [targetKey, String.toList_append, List.append_cancel_right_eq] at keys
      have := turned_injective (String.ext keys)
      omega
    rw [Library.lookup_noted, if_neg apart, ahead.targets j (by omega)]
  copies := by
    intro id outside
    have apart : id ≠ i := by
      change g.size ≤ id at outside
      omega
    rw [Library.lookup_noted, if_neg apart, ahead.copies id (Nat.le_trans grown outside)]

theorem turn_fails (f : Fault) (depth k : Nat) (l : Loader) (reference base : String) (ahead : Ahead k l)
    (aimed : aim Library.atTop reference base = .ok ((turned k).toString, "")) :
    Fails f (inlineTarget looped Library.atTop (bundleFrom looped Library.atTop (stopped f) depth false)
      reference base) l := by
  induction depth using Nat.strong_induction_on generalizing k l reference base with
  | _ depth ih =>
    -- One turn reads the file under a new location and refers to it once more, so an error below comes
    -- from the next turn, which has less depth.
    obtain ⟨item, size, inner, outer⟩ := looped_added l.graph
    let read : Loader := { l with graph := (l.graph.addValue loopedValue).1,
                                  documents := l.documents ++ [((turned k).toString, .node (l.graph.size + 1))] }
    have fetched : Gives (fetch looped Library.atTop (turned k).toString (turned k).toString) l
        (.node (l.graph.size + 1)) read := by
      unfold Gives
      rw [fetch_run, ahead.documents k (Nat.le_refl k), turned_reads, item]
    have sought : Gives (seek looped Library.atTop reference (turned k).toString "") l
        (.node (l.graph.size + 1)) read := by
      apply gives_bind.mpr
      refine ⟨_, _, fetched, gives_get_bind.mpr ?_⟩
      rfl
    have map : read.graph.isMap (.node (l.graph.size + 1)) = true := by
      simp [read, Graph.isMap, Graph.entries?, Graph.of?, outer]
    apply fails_later (gives_of_except.mpr ⟨aimed, rfl⟩)
    apply fails_later (gives_get.mpr ⟨rfl, rfl⟩)
    simp only [ahead.targets k (Nat.le_refl k)]
    apply fails_later sought
    apply fails_later (gives_get.mpr ⟨rfl, rfl⟩)
    rw [map, if_pos rfl]
    apply fails_later (Library.gives_open_target.mpr ⟨rfl, rfl⟩)
    apply fails_first
    have holds : Holds
        { read with graph := (read.graph.add (.map [])).1,
                    targets := (targetKey (turned k).toString "", .node read.graph.size) :: read.targets }
        false (l.graph.size + 1) "../d/a.json" := by
      refine ⟨⟨.text "self", l.graph.size, ?_, rfl, ?_⟩, by decide, ahead.copies _ (Nat.le_succ _)⟩
      · rw [Graph.add_cell, if_neg (by simp only [read, size]; omega)]
        exact outer
      · rw [Graph.add_cell, if_neg (by simp only [read, size]; omega)]
        exact inner
    refine holding_fails holds fun less fewer => ?_
    apply ih less (by omega) (k + 1) _ _ _ (ahead_next ahead ?_ ?_) (turned_aim k)
    · simp only [Graph.add_size, read, size]
      omega
    · simp only [Graph.add_size, read, size]
      omega

def referred : Loader where
  graph := ⟨#[.map [(.text "$ref", .text "d/a.json")], .map [(.text "a", .node 0)]]⟩

/-- However deep loading may go, it does not come to an end. -/
theorem looped_endless : ¬ Ends looped Library.atTop (Library.referring "d/a.json") {} ∧
    ∀ depth, ((loadDocument looped { Library.atTop with depth } (Library.referring "d/a.json")).run.run {}).1 =
      .error (.misuse .depth) := by
  have fails (f : Fault) (depth : Nat) : Fails f (loadWith looped Library.atTop
      (bundleFrom looped Library.atTop (stopped f) depth) (Library.referring "d/a.json")) {} := by
    have opened : Gives (openDocument looped Library.atTop (Library.referring "d/a.json")) {}
        (Path.toString ⟨"/", ["__document__"]⟩, .node 1) referred := rfl
    have holds : Holds (cleared referred) true 1 "d/a.json" :=
      ⟨⟨.text "a", 0, rfl, by decide, rfl⟩, by decide, rfl⟩
    have aimed : aim Library.atTop "d/a.json" (Path.toString ⟨"/", ["__document__"]⟩) =
        .ok ((turned 0).toString, "") := by
      rw [aim_local ⟨by decide, by decide⟩ (by decide +kernel) (by decide) (by decide) (by decide +kernel)]
      rfl
    unfold Fails
    rw [load_with_run opened]
    change Fails f (bundleFrom looped Library.atTop (stopped f) depth true
      (Path.toString ⟨"/", ["__document__"]⟩) (.node 1) >>= complete) (cleared referred)
    apply fails_first
    apply holding_fails holds
    intro less _
    apply turn_fails f less 0 _ _ _ _ aimed
    refine ⟨fun _ _ => rfl, fun _ _ => rfl, fun id outside => ?_⟩
    rw [Library.lookup_noted, if_neg (Nat.ne_of_gt (Nat.lt_of_lt_of_le (by decide) outside))]
    rfl
  have every (depth : Nat) : ((loadDocument looped { Library.atTop with depth }
      (Library.referring "d/a.json")).run.run {}).1 = .error (.misuse .depth) := by
    rw [load_at_depth]
    exact fails (.misuse .depth) depth
  refine ⟨?_, every⟩
  rintro ⟨depth, same⟩
  have one := fails (.misuse .value) depth
  have two := every depth
  rw [← same depth (Nat.le_refl _) (stopped (.misuse .value)), one] at two
  cases two

end Looped

end Loading

end ApiSchema
