import ApiSchema.Proofs.Source.Expansions
import Mathlib.Data.Prod.Lex
import Mathlib.Data.Set.Card

/-!
Why loading ends.

Whatever is done inside a step, a document is read that had not been read, or a container is copied that
had no copy, or a reference is followed whose target had not been noted. If only finitely many documents
can be reached, that can go on only so long, and the depth that loading is given makes no difference.
-/

namespace ApiSchema

namespace Loading

variable {s : Surround} {o : LoaderOptions} {extra : List (String × Item)} {reach : String → Prop}
variable {l l' m : Loader} {item : Item} {p : Aim} {location : String} {id : Nat}

abbrev Below := Bool → String → Item → Loading Item

def bundleStep (s : Surround) (o : LoaderOptions) (copy : Below) : Below :=
  fun isRoot location item => do
    match item, (← get).graph.of? item with
    | .node id, some (.map entries) =>
      match reference? isRoot entries with
      | some reference => inlineTarget s o (copy false) reference location
      | none =>
        copyContainer (copy isRoot location) id (.map [])
          (entries.map fun (key, part) => (some key, part))
    | .node id, some (.list items) =>
      copyContainer (copy isRoot location) id (.list []) (items.map (none, ·))
    | _, _ => return item

def bundleFrom (s : Surround) (o : LoaderOptions) (below : Below) : Nat → Below
  | 0 => below
  | depth + 1 => bundleStep s o (bundleFrom s o below depth)

def limit : Below := fun _ _ _ => throw (.misuse .depth)

theorem bundle_from_limit (s : Surround) (o : LoaderOptions) (depth : Nat) :
    bundleFrom s o limit depth = bundle s o depth := by
  induction depth with
  | zero => rfl
  | succ depth ih =>
      rw [bundleFrom, ih]
      rfl

/-- From some depth on, neither the depth nor what is below it makes a difference. -/
def Settles {α : Type} (part : Below → Nat → Loading α) (l : Loader) : Prop :=
  ∃ depth, ∀ more ≥ depth, ∀ below, (part below more).run.run l = (part limit depth).run.run l

section Settles

variable {α β : Type}

theorem settles_const (step : Loading α) : Settles (fun _ _ => step) l :=
  ⟨0, fun _ _ _ => rfl⟩

theorem settles_bind {first : Below → Nat → Loading α} {rest : α → Below → Nat → Loading β}
    (one : Settles first l)
    (two : ∀ depth a m, Gives (first limit depth) l a m → Settles (rest a) m) :
    Settles (fun below depth => first below depth >>= fun a => rest a below depth) l := by
  obtain ⟨depth, same⟩ := one
  cases reached : (first limit depth).run.run l with
  | mk result m =>
      rw [reached] at same
      cases result with
      | error f =>
          refine ⟨depth, fun more enough below => ?_⟩
          rw [run_bind, run_bind, same more enough below, reached]
      | ok a =>
          obtain ⟨depth', same'⟩ := two depth a m reached
          refine ⟨max depth depth', fun more enough below => ?_⟩
          rw [run_bind, run_bind, same more (by omega) below, same (max depth depth') (by omega) limit]
          dsimp only
          rw [same' more (by omega) below, same' (max depth depth') (by omega) limit]

theorem settles_get {rest : Loader → Below → Nat → Loading α} (next : Settles (rest l) l) :
    Settles (fun below depth => get >>= fun l => rest l below depth) l :=
  next

theorem settles_step {isRoot : Bool}
    (inner : Settles (fun below depth => bundleStep s o (bundleFrom s o below depth) isRoot location item) l) :
    Settles (fun below depth => bundleFrom s o below depth isRoot location item) l := by
  obtain ⟨depth, same⟩ := inner
  refine ⟨depth + 1, fun more enough below => ?_⟩
  obtain ⟨more, rfl⟩ : ∃ k, more = k + 1 := ⟨more - 1, by omega⟩
  exact same more (by omega) below

end Settles

def Readable (s : Surround) (o : LoaderOptions) (location : String) : Prop :=
  ∃ label l item l', Gives (readAt s o location label) l item l'

section Measure

def unread (places : List String) (l : Loader) : Nat :=
  (places.filter fun place => (l.documents.lookup place).isNone).length

def uncopied (extra : List (String × Item)) (l : Loader) : Set Nat :=
  {id | (∃ location, Belongs (extra ++ l.documents) l.graph location id) ∧ l.copies.lookup id = none}

def unfollowed (o : LoaderOptions) (extra : List (String × Item)) (l : Loader) : Set Nat :=
  {id | ∃ location entries reference p, Belongs (extra ++ l.documents) l.graph location id ∧
    l.graph.cell? id = some (.map entries) ∧ reference? false entries = some reference ∧
    aim o reference location = .ok p ∧ l.targets.lookup (Aim.key p) = none}

noncomputable def left (o : LoaderOptions) (extra : List (String × Item)) (places : List String)
    (l : Loader) : ℕ ×ₗ ℕ :=
  toLex (unread places l, (uncopied extra l).ncard + (unfollowed o extra l).ncard)

variable {places : List String} {α : Type} {log : List Aim} {out : Except Fault α × Loader}

theorem uncopied_finite (housed : Housed s o extra l) : (uncopied extra l).Finite :=
  (Set.finite_lt_nat l.graph.size).subset fun id inside => by
    obtain ⟨⟨location, belongs⟩, _⟩ := inside
    exact housed.inside location id belongs

theorem unfollowed_finite (housed : Housed s o extra l) : (unfollowed o extra l).Finite :=
  (Set.finite_lt_nat l.graph.size).subset fun id inside => by
    obtain ⟨location, _, _, _, belongs, _⟩ := inside
    exact housed.inside location id belongs

theorem lookup_back {κ : Type} [BEq κ] {notes notes' : List (κ × Item)} {key : κ}
    (kept : (notes.lookup key).isSome → (notes'.lookup key).isSome) (absent : notes'.lookup key = none) :
    notes.lookup key = none := by
  cases held : notes.lookup key with
  | none => rfl
  | some x =>
      have there := kept (by rw [held]; rfl)
      rw [absent] at there
      cases there

theorem uncopied_fewer (expands : Expands s o extra reach l log out)
    (documents : out.2.documents = l.documents) : uncopied extra out.2 ⊆ uncopied extra l := by
  rintro id ⟨⟨location, belongs⟩, absent⟩
  refine ⟨⟨location, ?_⟩, lookup_back (expands.copies id) absent⟩
  exact belongs_back l out.2 documents expands.grown.kept belongs

theorem unfollowed_fewer (expands : Expands s o extra reach l log out)
    (documents : out.2.documents = l.documents) : unfollowed o extra out.2 ⊆ unfollowed o extra l := by
  rintro id ⟨location, entries, reference, p, belongs, held, named, aimed, absent⟩
  have old := belongs_back l out.2 documents expands.grown.kept belongs
  exact ⟨location, entries, reference, p, old, (expands.grown.kept location id old).symm.trans held, named,
    aimed, lookup_back (expands.targets _) absent⟩

theorem unread_less (expands : Expands s o extra reach l log out)
    (finite : ∀ location, reach location → Readable s o location → location ∈ places)
    (more : out.2.documents ≠ l.documents) : unread places out.2 < unread places l := by
  obtain ⟨new, documents, near⟩ := expands.reads
  cases new with
  | nil => exact (more (by rw [documents, List.append_nil])).elim
  | cons entry rest =>
      obtain ⟨inside, absent⟩ := near entry (by simp)
      have read : (entry.1, entry.2) ∈ out.2.documents := by simp [documents]
      obtain ⟨label, l₀, l₁, came, _⟩ := expands.housed.read entry.1 entry.2 read
      have place := finite entry.1 inside ⟨label, l₀, entry.2, l₁, came⟩
      refine filter_fewer (fun other later => ?_) place (by simp [absent]) ?_
      · rw [documents, List.lookup_append] at later
        cases held : l.documents.lookup other with
        | none => rfl
        | some x => simp [held] at later
      · rw [documents, List.lookup_append, absent]
        simp

-- What is left to do does not grow.
theorem left_later (expands : Expands s o extra reach l log out) (housed : Housed s o extra l)
    (finite : ∀ location, reach location → Readable s o location → location ∈ places) :
    left o extra places out.2 ≤ left o extra places l := by
  refine Prod.Lex.toLex_le_toLex.mpr ?_
  by_cases documents : out.2.documents = l.documents
  · refine .inr ⟨by simp only [unread, documents], ?_⟩
    have copies := Set.ncard_le_ncard (uncopied_fewer expands documents) (uncopied_finite housed)
    have targets := Set.ncard_le_ncard (unfollowed_fewer expands documents) (unfollowed_finite housed)
    exact Nat.add_le_add copies targets
  · exact .inl (unread_less expands finite documents)

theorem left_less (expands : Expands s o extra reach l log out) (housed : Housed s o extra l)
    (finite : ∀ location, reach location → Readable s o location → location ∈ places)
    (gone : (∃ id ∈ uncopied extra l, id ∉ uncopied extra out.2) ∨
      ∃ id ∈ unfollowed o extra l, id ∉ unfollowed o extra out.2) :
    left o extra places out.2 < left o extra places l := by
  refine Prod.Lex.toLex_lt_toLex.mpr ?_
  by_cases documents : out.2.documents = l.documents
  · refine .inr ⟨by simp only [unread, documents], ?_⟩
    have copies := uncopied_fewer expands documents
    have targets := unfollowed_fewer expands documents
    obtain ⟨id, inside, outside⟩ | ⟨id, inside, outside⟩ := gone
    · have fewer := Set.ncard_lt_ncard (copies.ssubset_of_mem_notMem inside outside) (uncopied_finite housed)
      exact Nat.add_lt_add_of_lt_of_le fewer (Set.ncard_le_ncard targets (unfollowed_finite housed))
    · have fewer := Set.ncard_lt_ncard (targets.ssubset_of_mem_notMem inside outside)
        (unfollowed_finite housed)
      exact Nat.add_lt_add_of_le_of_lt (Set.ncard_le_ncard copies (uncopied_finite housed)) fewer
  · exact .inl (unread_less expands finite documents)

end Measure

section Bundle

variable {places : List String} (closed : Closed s o reach)
  (finite : ∀ location, reach location → Readable s o location → location ∈ places)
include closed

theorem limited_expands (isRoot : Bool) (depth : Nat) (ready : Ready s o extra reach l location item) :
    Expands s o extra reach l (expansions s o depth isRoot location item l)
      ((bundleFrom s o limit depth isRoot location item).run.run l) := by
  rw [bundle_from_limit]
  exact (bundle_expands closed depth isRoot location item l ready).expands

include finite

theorem parts_settle {isRoot : Bool} {bound : ℕ ×ₗ ℕ} {copied : Item}
    (each : ∀ item l, left o extra places l < bound → Ready s o extra reach l location item →
      Settles (fun below depth => bundleFrom s o below depth isRoot location item) l)
    (parts : List (Option Scalar × Item)) (fewer : left o extra places l < bound)
    (housed : Housed s o extra l) (own : Own extra 0 l copied)
    (ready : ∀ part ∈ parts, Ready s o extra reach l location part.2) :
    Settles (fun below depth => copyParts (bundleFrom s o below depth isRoot location) copied parts) l := by
  induction parts generalizing l with
  | nil => exact settles_const _
  | cons part rest ih =>
      have here := ready part (by simp)
      refine settles_bind (settles_bind (each part.2 l fewer here) fun _ _ _ _ => settles_const _)
        fun depth done m came => ?_
      obtain ⟨part', m₁, copying, updating⟩ := gives_bind.mp came
      have one := limited_expands closed isRoot depth here
      rw [copying] at one
      have two : Expands s o extra reach m₁ [] _ :=
        update_expands one.housed (own_later own one.grown) (withPart part.1 part')
      rw [updating] at two
      have both := expands_append one two
      refine ih (lt_of_le_of_lt (left_later both housed finite) fewer) both.housed
        (own_later own both.grown) fun other member => ?_
      exact ready_later (ready other (by simp [member])) both.housed both.grown

theorem container_settles {isRoot : Bool} {cell empty : Cell} {parts : List (Option Scalar × Item)}
    (each : ∀ item m, left o extra places m < left o extra places l →
      Ready s o extra reach m location item →
      Settles (fun below depth => bundleFrom s o below depth isRoot location item) m)
    (ready : Ready s o extra reach l location (.node id)) (held : l.graph.cell? id = some cell)
    (among : ∀ part ∈ parts, part.2 ∈ cell.parts) :
    Settles (fun below depth => copyContainer (bundleFrom s o below depth isRoot location) id empty parts)
      l := by
  refine settles_get ?_
  cases known : l.copies.lookup id with
  | some copied => exact settles_const _
  | none =>
      refine settles_bind (settles_const _) fun _ copied m came => ?_
      have opened : Expands s o extra reach l [] ((openCopy id empty).run.run l) :=
        open_copy_expands ready.housed id empty
      have owned := (Regime.gives_kept (keeps_open_copy id empty) ⟨ready.housed, Nat.zero_le _⟩ came).2.2
      rw [came] at opened
      have noted : id ∉ uncopied extra m := by
        rintro ⟨_, absent⟩
        obtain ⟨rfl, rfl⟩ := Library.gives_open_copy.mp came
        rw [List.lookup_cons_self] at absent
        cases absent
      have fewer : left o extra places m < left o extra places l :=
        left_less opened ready.housed finite (.inl ⟨id, ⟨⟨location, ready.known id rfl⟩, known⟩, noted⟩)
      refine settles_bind (parts_settle closed finite each parts fewer opened.housed owned ?_)
        fun _ _ _ _ => settles_const _
      exact fun part member =>
        ready_later (ready_part ready held (among part member)) opened.housed opened.grown

theorem inline_settles {entries : Entries} {reference : String}
    (each : ∀ location item m, left o extra places m < left o extra places l →
      Ready s o extra reach m location item →
      Settles (fun below depth => bundleFrom s o below depth false location item) m)
    (others : ∀ location item m, left o extra places m ≤ left o extra places l →
      m.graph.isMap item = false → Ready s o extra reach m location item →
      Settles (fun below depth => bundleFrom s o below depth false location item) m)
    (ready : Ready s o extra reach l location (.node id)) (held : l.graph.cell? id = some (.map entries))
    (named : reference? false entries = some reference) :
    Settles (fun below depth => inlineTarget s o (bundleFrom s o below depth false) reference location) l := by
  refine settles_bind (settles_const _) fun _ p m came => ?_
  obtain ⟨aimed, rfl⟩ := gives_of_except.mp came
  obtain ⟨near, _⟩ := ready_aims closed ready held named aimed
  refine settles_get ?_
  cases fresh : m.targets.lookup (targetKey p.1 p.2) with
  | some copied => exact settles_const _
  | none =>
      refine settles_bind (settles_const _) fun _ target m₁ found => settles_get ?_
      have sought : Expands s o extra reach m [] ((seek s o reference p.1 p.2).run.run m) :=
        seek_expands ready.housed near reference p.2
      rw [found] at sought
      have there := ready_names (ready_later ready sought.housed sought.grown) near
        (seek_names ready.housed found)
      cases map : m₁.graph.isMap target with
      | false =>
          refine settles_bind (others p.1 target m₁ (left_later sought ready.housed finite) map there)
            fun _ _ _ _ => settles_const _
      | true =>
          refine settles_bind (settles_const _) fun _ placeholder m₂ came => ?_
          have opened : Expands s o extra reach m₁ [] ((openTarget (targetKey p.1 p.2)).run.run m₁) :=
            open_target_expands sought.housed _
          rw [came] at opened
          have both := expands_append sought opened
          -- The reference is a part of one document only, so it aims nowhere else.
          have noted : id ∉ unfollowed o extra m₂ := by
            rintro ⟨other, entries', reference', p', belongs, held', named', aimed', absent⟩
            have known := belongs_later both.grown (ready.known id rfl)
            cases both.housed.one other location id belongs known
            have same := (both.grown.kept _ id (ready.known id rfl)).symm.trans held'
            rw [held] at same
            cases same
            cases named.symm.trans named'
            cases aimed.symm.trans aimed'
            obtain ⟨rfl, rfl⟩ := Library.gives_open_target.mp came
            rw [Aim.key, List.lookup_cons_self] at absent
            cases absent
          have before : id ∈ unfollowed o extra m :=
            ⟨location, entries, reference, p, ready.known id rfl, held, named, aimed, fresh⟩
          have fewer := left_less both ready.housed finite (.inr ⟨id, before, noted⟩)
          refine settles_bind (each p.1 target m₂ fewer (ready_later there opened.housed opened.grown))
            fun _ _ _ _ => settles_const _

theorem level_settles {isRoot : Bool}
    (each : ∀ isRoot location item m, left o extra places m < left o extra places l →
      Ready s o extra reach m location item →
      Settles (fun below depth => bundleFrom s o below depth isRoot location item) m)
    (others : l.graph.isMap item = true → ∀ location item m,
      left o extra places m ≤ left o extra places l → m.graph.isMap item = false →
      Ready s o extra reach m location item →
      Settles (fun below depth => bundleFrom s o below depth false location item) m)
    (ready : Ready s o extra reach l location item) :
    Settles (fun below depth => bundleFrom s o below depth isRoot location item) l := by
  refine settles_step (settles_get ?_)
  cases item with
  | scalar a => exact settles_const _
  | node id =>
      cases held : l.graph.of? (.node id) with
      | none => exact settles_const _
      | some cell =>
          cases cell with
          | map entries =>
              have map : l.graph.isMap (.node id) = true := by simp [Graph.isMap, Graph.entries?, held]
              simp only
              cases named : reference? isRoot entries with
              | some reference =>
                  exact inline_settles closed finite (each false) (others map) ready held
                    (reference_any named)
              | none =>
                  refine container_settles closed finite (each isRoot location) ready held fun part member => ?_
                  obtain ⟨entry, there, rfl⟩ := List.mem_map.mp member
                  exact List.mem_map_of_mem there
          | list items =>
              refine container_settles closed finite (each isRoot location) ready held fun part member => ?_
              obtain ⟨item, there, rfl⟩ := List.mem_map.mp member
              exact there
          | set | pair => exact settles_const _

-- Induction on what is left. A target that is no map is copied with as much left as there was at the
-- reference to it, but it is no reference itself.
theorem bundle_settles (isRoot : Bool) (location : String) (item : Item) (l : Loader)
    (ready : Ready s o extra reach l location item) :
    Settles (fun below depth => bundleFrom s o below depth isRoot location item) l := by
  induction bound : left o extra places l using WellFoundedLT.induction
    generalizing isRoot location item l with
  | ind bound' ih =>
      subst bound
      have flat : ∀ isRoot location item m, left o extra places m = left o extra places l →
          m.graph.isMap item = false → Ready s o extra reach m location item →
          Settles (fun below depth => bundleFrom s o below depth isRoot location item) m := by
        intro isRoot location item m same other ready
        refine level_settles closed finite (fun isRoot location item m' fewer ready => ?_)
          (fun map => absurd (map.symm.trans other) nofun) ready
        exact ih _ (same ▸ fewer) isRoot location item m' ready rfl
      refine level_settles closed finite
        (fun isRoot location item m fewer ready => ih _ fewer isRoot location item m ready rfl)
        (fun _ location item m most other ready => ?_) ready
      obtain fewer | same := lt_or_eq_of_le most
      · exact ih _ fewer false location item m ready rfl
      · exact flat false location item m same other ready

end Bundle

def Ends (s : Surround) (o : LoaderOptions) (source : DocumentSource) (l : Loader) : Prop :=
  ∃ depth, ∀ more ≥ depth, ∀ below, (loadWith s o (bundleFrom s o below more) source).run.run l =
    (loadDocument s { o with depth } source).run.run l

/-- The locations that loading can reach, with finitely many documents. -/
structure Confined (s : Surround) (o : LoaderOptions) (source : DocumentSource) (l : Loader)
    (reach : String → Prop) (places : List String) : Prop where
  start : ∀ location content m, Gives (openDocument s o source) l (location, content) m →
    reach location ∧ Stays o reach m.graph (location, content)
  closed : Closed s o reach
  finite : ∀ location, reach location → Readable s o location → location ∈ places

section Load

variable {source : DocumentSource} {places : List String}

theorem bundle_depth (s : Surround) (o : LoaderOptions) (depth fuel : Nat) :
    bundle s { o with depth } fuel = bundle s o fuel := by
  induction fuel with
  | zero => rfl
  | succ fuel ih =>
      have step : ∀ o, bundle s o (fuel + 1) = bundleStep s o (bundle s o fuel) := fun _ => rfl
      rw [step, step, ih]
      rfl

theorem load_at_depth (s : Surround) (o : LoaderOptions) (source : DocumentSource) (depth : Nat) :
    loadDocument s { o with depth } source = loadWith s o (bundleFrom s o limit depth) source := by
  rw [load_with_bundle, bundle_depth, bundle_from_limit]
  rfl

theorem load_ends (used : Used s o l) (confined : Confined s o source l reach places) :
    Ends s o source l := by
  have settles : Settles (fun below depth => loadWith s o (bundleFrom s o below depth) source) l := by
    cases opened : (openDocument s o source).run.run l with
    | mk result l₁ =>
    cases result with
    | error f =>
        refine ⟨0, fun more _ below => ?_⟩
        unfold loadWith
        rw [run_bind, run_bind, opened]
    | ok first =>
        obtain ⟨location, content⟩ := first
        obtain ⟨inside, stays⟩ := confined.start location content l₁ opened
        have ready := opened_ready (housed_used used) opened inside stays
        obtain ⟨depth, same⟩ := settles_bind
          (bundle_settles confined.closed confined.finite true location content _ ready)
          fun _ root _ _ => settles_const (complete root)
        refine ⟨depth, fun more enough below => ?_⟩
        rw [load_with_run opened, load_with_run opened, same more enough below]
  obtain ⟨depth, same⟩ := settles
  exact ⟨depth, fun more enough below => by rw [load_at_depth, same more enough below]⟩

end Load

end Loading

end ApiSchema
