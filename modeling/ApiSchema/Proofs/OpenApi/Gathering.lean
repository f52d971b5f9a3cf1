import ApiSchema.Proofs.OpenApi.Builders
import Mathlib.Data.List.Nodup

namespace ApiSchema.OpenApi

theorem entries_cell {g : Graph} {item : Item} {entries : Entries} (map : g.entries? item = some entries) :
    ∃ n, item = .node n ∧ g.cell? n = some (.map entries) := by
  cases item with
  | scalar s => simp [Graph.entries?, Graph.of?] at map
  | node n =>
      refine ⟨n, rfl, ?_⟩
      simp only [Graph.entries?, Graph.of?] at map
      split at map
      next found =>
        cases map
        exact found
      · cases map

section Chains

variable {d : Document}

inductive Chases (d : Document) : List String → Item → List String → Item → Prop where
  | ends {seen : List String} {item : Item} (plain : referenceOf? d.graph item = none) :
      Chases d seen item [] item
  | again {seen : List String} {item : Item} {reference : String}
      (refers : referenceOf? d.graph item = some reference) (circular : reference ∈ seen) :
      Chases d seen item [] .null
  | lost {seen : List String} {item : Item} {reference : String}
      (refers : referenceOf? d.graph item = some reference) (new : reference ∉ seen)
      (missing : localTarget? d reference = none) : Chases d seen item [reference] .null
  | on {seen others : List String} {item next last : Item} {reference : String}
      (refers : referenceOf? d.graph item = some reference) (new : reference ∉ seen)
      (leads : localTarget? d reference = some next)
      (rest : Chases d (reference :: seen) next others last) :
      Chases d seen item (reference :: others) last

theorem chases_distinct {seen references : List String} {item last : Item}
    (chases : Chases d seen item references last) :
    references.Nodup ∧ ∀ reference ∈ references, reference ∉ seen := by
  induction chases with
  | ends | again => exact ⟨.nil, fun _ none => by cases none⟩
  | lost refers new missing => exact ⟨List.nodup_singleton _, by simpa using new⟩
  | on refers new leads rest ih =>
      obtain ⟨distinct, apart⟩ := ih
      refine ⟨List.nodup_cons.mpr ⟨fun again => apart _ again (by simp), distinct⟩, fun r member => ?_⟩
      obtain rfl | later := List.mem_cons.mp member
      · exact new
      · exact fun seen => apart r later (List.mem_cons_of_mem _ seen)

def unfollowed (d : Document) (seen : List String) : Nat :=
  ((List.range d.graph.size).filter fun n =>
    (referenceOf? d.graph (.node n)).any fun reference => !seen.contains reference).length

theorem unfollowed_less {seen : List String} {item : Item} {reference : String}
    (refers : referenceOf? d.graph item = some reference) (new : reference ∉ seen) :
    unfollowed d (reference :: seen) < unfollowed d seen := by
  obtain ⟨entries, map, said⟩ := Option.bind_eq_some_iff.mp refers
  obtain ⟨n, rfl, held⟩ := entries_cell map
  have inside : n ∈ List.range d.graph.size :=
    List.mem_range.mpr (Array.getElem?_eq_some_iff.mp held).1
  refine filter_fewer (fun m later => ?_) inside (by simp [refers, new]) (by simp [refers])
  cases named : referenceOf? d.graph (.node m) with
  | none => simp [named] at later
  | some other =>
      have apart : other ∉ reference :: seen := by simpa [named] using later
      have apart' : other ∉ seen := fun member => apart (List.mem_cons_of_mem _ member)
      simpa using apart'

theorem follow_chases (fuel : Nat) (seen : List String) (item : Item)
    (enough : unfollowed d seen ≤ fuel) :
    ∃ references, Chases d seen item references (followWithin d fuel seen item) := by
  induction fuel generalizing seen item with
  | zero =>
      cases refers : referenceOf? d.graph item with
      | none =>
          have same : followWithin d 0 seen item = item := by simp [followWithin, refers]
          exact ⟨[], by rw [same]; exact .ends refers⟩
      | some reference =>
          have same : followWithin d 0 seen item = .null := by simp [followWithin, refers]
          by_cases circular : reference ∈ seen
          · exact ⟨[], by rw [same]; exact .again refers circular⟩
          · have fewer := unfollowed_less refers circular
            omega
  | succ fuel ih =>
      cases refers : referenceOf? d.graph item with
      | none =>
          have same : followWithin d (fuel + 1) seen item = item := by simp [followWithin, refers]
          exact ⟨[], by rw [same]; exact .ends refers⟩
      | some reference =>
          by_cases circular : reference ∈ seen
          · have same : followWithin d (fuel + 1) seen item = .null := by
              simp [followWithin, refers, circular]
            exact ⟨[], by rw [same]; exact .again refers circular⟩
          cases there : localTarget? d reference with
          | none =>
              have same : followWithin d (fuel + 1) seen item = .null := by
                simp [followWithin, refers, circular, there]
              exact ⟨[reference], by rw [same]; exact .lost refers circular there⟩
          | some next =>
              have same : followWithin d (fuel + 1) seen item =
                  followWithin d fuel (reference :: seen) next := by
                simp [followWithin, refers, circular, there]
              have fewer := unfollowed_less refers circular
              obtain ⟨others, rest⟩ := ih (reference :: seen) next (by omega)
              exact ⟨reference :: others, by rw [same]; exact .on refers circular there rest⟩

theorem target_chases (d : Document) (item : Item) :
    ∃ references, Chases d [] item references (target d item) ∧ references.Nodup := by
  have most : unfollowed d [] ≤ d.graph.size + 1 := by
    have count := List.length_filter_le (fun n =>
      (referenceOf? d.graph (.node n)).any fun reference => !([] : List String).contains reference)
      (List.range d.graph.size)
    rw [List.length_range] at count
    exact Nat.le_succ_of_le count
  obtain ⟨references, chases⟩ := follow_chases _ [] item most
  exact ⟨references, chases, (chases_distinct chases).1⟩

end Chains

section Gather

variable {s : Scope} {convert : Convert}

def gatherFrom (s : Scope) (convert : Convert) (bottom : Gather) : Nat → Gather
  | 0 => bottom
  | fuel + 1 => fun node owner optional sofar =>
    match node, s.graph.entries? node with
    | .node id, some entries =>
      if sofar.seen.contains id then return (sofar, none)
      else
        gatherFields s convert (gatherFrom s convert bottom fuel) entries owner optional
          { sofar with seen := id :: sofar.seen }
    | _, _ => return (sofar, none)

def Grown (a b : Gathered) : Prop :=
  (∃ visited, b.seen = visited ++ a.seen) ∧ (a.seen.Nodup → b.seen.Nodup)

theorem grown_same {a b : Gathered} (same : b.seen = a.seen) : Grown a b :=
  ⟨⟨[], same⟩, fun distinct => same ▸ distinct⟩

theorem grown_trans {a b c : Gathered} (first : Grown a b) (second : Grown b c) : Grown a c := by
  obtain ⟨⟨visited, same⟩, distinct⟩ := first
  obtain ⟨⟨others, same'⟩, distinct'⟩ := second
  exact ⟨⟨others ++ visited, by rw [same', same, List.append_assoc]⟩, fun once => distinct' (distinct once)⟩

theorem grown_visit {sofar : Gathered} {id : Nat} (new : id ∉ sofar.seen) :
    Grown sofar { sofar with seen := id :: sofar.seen } :=
  ⟨⟨[id], rfl⟩, fun distinct => List.nodup_cons.mpr ⟨new, distinct⟩⟩

section Grows

variable {gather : Gather} (grows : ∀ node owner optional sofar c result c',
  Gives (gather node owner optional sofar) c result c' → Grown sofar result.1)
include grows

theorem member_grows {owner composition : String} {optional : Bool} {state : Gathered × Option String}
    {member : Item × Nat} {c c' : Context} {result : Gathered × Option String}
    (gives : Gives (gatherMember s gather owner composition optional state member) c result c') :
    Grown state.1 result.1 := by
  unfold gatherMember at gives
  extract_lets g fields node at gives
  by_cases map : g.isMap node = true
  · simp only [map, if_true] at gives
    obtain ⟨inner, _, gives⟩ := gives_of_except_bind.mp gives
    obtain ⟨found, _, gathered, gives⟩ := gives_bind.mp gives
    obtain ⟨rfl, _⟩ := gives_pure.mp gives
    have grown := grows _ _ _ _ _ _ _ gathered
    exact grown
  · simp only [map, Bool.false_eq_true, if_false] at gives
    obtain ⟨_, _, _, gives⟩ := gives_bind.mp gives
    obtain ⟨rfl, _⟩ := gives_pure.mp gives
    exact grown_same rfl

theorem members_grow {owner composition : String} {optional : Bool} (members : List (Item × Nat))
    {state : Gathered × Option String} {c c' : Context} {result : Gathered × Option String}
    (gives : Gives (members.foldlM (gatherMember s gather owner composition optional) state)
      c result c') : Grown state.1 result.1 := by
  induction members generalizing state c with
  | nil =>
      obtain ⟨rfl, _⟩ := gives_pure.mp gives
      exact grown_same rfl
  | cons member rest ih =>
      rw [List.foldlM_cons] at gives
      obtain ⟨next, _, one, gives⟩ := gives_bind.mp gives
      exact grown_trans (member_grows grows one) (ih gives)

omit grows in
theorem own_properties_seen {owner : String} (own : Entries) {sofar : Gathered} {c c' : Context}
    {result : Gathered} (gives : Gives (ownProperties s convert owner sofar own) c result c') :
    result.seen = sofar.seen := by
  induction own generalizing sofar c with
  | nil =>
      obtain ⟨rfl, _⟩ := gives_pure.mp gives
      rfl
  | cons entry rest ih =>
      obtain ⟨name, node⟩ := entry
      obtain ⟨p, _, _, gives⟩ := gives_bind.mp gives
      have same := ih gives
      exact same

omit grows in
theorem required_seen (g : Graph) (names : List Item) (sofar : Gathered) :
    (names.foldl (addRequired g) sofar).seen = sofar.seen := by
  induction names generalizing sofar with
  | nil => rfl
  | cons name rest ih => exact ih _

theorem fields_grow {entries : Entries} {owner : String} {optional : Bool} {sofar : Gathered}
    {c c' : Context} {result : Gathered × Option String}
    (gives : Gives (gatherFields s convert gather entries owner optional sofar) c result c') :
    Grown sofar result.1 := by
  unfold gatherFields at gives
  obtain ⟨all, _, gives⟩ := gives_of_except_bind.mp gives
  obtain ⟨state, _, first, gives⟩ := gives_bind.mp gives
  obtain ⟨any, _, gives⟩ := gives_of_except_bind.mp gives
  obtain ⟨state', _, second, gives⟩ := gives_bind.mp gives
  obtain ⟨own, _, gives⟩ := gives_of_except_bind.mp gives
  obtain ⟨declared, _, properties, gives⟩ := gives_bind.mp gives
  have members := grown_trans (members_grow grows _ first) (members_grow grows _ second)
  refine grown_trans members (grown_same ?_)
  have kept := own_properties_seen own properties
  obtain ⟨names, _, gives⟩ := gives_of_except_bind.mp gives
  obtain ⟨fields, _, _, gives⟩ := gives_bind.mp gives
  split at gives
  all_goals
    obtain ⟨rfl, _⟩ := gives_pure.mp gives
    exact (required_seen s.graph names declared).trans kept

end Grows

theorem gather_grows (fuel : Nat) {node : Item} {owner : String} {optional : Bool} {sofar : Gathered}
    {c c' : Context} {result : Gathered × Option String}
    (gives : Gives (gather s convert fuel node owner optional sofar) c result c') :
    Grown sofar result.1 := by
  induction fuel generalizing node owner optional sofar c result c' with
  | zero =>
      obtain ⟨rfl, _⟩ := gives_pure.mp gives
      exact grown_same rfl
  | succ fuel ih =>
      unfold gather at gives
      cases node with
      | scalar a =>
          obtain ⟨rfl, _⟩ := gives_pure.mp gives
          exact grown_same rfl
      | node id =>
          cases map : s.graph.entries? (.node id) with
          | none =>
              simp only [map] at gives
              obtain ⟨rfl, _⟩ := gives_pure.mp gives
              exact grown_same rfl
          | some entries =>
              simp only [map] at gives
              by_cases visited : sofar.seen.contains id = true
              · simp only [visited, if_true] at gives
                obtain ⟨rfl, _⟩ := gives_pure.mp gives
                exact grown_same rfl
              · simp only [visited, Bool.false_eq_true, if_false] at gives
                exact grown_trans (grown_visit (by simpa using visited))
                  (fields_grow (fun _ _ _ _ _ _ _ => ih) gives)

section Agree

theorem bind_agree {α β : Type} {first : Conversion α} {rest rest' : α → Conversion β}
    (agree : ∀ c a c', Gives first c a c' → rest a = rest' a) : first >>= rest = first >>= rest' := by
  refine funext fun c => ?_
  change (first >>= rest).run.run c = (first >>= rest').run.run c
  rw [run_bind, run_bind]
  cases reached : first.run.run c with
  | mk answer c' =>
      cases answer with
      | error f => rfl
      | ok a => simp only [agree c a c' reached]

def unvisited (s : Scope) (sofar : Gathered) : Nat :=
  ((List.range s.graph.size).filter fun n => !sofar.seen.contains n).length

theorem unvisited_later {a b : Gathered} (grown : Grown a b) : unvisited s b ≤ unvisited s a := by
  obtain ⟨visited, same⟩ := grown.1
  refine List.Sublist.length_le (List.monotone_filter_right _ fun n new => ?_)
  have apart : n ∉ visited ++ a.seen := by simpa [same] using new
  simpa using fun member => apart (List.mem_append_right _ member)

theorem unvisited_less {sofar : Gathered} {id : Nat} {entries : Entries}
    (map : s.graph.entries? (.node id) = some entries) (new : id ∉ sofar.seen) :
    unvisited s { sofar with seen := id :: sofar.seen } < unvisited s sofar := by
  obtain ⟨_, same, held⟩ := entries_cell map
  cases same
  have inside : id ∈ List.range s.graph.size :=
    List.mem_range.mpr (Array.getElem?_eq_some_iff.mp held).1
  refine filter_fewer (fun m later => ?_) inside (by simpa using new) (by simp)
  have apart : m ∉ id :: sofar.seen := by simpa using later
  simpa using fun member => apart (List.mem_cons_of_mem _ member)

variable {gather gather' : Gather} {limit : Nat} (agree : ∀ node owner optional sofar,
  unvisited s sofar < limit → gather node owner optional sofar = gather' node owner optional sofar)
  (grows : ∀ node owner optional sofar c result c',
    Gives (gather' node owner optional sofar) c result c' → Grown sofar result.1)
include agree

theorem member_agrees {owner composition : String} {optional : Bool} {state : Gathered × Option String}
    {member : Item × Nat} (enough : unvisited s state.1 < limit) :
    gatherMember s gather owner composition optional state member =
      gatherMember s gather' owner composition optional state member := by
  unfold gatherMember
  simp only [agree _ _ _ _ enough]

include grows

theorem members_agree {owner composition : String} {optional : Bool} (members : List (Item × Nat))
    {state : Gathered × Option String} (enough : unvisited s state.1 < limit) :
    members.foldlM (gatherMember s gather owner composition optional) state =
      members.foldlM (gatherMember s gather' owner composition optional) state := by
  induction members generalizing state with
  | nil => rfl
  | cons member rest ih =>
      rw [List.foldlM_cons, List.foldlM_cons, member_agrees agree enough]
      refine bind_agree fun c next c' came => ih ?_
      exact Nat.lt_of_le_of_lt (unvisited_later (member_grows grows came)) enough

theorem fields_agree {entries : Entries} {owner : String} {optional : Bool} {sofar : Gathered}
    (enough : unvisited s sofar < limit) :
    gatherFields s convert gather entries owner optional sofar =
      gatherFields s convert gather' entries owner optional sofar := by
  unfold gatherFields
  refine bind_agree fun _ all _ _ => ?_
  rw [members_agree agree grows _ enough]
  refine bind_agree fun _ state _ first => bind_agree fun _ any _ _ => ?_
  rw [members_agree agree grows _ (Nat.lt_of_le_of_lt (unvisited_later (members_grow grows _ first)) enough)]

omit agree grows in
theorem gather_from_agrees (bottom : Gather) (fuel : Nat) {node : Item} {owner : String}
    {optional : Bool} {sofar : Gathered} (enough : unvisited s sofar < fuel) :
    gatherFrom s convert bottom fuel node owner optional sofar =
      OpenApi.gather s convert fuel node owner optional sofar := by
  induction fuel generalizing node owner optional sofar with
  | zero => omega
  | succ fuel ih =>
      unfold gatherFrom OpenApi.gather
      cases node with
      | scalar a => rfl
      | node id =>
          cases map : s.graph.entries? (.node id) with
          | none => rfl
          | some entries =>
              by_cases visited : sofar.seen.contains id = true
              · simp only [visited, if_true]
              · simp only [visited, Bool.false_eq_true, if_false]
                refine fields_agree (fun _ _ _ _ => ih) (fun _ _ _ _ _ _ _ => gather_grows fuel) ?_
                have fewer := unvisited_less map (by simpa using visited)
                omega

end Agree

-- The bound is never reached, and every node is visited once.
theorem gather_ends (s : Scope) (convert : Convert) (bottom : Gather) (node : Item) (owner : String)
    (optional : Bool) :
    gatherFrom s convert bottom (s.graph.size + 1) node owner optional {} =
        gather s convert (s.graph.size + 1) node owner optional {} ∧
      ∀ c result c', Gives (gather s convert (s.graph.size + 1) node owner optional {}) c result c' →
        result.1.seen.Nodup := by
  refine ⟨gather_from_agrees bottom _ ?_, fun c result c' gives => (gather_grows _ gives).2 .nil⟩
  have count := List.length_filter_le (fun n => !({} : Gathered).seen.contains n)
    (List.range s.graph.size)
  rw [List.length_range] at count
  exact Nat.lt_succ_of_le count

end Gather

end ApiSchema.OpenApi
