import ApiSchema.Proofs.Document.Walk
import ApiSchema.Proofs.OpenApi.Gathering

/-!
Gathering as a walk through the composition of an object.

The members of a node are its successors, and those of `anyOf` are marked. What is gathered comes about
in events; apart from their order, these are the events of the nodes along the trails of the walk, and
the last of them are those of the node where it starts.
-/

namespace ApiSchema.OpenApi

open Walk

section Joins

variable (d : Document) (n : Nat)

def fieldsAt : Entries := (d.graph.entries? (.node n)).getD []

def mapNumber? (g : Graph) : Item → Option Nat
  | .node n => if g.isMap (.node n) then some n else none
  | .scalar _ => none

def joined (marked : Bool) (members : List Item) : List (Bool × Nat) :=
  members.filterMap fun member => (mapNumber? d.graph (target d member)).map (marked, ·)

def joins : List (Bool × Nat) :=
  joined d false (membersOf d.graph (fieldsAt d n) "allOf") ++
    joined d true (membersOf d.graph (fieldsAt d n) "anyOf")

def lostMember (composition : String) (member : Item) : NodeIssue :=
  let reference := ((d.graph.entries? member).map (fieldOf · "$ref")).getD member
  .unresolved (d.graph.value reference).display (some (composition ++ " member not found"))

def lostAmong (composition : String) (members : List Item) : List NodeIssue :=
  (members.filter fun member => !d.graph.isMap (target d member)).map (lostMember d composition)

def lostMembers : List NodeIssue :=
  lostAmong d "allOf" (membersOf d.graph (fieldsAt d n) "allOf") ++
    lostAmong d "anyOf" (membersOf d.graph (fieldsAt d n) "anyOf")

def ownDeclared : Entries :=
  (entriesOrNone d.graph (fieldOf (fieldsAt d n) "properties")).toOption.getD []

def ownRequired : List Item := membersOf d.graph (fieldsAt d n) "required"

end Joins

structure Stop where
  trail : Trail
  owner : String

inductive Event where
  | enter (n : Nat)
  | lost (issue : NodeIssue)
  | declare (owner : String) (key : Scalar) (node : Item)
  | demand (names : List Item)

def Stop.own (d : Document) (root : Nat) (stop : Stop) : List Event :=
  let n := last root stop.trail
  (ownDeclared d n).map (fun entry => .declare stop.owner entry.1 entry.2) ++
    [.demand (if Marked stop.trail then [] else ownRequired d n)]

def Stop.events (d : Document) (root : Nat) (stop : Stop) : List Event :=
  let n := last root stop.trail
  .enter n :: (lostMembers d n).map .lost ++ stop.own d root

inductive Occurs (s : Scope) (convert : Convert) :
    Event → Gathered → Context → Gathered → Context → Prop where
  | enter {n : Nat} {g : Gathered} {c : Context} :
      Occurs s convert (.enter n) g c { g with seen := n :: g.seen } c
  | lost {issue : NodeIssue} {g : Gathered} {c : Context} :
      Occurs s convert (.lost issue) g c g (c.record issue)
  | declare {owner : String} {key : Scalar} {node : Item} {p : Property} {g : Gathered} {c c' : Context}
      (made : Gives (propertyOf s convert owner key node) c p c') :
      Occurs s convert (.declare owner key node) g c
        { g with properties := insertEntry g.properties key p } c'
  | demand {names : List Item} {g : Gathered} {c : Context} :
      Occurs s convert (.demand names) g c (names.foldl (addRequired s.graph) g) c

/-- Events happen one after the other; warnings may come between them. -/
inductive Happens (s : Scope) (convert : Convert) :
    List Event → Gathered → Context → Gathered → Context → Prop where
  | nil {g : Gathered} {c : Context} : Happens s convert [] g c g c
  | cons {event : Event} {rest : List Event} {g g₁ g' : Gathered} {c c₁ c' : Context}
      (occurs : Occurs s convert event g c g₁ c₁) (later : Happens s convert rest g₁ c₁ g' c') :
      Happens s convert (event :: rest) g c g' c'
  | warned {message : String} {events : List Event} {g g' : Gathered} {c c' : Context}
      (later : Happens s convert events g (c.warn message) g' c') : Happens s convert events g c g' c'

structure Stage where
  met : List Trail
  sofar : Gathered
  context : Context

def Stage.Sound (root : Nat) (stage : Stage) : Prop := stage.sofar.seen = stage.met.map (last root)

/-- The walk goes through a stack of trails, with the events of the nodes that it enters and some
more. -/
structure Followed (s : Scope) (convert : Convert) (root : Nat) (stack : List Trail) (more : List Event)
    (a b : Stage) : Prop where
  walks : Walks (joins s.document) root stack a.met b.met
  sound : b.Sound root
  events : ∃ (stops : List Stop) (events : List Event), b.met = stops.map Stop.trail ++ a.met ∧
    Happens s convert events a.sofar a.context b.sofar b.context ∧
      events.Perm (more ++ stops.flatMap (Stop.events s.document root))

variable {s : Scope} {convert : Convert} {root : Nat}

theorem happens_append {first second : List Event} {g g₁ g' : Gathered} {c c₁ c' : Context}
    (before : Happens s convert first g c g₁ c₁) (after : Happens s convert second g₁ c₁ g' c') :
    Happens s convert (first ++ second) g c g' c' := by
  induction before with
  | nil => exact after
  | cons occurs later ih => exact .cons occurs (ih after)
  | warned later ih => exact .warned (ih after)

theorem followed_same {stage : Stage} (sound : stage.Sound root) :
    Followed s convert root [] [] stage stage where
  walks := .done _
  sound := sound
  events := ⟨[], [], rfl, .nil, .refl _⟩

theorem followed_trans {stack stack' : List Trail} {more more' : List Event} {a b c : Stage}
    (first : Followed s convert root stack more a b)
    (second : Followed s convert root stack' more' b c) :
    Followed s convert root (stack ++ stack') (more ++ more') a c where
  walks := walks_append first.walks second.walks
  sound := second.sound
  events := by
    obtain ⟨stops, events, met, happens, perm⟩ := first.events
    obtain ⟨stops', events', met', happens', perm'⟩ := second.events
    refine ⟨stops' ++ stops, events ++ events', ?_, happens_append happens happens', ?_⟩
    · rw [met', met, List.map_append, List.append_assoc]
    · refine (perm.append perm').trans ?_
      rw [List.flatMap_append, List.append_assoc, List.append_assoc]
      -- The later stops come first, the events of the earlier ones too.
      exact ((List.perm_append_comm_assoc ..).trans (List.perm_append_comm.append_left _)).append_left _

def Tracks (s : Scope) (convert : Convert) (root : Nat) (gather : Gather) : Prop :=
  ∀ (t : Trail) (n : Nat) (owner : String) (optional : Bool) (a : Stage)
    (result : Gathered × Option String) (c : Context), last root t = n →
    s.graph.isMap (.node n) = true → (optional = true ↔ Marked t) → a.Sound root →
    Gives (gather (.node n) owner optional a.sofar) a.context result c →
    ∃ met, Followed s convert root [t] [] a ⟨met, result.1, c⟩

section Members

variable {gather : Gather} {t : Trail} {marked : Bool} {owner composition : String} {optional : Bool}

theorem map_number {g : Graph} {item : Item} (map : g.isMap item = true) :
    ∃ n, item = .node n ∧ mapNumber? g item = some n := by
  cases item with
  | scalar a => simp [Graph.isMap, Graph.entries?, Graph.of?] at map
  | node n => exact ⟨n, rfl, if_pos map⟩

theorem joined_map {d : Document} {member : Item} {n : Nat} (members : List Item)
    (number : mapNumber? d.graph (target d member) = some n) :
    joined d marked (member :: members) = (marked, n) :: joined d marked members :=
  List.filterMap_cons_some (by rw [number]; rfl)

theorem joined_other {d : Document} {member : Item} (members : List Item)
    (other : d.graph.isMap (target d member) = false) :
    joined d marked (member :: members) = joined d marked members := by
  refine List.filterMap_cons_none ?_
  cases same : target d member with
  | scalar a => rfl
  | node n =>
      rw [same] at other
      simp [mapNumber?, other]

theorem lost_map {d : Document} {member : Item} (members : List Item)
    (map : d.graph.isMap (target d member) = true) :
    lostAmong d composition (member :: members) = lostAmong d composition members := by
  simp [lostAmong, map]

theorem lost_other {d : Document} {member : Item} (members : List Item)
    (other : d.graph.isMap (target d member) = false) :
    lostAmong d composition (member :: members) =
      lostMember d composition member :: lostAmong d composition members := by
  simp [lostAmong, other]

theorem member_cases {member : Item × Nat} {state result : Gathered × Option String} {c c' : Context}
    (gives : Gives (gatherMember s gather owner composition optional state member) c result c') :
    (∃ inner reached, s.graph.isMap (target s.document member.1) = true ∧ result.1 = reached.1 ∧
      Gives (gather (target s.document member.1) inner optional state.1) c reached c') ∨
    s.graph.isMap (target s.document member.1) = false ∧ result.1 = state.1 ∧
      c' = c.record (lostMember s.document composition member.1) := by
  unfold gatherMember at gives
  extract_lets g fields node at gives
  cases map : g.isMap node with
  | true =>
      simp only [map, if_true] at gives
      obtain ⟨inner, _, gives⟩ := gives_of_except_bind.mp gives
      obtain ⟨reached, _, gathered, gives⟩ := gives_bind.mp gives
      obtain ⟨rfl, rfl⟩ := gives_pure.mp gives
      exact .inl ⟨inner, reached, rfl, rfl, gathered⟩
  | false =>
      simp only [map, Bool.false_eq_true, if_false] at gives
      obtain ⟨_, _, recorded, gives⟩ := gives_bind.mp gives
      obtain ⟨rfl, rfl⟩ := gives_pure.mp gives
      obtain ⟨issue, said, recorded⟩ := note_issue_gives.mp recorded
      rw [broken_reference_ok said] at recorded
      exact .inr ⟨rfl, rfl, recorded⟩

theorem members_followed (tracks : Tracks s convert root gather) (t : Trail) (marked : Bool)
    (way : optional = true ↔ Marked t ∨ marked = true) (members : List Item) (index front : Nat)
    {found : Option String} {result : Gathered × Option String} {a : Stage} {c : Context}
    (sound : a.Sound root)
    (gives : Gives ((members.zipIdx index).foldlM (gatherMember s gather owner composition optional)
      (a.sofar, found)) a.context result c) :
    ∃ met, Followed s convert root (onward t (stepsFrom front (joined s.document marked members)))
      ((lostAmong s.document composition members).map .lost) a ⟨met, result.1, c⟩ := by
  induction members generalizing index front found a with
  | nil =>
      obtain ⟨rfl, rfl⟩ := gives_pure.mp gives
      exact ⟨a.met, followed_same sound⟩
  | cons member rest ih =>
      rw [List.zipIdx_cons, List.foldlM_cons] at gives
      obtain ⟨⟨sofar, found'⟩, c₁, one, gives⟩ := gives_bind.mp gives
      obtain ⟨inner, reached, map, same, gathered⟩ | ⟨other, same, recorded⟩ := member_cases one
      · obtain ⟨n, led, number⟩ := map_number map
        rw [led] at map gathered
        obtain ⟨met, first⟩ := tracks (t ++ [⟨front, marked, n⟩]) n inner optional a reached c₁ last_on
          map (by rw [marked_on]; exact way) sound gathered
        rw [← same] at first
        obtain ⟨met', second⟩ := ih (index + 1) (front + 1) first.sound gives
        rw [joined_map rest number, lost_map rest (led ▸ map)]
        exact ⟨met', followed_trans first second⟩
      · rw [joined_other rest other, lost_other rest other]
        obtain rfl : sofar = a.sofar := same
        have first : Followed s convert root [] [.lost (lostMember s.document composition member)] a
            ⟨a.met, a.sofar, c₁⟩ :=
          ⟨.done _, sound, [], _, rfl, .cons (recorded ▸ .lost) .nil, .refl _⟩
        obtain ⟨met, second⟩ := ih (index + 1) front first.sound gives
        exact ⟨met, followed_trans first second⟩

end Members

section Fields

variable {gather : Gather} {t : Trail} {n : Nat} {owner : String} {optional : Bool} {entries : Entries}

theorem own_happens {own : Entries} {sofar g : Gathered} {c c' : Context}
    (gives : Gives (ownProperties s convert owner sofar own) c g c') :
    Happens s convert (own.map fun entry => .declare owner entry.1 entry.2) sofar c g c' := by
  induction own generalizing sofar c with
  | nil =>
      obtain ⟨rfl, rfl⟩ := gives_pure.mp gives
      exact .nil
  | cons entry rest ih =>
      obtain ⟨key, node⟩ := entry
      obtain ⟨p, _, made, gives⟩ := gives_bind.mp gives
      exact .cons (.declare made) (ih gives)

theorem discriminator_happens {fields : Entries} {g : Gathered} {c c' : Context}
    (gives : Gives (discriminatorOf s.graph entries owner) c fields c') :
    Happens s convert [] g c g c' := by
  unfold discriminatorOf at gives
  simp only at gives
  split at gives
  · obtain ⟨_, rfl⟩ := gives_pure.mp gives
    exact .nil
  · split at gives
    · obtain ⟨_, _, warned, gives⟩ := gives_bind.mp gives
      obtain ⟨_, rfl⟩ := gives_pure.mp gives
      obtain ⟨_, _, rfl⟩ := warn_of_gives.mp warned
      exact .warned .nil
    · obtain ⟨_, rfl⟩ := gives_pure.mp gives
      exact .nil

theorem steps_append (front : Nat) (edges more : List (Bool × Nat)) :
    stepsFrom front (edges ++ more) =
      stepsFrom front edges ++ stepsFrom (front + edges.length) more := by
  simp [stepsFrom, List.zipIdx_append]

theorem fields_at {d : Document} (map : d.graph.entries? (.node n) = some entries) :
    fieldsAt d n = entries := by
  rw [fieldsAt, map]
  rfl

theorem members_read {d : Document} {name : String} {items : List Item}
    (map : d.graph.entries? (.node n) = some entries)
    (read : itemsOrNone d.graph (fieldOf entries name) = .ok items) :
    membersOf d.graph (fieldsAt d n) name = items := by
  rw [fields_at map, membersOf, read]
  rfl

theorem own_read {d : Document} {own : Entries} (map : d.graph.entries? (.node n) = some entries)
    (read : entriesOrNone d.graph (fieldOf entries "properties") = .ok own) :
    ownDeclared d n = own := by
  rw [ownDeclared, fields_at map, read]
  rfl

theorem demanded_read {d : Document} {names : List Item} (map : d.graph.entries? (.node n) = some entries)
    (way : optional = true ↔ Marked t) (read : demandedNames d.graph entries optional = .ok names) :
    (if Marked t then [] else ownRequired d n) = names := by
  cases optional with
  | true =>
      cases read
      exact if_pos (way.mp rfl)
  | false => rw [if_neg (fun marked => by cases way.mpr marked), ownRequired, members_read map read]

theorem fields_followed (tracks : Tracks s convert root gather)
    (map : s.document.graph.entries? (.node n) = some entries) (ends : last root t = n)
    (way : optional = true ↔ Marked t) {a : Stage} {result : Gathered × Option String} {c' : Context}
    (sound : a.Sound root)
    (gives : Gives (gatherFields s convert gather entries owner optional a.sofar) a.context result c') :
    ∃ b : Stage, Followed s convert root (onward t (stepsAfter (joins s.document) root t))
        ((lostMembers s.document n).map .lost) a b ∧
      Happens s convert (Stop.own s.document root ⟨t, owner⟩) b.sofar b.context result.1 c' ∧
        result.1.seen = b.sofar.seen := by
  unfold gatherFields at gives
  obtain ⟨all, readAll, gives⟩ := gives_of_except_bind.mp gives
  obtain ⟨state, c₁, first, gives⟩ := gives_bind.mp gives
  obtain ⟨any, readAny, gives⟩ := gives_of_except_bind.mp gives
  obtain ⟨state', c₂, second, gives⟩ := gives_bind.mp gives
  obtain ⟨own, readOwn, gives⟩ := gives_of_except_bind.mp gives
  obtain ⟨declared, c₃, properties, gives⟩ := gives_bind.mp gives
  -- The members of `allOf` are met first, unmarked, then those of `anyOf`, and what the node declares
  -- itself last.
  obtain ⟨met, one⟩ := members_followed tracks t false (by simpa using way) all 0 0 sound first
  obtain ⟨met', two⟩ := members_followed tracks t true (by simp) any 0
    (0 + (joined s.document false all).length) one.sound second
  obtain ⟨names, readNames, gives⟩ := gives_of_except_bind.mp gives
  obtain ⟨fields, c₄, warned, gives⟩ := gives_bind.mp gives
  have same : result.1 = names.foldl (addRequired s.graph) declared ∧ c' = c₄ := by
    split at gives
    all_goals
      obtain ⟨rfl, rfl⟩ := gives_pure.mp gives
      exact ⟨rfl, rfl⟩
  refine ⟨⟨met', state'.1, c₂⟩, ?_, ?_⟩
  · rw [stepsAfter, ends, joins, lostMembers, members_read map readAll, members_read map readAny,
      steps_append, onward, List.map_append, List.map_append]
    exact followed_trans one two
  · have demands : Happens s convert [.demand names] declared c₃
        (names.foldl (addRequired s.graph) declared) c₄ :=
      .cons .demand (discriminator_happens warned)
    have declares := own_happens properties
    rw [← own_read map readOwn] at declares
    rw [same.1, same.2]
    refine ⟨?_, (required_seen s.graph names declared).trans (own_properties_seen own properties)⟩
    rw [Stop.own, ends, demanded_read map way readNames]
    exact happens_append declares demands

theorem known_followed {a : Stage} (sound : a.Sound root) (known : last root t ∈ a.sofar.seen) :
    Followed s convert root [t] [] a a where
  walks := .again (sound ▸ known) (.done _)
  sound := sound
  events := ⟨[], [], rfl, .nil, .refl _⟩

-- What a node declares itself comes last of all that happens when it is entered.
theorem enter_events {a b : Stage} {g : Gathered} {c : Context} {stack : List Trail}
    (ends : last root t = n)
    (inner : Followed s convert root stack ((lostMembers s.document n).map .lost)
      ⟨t :: a.met, { a.sofar with seen := n :: a.sofar.seen }, a.context⟩ b)
    (own : Happens s convert (Stop.own s.document root ⟨t, owner⟩) b.sofar b.context g c) :
    ∃ (stops : List Stop) (front : List Event),
      b.met = (stops ++ [(⟨t, owner⟩ : Stop)]).map Stop.trail ++ a.met ∧
      Happens s convert (front ++ Stop.own s.document root ⟨t, owner⟩) a.sofar a.context g c ∧
      (front ++ Stop.own s.document root ⟨t, owner⟩).Perm
        ((stops ++ [(⟨t, owner⟩ : Stop)]).flatMap (Stop.events s.document root)) := by
  obtain ⟨stops, events, met, happens, perm⟩ := inner.events
  refine ⟨stops, .enter n :: events, ?_, .cons .enter (happens_append happens own), ?_⟩
  · rw [met, List.map_append, List.append_assoc]
    rfl
  · have lost := (perm.trans List.perm_append_comm).append_right (Stop.own s.document root ⟨t, owner⟩)
    rw [List.append_assoc] at lost
    have events : Stop.events s.document root ⟨t, owner⟩ =
        .enter n :: ((lostMembers s.document n).map .lost ++ Stop.own s.document root ⟨t, owner⟩) := by
      rw [Stop.events, ends]
      rfl
    rw [List.flatMap_append, List.flatMap_singleton, events]
    exact (lost.cons _).trans List.perm_middle.symm

theorem enter_followed {a b : Stage} {g : Gathered} {c : Context} (sound : a.Sound root)
    (ends : last root t = n) (new : n ∉ a.sofar.seen)
    (inner : Followed s convert root (onward t (stepsAfter (joins s.document) root t))
      ((lostMembers s.document n).map .lost)
      ⟨t :: a.met, { a.sofar with seen := n :: a.sofar.seen }, a.context⟩ b)
    (own : Happens s convert (Stop.own s.document root ⟨t, owner⟩) b.sofar b.context g c)
    (same : g.seen = b.sofar.seen) : Followed s convert root [t] [] a ⟨b.met, g, c⟩ where
  walks := by
    refine .enter (fun known => new ?_) (by rw [List.append_nil]; exact inner.walks)
    rw [← ends, sound]
    exact known
  sound := same.trans inner.sound
  events := by
    obtain ⟨stops, front, met, happens, perm⟩ := enter_events ends inner own
    exact ⟨_, _, met, happens, perm⟩

-- The bottom gives nothing, so what gives a result has not come down to it.
theorem gather_from_tracks (s : Scope) (convert : Convert) (root fuel : Nat) :
    Tracks s convert root (gatherFrom s convert (fun _ _ _ _ => throw (.misuse .depth)) fuel) := by
  induction fuel with
  | zero => exact fun _ _ _ _ _ _ _ _ _ _ _ gives => absurd gives gives_throw
  | succ fuel ih =>
      intro t n owner optional a result c ends map way sound gives
      obtain ⟨entries, read⟩ := Option.isSome_iff_exists.mp map
      unfold gatherFrom at gives
      simp only [read] at gives
      by_cases known : n ∈ a.sofar.seen
      · simp only [List.contains_iff_mem.mpr known, if_true] at gives
        obtain ⟨rfl, rfl⟩ := gives_pure.mp gives
        exact ⟨a.met, known_followed sound (ends ▸ known)⟩
      · simp only [List.contains_iff_mem, known, if_false] at gives
        have entered : Stage.Sound root
            ⟨t :: a.met, { a.sofar with seen := n :: a.sofar.seen }, a.context⟩ := by
          rw [Stage.Sound, List.map_cons, ends, ← sound]
        obtain ⟨b, inner, own, same⟩ := fields_followed ih read ends way entered gives
        exact ⟨b.met, enter_followed sound ends known inner own same⟩

-- All that happens when an object is gathered: the walk from its node, with the events of every
-- stop, of which those of the node itself come last.
theorem gather_walked {result : Gathered × Option String} {c c' : Context}
    (map : s.graph.entries? (.node n) = some entries)
    (gives : Gives (OpenApi.gather s convert (s.graph.size + 1) (.node n) owner false {}) c result c') :
    ∃ (stops : List Stop) (front : List Event),
      Walks (joins s.document) n [[]] [] ((stops ++ [(⟨[], owner⟩ : Stop)]).map Stop.trail) ∧
      Happens s convert (front ++ Stop.own s.document n ⟨[], owner⟩) {} c result.1 c' ∧
      (front ++ Stop.own s.document n ⟨[], owner⟩).Perm
        ((stops ++ [(⟨[], owner⟩ : Stop)]).flatMap (Stop.events s.document n)) := by
  have same := (gather_ends s convert (fun _ _ _ _ => throw (.misuse .depth)) (.node n) owner false).1
  rw [← same] at gives
  unfold gatherFrom at gives
  simp only [map] at gives
  have fresh : ({} : Gathered).seen.contains n = false := rfl
  simp only [fresh, Bool.false_eq_true, if_false] at gives
  have sound : Stage.Sound n ⟨[], {}, c⟩ := rfl
  have entered : Stage.Sound n ⟨[[]], { ({} : Gathered) with seen := [n] }, c⟩ := rfl
  obtain ⟨b, inner, own, seen⟩ := fields_followed (gather_from_tracks s convert n s.graph.size) map
    (t := []) rfl (by simp [Marked]) entered gives
  have starts : last n [] = n := rfl
  obtain ⟨stops, front, met, happens, perm⟩ := enter_events (a := ⟨[], {}, c⟩) starts inner own
  have walks := (enter_followed sound starts (by simp) inner own seen).walks
  rw [met, List.append_nil] at walks
  exact ⟨stops, front, walks, happens, perm⟩

end Fields

end ApiSchema.OpenApi
