import Mathlib.Data.List.Lex
import Mathlib.Data.List.Infix
import Mathlib.Data.List.Nodup
import Mathlib.Logic.Relation

/-!
Walks that go down before they go on, and visit every node once.

The nodes are entered along trails, in the order of the places that a trail takes among the successors
of its nodes. So a node is entered along the first of the trails that lead to it and pass no node
twice, and all that a node is entered with is what that trail passes.
-/

namespace ApiSchema.Walk

structure Step where
  place : Nat
  marked : Bool
  node : Nat
deriving DecidableEq

abbrev Trail := List Step

def places (t : Trail) : List Nat := t.map (·.place)

def Marked (t : Trail) : Prop := ∃ step ∈ t, step.marked = true

instance (t : Trail) : Decidable (Marked t) :=
  inferInstanceAs (Decidable (∃ step ∈ t, step.marked = true))

variable (next : Nat → List (Bool × Nat)) (root : Nat)

def last (t : Trail) : Nat := (t.getLast?.map (·.node)).getD root

def stepsFrom (front : Nat) (edges : List (Bool × Nat)) : List Step :=
  (edges.zipIdx front).map fun entry => ⟨entry.2, entry.1.1, entry.1.2⟩

def onward (t : Trail) (steps : List Step) : List Trail := steps.map fun step => t ++ [step]

def stepsAfter (t : Trail) : List Step := stepsFrom 0 (next (last root t))

inductive Leads : Trail → Prop where
  | start : Leads []
  | on {t : Trail} {step : Step} (leads : Leads t) (there : step ∈ stepsAfter next root t) :
      Leads (t ++ [step])

def Simple (t : Trail) : Prop := (root :: t.map (·.node)).Nodup

-- Trails that pass a node twice do not count: a walk never takes them.
structure First (t : Trail) : Prop where
  leads : Leads next root t
  simple : Simple root t
  least : ∀ u, Leads next root u → Simple root u → last root u = last root t → places t ≤ places u

/-- A walk: the trails that are left to go, those along which nodes have been entered, and those in
the end. -/
inductive Walks : List Trail → List Trail → List Trail → Prop where
  | done (met : List Trail) : Walks [] met met
  | again {t : Trail} {rest met met' : List Trail} (known : last root t ∈ met.map (last root))
      (walks : Walks rest met met') : Walks (t :: rest) met met'
  | enter {t : Trail} {rest met met' : List Trail} (new : last root t ∉ met.map (last root))
      (walks : Walks (onward t (stepsAfter next root t) ++ rest) (t :: met) met') :
      Walks (t :: rest) met met'

section Places

/-- Places that part at some point, the first to the left of the second. -/
def Parts (p q : List Nat) : Prop :=
  ∃ front i j x y, p = front ++ i :: x ∧ q = front ++ j :: y ∧ i < j

theorem parts_append {p q : List Nat} (parts : Parts p q) (x y : List Nat) :
    Parts (p ++ x) (q ++ y) := by
  obtain ⟨front, i, j, x', y', rfl, rfl, less⟩ := parts
  exact ⟨front, i, j, x' ++ x, y' ++ y, by simp, by simp, less⟩

theorem parts_less {p q : List Nat} (parts : Parts p q) : p < q := by
  obtain ⟨front, i, j, x, y, rfl, rfl, less⟩ := parts
  exact List.Lex.append_left _ (List.Lex.rel less) front

theorem prefix_less {p q : List Nat} (pre : p <+: q) (proper : p ≠ q) : p < q := by
  obtain ⟨rest, rfl⟩ := pre
  cases rest with
  | nil => simp at proper
  | cons i rest =>
      have less : List.Lex (· < ·) (p ++ []) (p ++ i :: rest) :=
        List.Lex.append_left _ List.Lex.nil p
      rwa [List.append_nil] at less

theorem less_parts {p q : List Nat} (less : p < q) : Parts p q ∨ p <+: q := by
  change List.Lex (· < ·) p q at less
  induction less with
  | nil => exact .inr (List.nil_prefix)
  | rel below => exact .inl ⟨[], _, _, _, _, rfl, rfl, below⟩
  | @cons i p q _ ih =>
      obtain ⟨front, a, b, x, y, rfl, rfl, below⟩ | pre := ih
      · exact .inl ⟨i :: front, a, b, x, y, rfl, rfl, below⟩
      · exact .inr (List.cons_prefix_cons.mpr ⟨rfl, pre⟩)

end Places

variable {next root} {t u : Trail} {step : Step} {stack met met' : List Trail}

section Trails

@[simp] theorem last_start : last root [] = root := rfl

@[simp] theorem last_on : last root (t ++ [step]) = step.node := by simp [last]

@[simp] theorem places_on : places (t ++ [step]) = places t ++ [step.place] := by simp [places]

theorem marked_on : Marked (t ++ [step]) ↔ Marked t ∨ step.marked = true := by
  simp [Marked, or_and_right, exists_or]

theorem simple_on : Simple root (t ++ [step]) ↔
    Simple root t ∧ step.node ∉ root :: t.map (·.node) := by
  unfold Simple
  rw [List.map_append, ← List.cons_append, List.map_singleton, List.nodup_append_comm,
    List.singleton_append, List.nodup_cons, and_comm]

theorem passed_prefix {n : Nat} (member : n ∈ root :: t.map (·.node)) :
    ∃ u, u <+: t ∧ last root u = n := by
  induction t using List.reverseRecOn with
  | nil => exact ⟨[], List.prefix_rfl, (List.mem_singleton.mp member).symm⟩
  | append_singleton t step ih =>
      rw [List.map_append, ← List.cons_append] at member
      obtain front | now := List.mem_append.mp member
      · obtain ⟨u, pre, ends⟩ := ih front
        exact ⟨u, pre.trans (List.prefix_append ..), ends⟩
      · exact ⟨_, List.prefix_rfl, last_on.trans (List.mem_singleton.mp now).symm⟩

theorem last_passed (root : Nat) (t : Trail) : last root t ∈ root :: t.map (·.node) := by
  induction t using List.reverseRecOn with
  | nil => simp
  | append_singleton t step => simp

-- A simple trail does not come back to where it has been.
theorem simple_ends {rest : Trail} (simple : Simple root (t ++ rest))
    (back : last root (t ++ rest) = last root t) : rest = [] := by
  cases rest using List.reverseRecOn with
  | nil => rfl
  | append_singleton rest step =>
      rw [← List.append_assoc] at simple back
      rw [last_on] at back
      refine absurd ?_ (simple_on.mp simple).2
      rw [back, List.map_append, ← List.cons_append]
      exact List.mem_append_left _ (last_passed root t)

theorem steps_edge {front : Nat} {edges : List (Bool × Nat)} (member : step ∈ stepsFrom front edges) :
    (step.marked, step.node) ∈ edges := by
  obtain ⟨entry, held, rfl⟩ := List.mem_map.mp member
  exact List.fst_mem_of_mem_zipIdx held

theorem edge_step (front : Nat) {edges : List (Bool × Nat)} {marked : Bool} {n : Nat}
    (edge : (marked, n) ∈ edges) :
    ∃ step ∈ stepsFrom front edges, step.marked = marked ∧ step.node = n := by
  rw [← List.zipIdx_map_fst front edges] at edge
  obtain ⟨entry, held, same⟩ := List.mem_map.mp edge
  refine ⟨_, List.mem_map_of_mem held, ?_⟩
  simp [same]

theorem steps_places (front : Nat) (edges : List (Bool × Nat)) :
    (stepsFrom front edges).map (·.place) = List.range' front edges.length := by
  simp [stepsFrom, ← List.zipIdx_map_snd, Function.comp_def]

theorem step_unique {front : Nat} {edges : List (Bool × Nat)} {a b : Step}
    (first : a ∈ stepsFrom front edges) (second : b ∈ stepsFrom front edges)
    (same : a.place = b.place) : a = b := by
  have distinct : ((stepsFrom front edges).map (·.place)).Nodup := by
    rw [steps_places]
    exact List.nodup_range'
  exact List.inj_on_of_nodup_map distinct first second same

-- The trails to a node and on from it part at its successors.
theorem onward_part (front : Nat) (edges : List (Bool × Nat)) :
    (onward t (stepsFrom front edges)).Pairwise fun a b => Parts (places a) (places b) := by
  have increasing : ((stepsFrom front edges).map (·.place)).Pairwise (· < ·) := by
    rw [steps_places]
    exact List.pairwise_lt_range'
  refine List.pairwise_map.mpr ((List.pairwise_map.mp increasing).imp fun {a b} less => ?_)
  exact ⟨places t, a.place, b.place, [], [], places_on, places_on, less⟩

-- The places that a trail takes tell where it goes.
theorem places_prefix (leads : Leads next root t) (other : Leads next root u)
    (pre : places t <+: places u) : t <+: u := by
  induction other generalizing t with
  | start =>
      have none : t = [] := List.map_eq_nil_iff.mp (List.prefix_nil.mp pre)
      exact none ▸ List.nil_prefix
  | @on u step other there ih =>
      rw [places_on] at pre
      obtain whole | shorter := List.prefix_concat_iff.mp pre
      · cases leads with
        | start => exact List.nil_prefix
        | @on t step' leads there' =>
            rw [places_on] at whole
            obtain ⟨same, place⟩ := List.append_singleton_inj.mp whole
            have long : t.length = u.length := by simpa [places] using congrArg List.length same
            obtain rfl := (ih leads (same ▸ List.prefix_rfl)).eq_of_length long
            rw [step_unique there' there place]
      · exact (ih leads shorter).trans (List.prefix_append ..)

end Trails

section Order

/-- What holds on the way: the trails left to go part from each other, to the right of all those along
which nodes were entered, and what a trail passes was entered before. -/
structure Sorted (next : Nat → List (Bool × Nat)) (root : Nat) (stack met : List Trail) : Prop where
  leads : ∀ t ∈ stack ++ met, Leads next root t
  order : stack.Pairwise fun a b => Parts (places a) (places b)
  behind : ∀ m ∈ met, ∀ t ∈ stack, places m < places t
  passed : ∀ t ∈ stack ++ met, ∀ u, u <+: t → u ≠ t → u ∈ met
  once : (met.map (last root)).Nodup

def Answered (root : Nat) (met : List Trail) (t : Trail) : Prop :=
  ∃ p ∈ met, last root p = last root t ∧ (p = t ∨ places p < places t)

theorem sorted_again (sorted : Sorted next root (t :: stack) met) : Sorted next root stack met where
  leads u member := sorted.leads u (List.mem_cons_of_mem _ member)
  order := sorted.order.of_cons
  behind m entered u member := sorted.behind m entered u (List.mem_cons_of_mem _ member)
  passed u member := sorted.passed u (List.mem_cons_of_mem _ member)
  once := sorted.once

theorem place_deeper : places t < places (t ++ [step]) :=
  prefix_less ⟨[step.place], places_on.symm⟩ (by simp)

theorem sorted_enter (sorted : Sorted next root (t :: stack) met)
    (new : last root t ∉ met.map (last root)) :
    Sorted next root (onward t (stepsAfter next root t) ++ stack) (t :: met) := by
  obtain ⟨apart, order⟩ := List.pairwise_cons.mp sorted.order
  have own : Leads next root t := sorted.leads t (by simp)
  have below : ∀ u ∈ onward t (stepsAfter next root t),
      ∃ step ∈ stepsAfter next root t, u = t ++ [step] :=
    fun u member => (List.mem_map.mp member).imp fun step held => ⟨held.1, held.2.symm⟩
  -- A trail is one step below the one that is entered, or was on the stack, or had been entered.
  constructor
  case leads =>
    intro u member
    obtain (deeper | later) | (rfl | entered) := by
      simpa only [List.mem_append, List.mem_cons] using member
    · obtain ⟨step, there, rfl⟩ := below u deeper
      exact .on own there
    · exact sorted.leads u (by simp [later])
    · exact own
    · exact sorted.leads u (by simp [entered])
  case order =>
    refine List.pairwise_append.mpr ⟨onward_part 0 _, order, fun u deeper v later => ?_⟩
    obtain ⟨step, _, rfl⟩ := below u deeper
    have parts := parts_append (apart v later) [step.place] []
    rwa [List.append_nil, ← places_on] at parts
  case behind =>
    intro m entered u member
    have reached : places m < places t ∨ m = t :=
      (List.mem_cons.mp entered).symm.imp (fun old => sorted.behind m old t (by simp)) id
    obtain deeper | later := List.mem_append.mp member
    · obtain ⟨step, _, rfl⟩ := below u deeper
      obtain less | rfl := reached
      · exact less.trans place_deeper
      · exact place_deeper
    · obtain old | rfl := (List.mem_cons.mp entered).symm
      · exact sorted.behind m old u (by simp [later])
      · exact parts_less (apart u later)
  case passed =>
    intro u member v pre proper
    obtain (deeper | later) | (rfl | entered) := by
      simpa only [List.mem_append, List.mem_cons] using member
    · obtain ⟨step, _, rfl⟩ := below u deeper
      obtain rfl | shorter := List.prefix_concat_iff.mp pre
      · exact absurd rfl proper
      by_cases same : v = t
      · exact List.mem_cons.mpr (.inl same)
      · exact List.mem_cons_of_mem _ (sorted.passed t (by simp) v shorter same)
    · exact List.mem_cons_of_mem _ (sorted.passed u (by simp [later]) v pre proper)
    · exact List.mem_cons_of_mem _ (sorted.passed u (by simp) v pre proper)
    · exact List.mem_cons_of_mem _ (sorted.passed u (by simp [entered]) v pre proper)
  case once => exact List.nodup_cons.mpr ⟨new, sorted.once⟩

theorem walks_sorted (walks : Walks next root stack met met') (sorted : Sorted next root stack met) :
    Sorted next root [] met' := by
  induction walks with
  | done => exact sorted
  | again known walks ih => exact ih (sorted_again sorted)
  | enter new walks ih => exact ih (sorted_enter sorted new)

theorem walks_suffix (walks : Walks next root stack met met') : met <:+ met' := by
  induction walks with
  | done => exact List.suffix_rfl
  | again known walks ih => exact ih
  | enter new walks ih => exact (List.suffix_cons ..).trans ih

theorem walks_answered (walks : Walks next root stack met met') (sorted : Sorted next root stack met) :
    (∀ t ∈ stack, Answered root met' t) ∧
      ∀ t ∈ met', t ∉ met → ∀ step ∈ stepsAfter next root t, Answered root met' (t ++ [step]) := by
  -- On the walk; `Sorted` says that a node which is known was entered to the left.
  induction walks with
  | done met => exact ⟨nofun, fun t member new => absurd member new⟩
  | @again t rest met met' known walks ih =>
      obtain ⟨answered, deeper⟩ := ih (sorted_again sorted)
      refine ⟨fun u member => ?_, deeper⟩
      obtain rfl | later := List.mem_cons.mp member
      · obtain ⟨p, entered, same⟩ := List.mem_map.mp known
        exact ⟨p, (walks_suffix walks).subset entered, same, .inr (sorted.behind p entered u (by simp))⟩
      · exact answered u later
  | @enter t rest met met' new walks ih =>
      obtain ⟨answered, deeper⟩ := ih (sorted_enter sorted new)
      have entered : t ∈ met' := (walks_suffix walks).subset (by simp)
      refine ⟨fun u member => ?_, fun u member fresh step there => ?_⟩
      · obtain rfl | later := List.mem_cons.mp member
        · exact ⟨u, entered, rfl, .inl rfl⟩
        · exact answered u (List.mem_append_right _ later)
      · by_cases same : u = t
        · subst same
          exact answered _ (List.mem_append_left _ (List.mem_map_of_mem there))
        · exact deeper u member (by simp [same, fresh]) step there

theorem walks_append {more mid : List Trail} (first : Walks next root stack met mid)
    (second : Walks next root more mid met') : Walks next root (stack ++ more) met met' := by
  induction first with
  | done => exact second
  | again known walks ih => exact .again known (ih second)
  | enter new walks ih =>
      refine .enter new ?_
      change Walks next root (_ ++ (_ ++ more)) _ _
      rw [← List.append_assoc]
      exact ih second

end Order

section Whole

def Edge (next : Nat → List (Bool × Nat)) (m n : Nat) : Prop := ∃ marked, (marked, n) ∈ next m

def Reaches (next : Nat → List (Bool × Nat)) : Nat → Nat → Prop := Relation.ReflTransGen (Edge next)

def ReachesPlain (next : Nat → List (Bool × Nat)) : Nat → Nat → Prop :=
  Relation.ReflTransGen fun m n => (false, n) ∈ next m

def ReachesMarked (next : Nat → List (Bool × Nat)) (root n : Nat) : Prop :=
  ∃ a b, Reaches next root a ∧ (true, b) ∈ next a ∧ Reaches next b n

theorem plain_reaches {m n : Nat} (plain : ReachesPlain next m n) : Reaches next m n := by
  induction plain with
  | refl => exact .refl
  | tail _ edge ih => exact ih.tail ⟨_, edge⟩

theorem leads_reaches (leads : Leads next root t) : Reaches next root (last root t) := by
  induction leads with
  | start => exact .refl
  | on leads there ih =>
      rw [last_on]
      exact ih.tail ⟨_, steps_edge there⟩

theorem unmarked_reaches (leads : Leads next root t) (plain : ¬ Marked t) :
    ReachesPlain next root (last root t) := by
  induction leads with
  | start => exact .refl
  | @on t step leads there ih =>
      obtain ⟨front, clear⟩ := not_or.mp (mt marked_on.mpr plain)
      have edge := steps_edge there
      rw [Bool.eq_false_iff.mpr clear] at edge
      rw [last_on]
      exact (ih front).tail edge

theorem marked_reaches (leads : Leads next root t) (marked : Marked t) :
    ReachesMarked next root (last root t) := by
  induction leads with
  | start => obtain ⟨_, none, _⟩ := marked; cases none
  | @on t step leads there ih =>
      have edge := steps_edge there
      rw [last_on]
      obtain front | now := marked_on.mp marked
      · obtain ⟨a, b, before, through, after⟩ := ih front
        exact ⟨a, b, before, through, after.tail ⟨_, edge⟩⟩
      · rw [now] at edge
        exact ⟨_, _, leads_reaches leads, edge, .refl⟩

variable (walks : Walks next root [[]] [] met)
include walks

omit walks in
theorem sorted_start (next : Nat → List (Bool × Nat)) (root : Nat) : Sorted next root [[]] [] := by
  refine ⟨?_, List.pairwise_singleton .., nofun, ?_, .nil⟩
  · intro t member
    rw [List.mem_singleton.mp member]
    exact .start
  · intro t member u pre proper
    obtain rfl := List.mem_singleton.mp member
    exact absurd (List.prefix_nil.mp pre) proper

theorem walk_sorted : Sorted next root [] met := walks_sorted walks (sorted_start next root)

theorem walk_answered (member : t ∈ met) (there : step ∈ stepsAfter next root t) :
    Answered root met (t ++ [step]) :=
  (walks_answered walks (sorted_start next root)).2 t member (by simp) step there

theorem walk_starts : [] ∈ met := by
  obtain ⟨p, member, _, same | less⟩ := (walks_answered walks (sorted_start next root)).1 [] (by simp)
  · exact same ▸ member
  · exact absurd less (List.not_lt_nil _)

-- What a trail passes was entered along its fronts, and no node was entered twice.
theorem walk_simple (member : t ∈ met) : Simple root t := by
  have sorted := walk_sorted walks
  induction t using List.reverseRecOn with
  | nil => exact List.nodup_singleton root
  | append_singleton t step ih =>
      have before : t ∈ met := sorted.passed _ member t (List.prefix_append ..) (by simp)
      refine simple_on.mpr ⟨ih before, fun again => ?_⟩
      obtain ⟨u, pre, ends⟩ := passed_prefix again
      have longer : u <+: t ++ [step] := pre.trans (List.prefix_append ..)
      have proper : u ≠ t ++ [step] := fun same => by
        simpa [same, Nat.not_succ_le_self] using pre.length_le
      have entered := sorted.passed _ member u longer proper
      exact proper (List.inj_on_of_nodup_map sorted.once entered member (by rw [ends, last_on]))

theorem walk_reaches {n : Nat} : n ∈ met.map (last root) ↔ Reaches next root n := by
  constructor
  · intro entered
    obtain ⟨t, member, rfl⟩ := List.mem_map.mp entered
    exact leads_reaches ((walk_sorted walks).leads t member)
  · intro reaches
    induction reaches with
    | refl => exact List.mem_map.mpr ⟨[], walk_starts walks, rfl⟩
    | tail _ edge ih =>
        obtain ⟨t, member, rfl⟩ := List.mem_map.mp ih
        obtain ⟨marked, edge⟩ := edge
        obtain ⟨step, there, _, rfl⟩ := edge_step 0 edge
        obtain ⟨p, entered, same, _⟩ := walk_answered walks member there
        exact List.mem_map.mpr ⟨p, entered, by rw [same, last_on]⟩

theorem walk_least (leads : Leads next root u) (simple : Simple root u) : Answered root met u := by
  -- The front of the trail is answered; its last step leads on from there too, which answers the whole.
  induction leads with
  | start => exact ⟨[], walk_starts walks, rfl, .inl rfl⟩
  | @on u step leads there ih =>
      obtain ⟨front, new⟩ := simple_on.mp simple
      obtain ⟨p, member, same, order⟩ := ih front
      have there' : step ∈ stepsAfter next root p := by rwa [stepsAfter, same]
      obtain ⟨q, entered, ends, order'⟩ := walk_answered walks member there'
      rw [last_on] at ends
      refine ⟨q, entered, by rw [ends, last_on], ?_⟩
      obtain rfl | less := order
      · exact order'
      have deeper : places (p ++ [step]) < places (u ++ [step]) := by
        obtain parts | pre := less_parts less
        · exact parts_less (by simpa using parts_append parts [step.place] [step.place])
        -- A trail that goes on from the first to the same node passes it twice.
        · obtain ⟨rest, rfl⟩ := places_prefix ((walk_sorted walks).leads p member) leads pre
          obtain rfl := simple_ends front same.symm
          simp at less
      right
      obtain rfl | less' := order'
      · exact deeper
      · exact less'.trans deeper

theorem walk_first : t ∈ met ↔ First next root t := by
  have sorted := walk_sorted walks
  constructor
  · intro member
    refine ⟨sorted.leads t member, walk_simple walks member, fun u leads simple ends => ?_⟩
    obtain ⟨p, entered, same, order⟩ := walk_least walks leads simple
    obtain rfl : p = t := List.inj_on_of_nodup_map sorted.once entered member (same.trans ends)
    obtain rfl | less := order
    · exact le_rfl
    · exact less.le
  · intro first
    obtain ⟨p, entered, same, rfl | less⟩ := walk_least walks first.leads first.simple
    · exact entered
    · have least := first.least p (sorted.leads p entered) (walk_simple walks entered) same
      exact absurd less least.not_gt

end Whole

end ApiSchema.Walk
