import ApiSchema.Proofs.Conversion.Programs

/-!
Any calls to the resolver on one context, nested in any way.

Other than in a `Program`, a build may give any definition or end in any fault, and its caller may go
on after a fault. What has been noted under a key stays, so a call is answered by what the calls that
began before it have noted, also while their definitions are unfinished.
-/

namespace ApiSchema

inductive Calls : Type → Type 1 where
  | done {α : Type} (outcome : Except Fault α) : Calls α
  | lookup {α : Type} (key : Key) (next : Option String → Calls α) : Calls α
  | placeholder {α : Type} (name : String) (issue : NodeIssue) (reference pointer : Option String)
      (next : Except Fault String → Calls α) : Calls α
  | resolve {α : Type} (key : Key) (name : String) (build : String → Calls TypeDefinition)
      (next : Except Fault String → Calls α) : Calls α

inductive Inquiry where
  | lookup (key : Key)
  | placeholder (name : String) (issue : NodeIssue) (reference pointer : Option String)
  | resolve (key : Key) (name : String) (build : String → Conversion TypeDefinition)

namespace Inquiry

def key : Inquiry → Key
  | lookup key => key
  | placeholder _ _ reference pointer => { reference, pointer }
  | resolve key .. => key

def Resolves : Inquiry → Prop
  | resolve .. => True
  | _ => False

def Substitutes : Inquiry → Prop
  | placeholder .. => True
  | _ => False

def answer : Inquiry → Conversion (Option String)
  | lookup key => do return (← get).lookup? key
  | placeholder name issue reference pointer =>
    some <$> Conversion.placeholder name issue reference pointer
  | resolve key name build => some <$> Conversion.resolve key name build

end Inquiry

structure Call where
  request : Inquiry
  before : Context

namespace Call

def key (call : Call) : Key := call.request.key

def outcome (call : Call) : Except Fault (Option String) × Context :=
  call.request.answer.run.run call.before

def id? (call : Call) : Option String := call.outcome.1.toOption.join

def after (call : Call) : Context := call.outcome.2

def entered (call : Call) : Context :=
  match call.request with
  | .resolve key .. => (call.before.enter key).2
  | _ => call.after

end Call

namespace Calls

def caught {α : Type} (step : Conversion α) : Conversion (Except Fault α) := ExceptT.lift step.run

def run {α : Type} : Calls α → Conversion α
  | .done outcome => ofExcept outcome
  | .lookup key next => do (next ((← get).lookup? key)).run
  | .placeholder name issue reference pointer next => do
    (next (← caught (Conversion.placeholder name issue reference pointer))).run
  | .resolve key name build next => do
    (next (← caught (Conversion.resolve key name fun id => (build id).run))).run

def within (key : Key) (build : String → Context → List Call) (c : Context) : List Call :=
  match c.enter key with
  | (.known _, _) => []
  | (.fresh id, c₁) => build id c₁

def log {α : Type} : Calls α → Context → List Call
  | .done _, _ => []
  | .lookup key next, c => ⟨.lookup key, c⟩ :: (next (c.lookup? key)).log c
  | .placeholder name issue reference pointer next, c =>
    let reached := (Conversion.placeholder name issue reference pointer).run.run c
    ⟨.placeholder name issue reference pointer, c⟩ :: (next reached.1).log reached.2
  | .resolve key name build next, c =>
    let reached := (Conversion.resolve key name fun id => (build id).run).run.run c
    ⟨.resolve key name fun id => (build id).run, c⟩ ::
      (within key (fun id => (build id).log) c ++ (next reached.1).log reached.2)

end Calls

namespace Context

variable {c c' : Context} {key : Key} {id : String}

theorem fill_alike {t : TypeDefinition} (filled : c.fill id t = .ok c') : c.Alike c' := by
  obtain ⟨position, _, rfl⟩ := fill_place filled
  exact ⟨by simp [typeCount], rfl, rfl, rfl⟩

theorem fill_lasts {t : TypeDefinition} (filled : c.fill id t = .ok c') : c.Lasts c' := by
  refine lasts_of_alike (fill_alike filled) fun k u held => ?_
  obtain ⟨position, free, rfl⟩ := fill_place filled
  have other : position ≠ k := by
    rintro rfl
    rw [held] at free
    cases free
  simpa [List.getElem?_set_ne other] using held

theorem stubbed_alike (c : Context) (name reason : String) : c.Alike (stubbed c name reason) :=
  ⟨by simp [stubbed, typeCount], rfl, rfl, rfl⟩

theorem stubbed_lasts (c : Context) (name reason : String) : c.Lasts (stubbed c name reason) := by
  refine lasts_of_alike (stubbed_alike c name reason) fun k t held => ?_
  exact List.getElem?_append_left (List.getElem?_eq_some_iff.mp held).1 ▸ held

theorem leave_alike (c : Context) (id name : String) (built : Except Fault TypeDefinition) :
    c.Alike (c.leave id name built).2 :=
  leave_keeps (fun d issue alike => alike_trans alike (record_alike d issue))
    (fun _ _ _ _ filled alike => alike_trans alike (fill_alike filled)) (alike_refl c)

theorem leave_lasts (c : Context) (id name : String) (built : Except Fault TypeDefinition) :
    c.Lasts (c.leave id name built).2 :=
  leave_keeps (fun d issue lasts => lasts_trans lasts (record_lasts d issue))
    (fun _ _ _ _ filled lasts => lasts_trans lasts (fill_lasts filled)) (lasts_refl c)

/-- An id is noted under the first of the ways that a key has, where it is found from now on. -/
def Holds (c : Context) (key : Key) (id : String) : Prop :=
  match key with
  | ⟨_, some r, _⟩ => c.references.lookup r = some id
  | ⟨some n, none, _⟩ => c.identities.lookup n = some id
  | ⟨none, none, some p⟩ => c.pointers.lookup p = some id
  | ⟨none, none, none⟩ => False

end Context

namespace Context

variable {c c' : Context} {key : Key} {id : String}

end Context

theorem caught_bind {α β : Type} (step : Conversion α) (rest : Except Fault α → Conversion β)
    (c : Context) : (Calls.caught step >>= rest).run.run c =
      (rest (step.run.run c).1).run.run (step.run.run c).2 := by
  rw [run_bind]
  rfl

theorem map_run {α β : Type} (f : α → β) (step : Conversion α) (c : Context) :
    (f <$> step).run.run c = ((step.run.run c).1.map f, (step.run.run c).2) := by
  have same := run_bind step (fun a => (pure (f a) : Conversion β)) c
  rw [bind_pure_comp] at same
  rw [same]
  generalize step.run.run c = reached
  obtain ⟨outcome, c'⟩ := reached
  cases outcome <;> rfl

theorem enter_known {c : Context} {key : Key} {id : String} (found : c.lookup? key = some id) :
    c.enter key = (.known id, c.remember id key) := by
  simp [Context.enter, found]

theorem enter_new {c : Context} {key : Key} (absent : c.lookup? key = none) :
    c.enter key = (.fresh c.allocate.1, c.allocate.2.remember c.allocate.1 key) := by
  simp [Context.enter, absent]

theorem enter_lasts (c : Context) (key : Key) : c.Lasts (c.enter key).2 := by
  unfold Context.enter
  cases c.lookup? key with
  | some id => exact Context.remember_lasts c id key
  | none => exact Context.lasts_trans (Context.allocate_lasts c) (Context.remember_lasts _ _ key)

theorem placeholder_lasts (name : String) (issue : NodeIssue) (reference pointer : Option String)
    (c : Context) :
    c.Lasts ((Conversion.placeholder name issue reference pointer).run.run c).2 := by
  rw [placeholder_run]
  cases c.lookup? { reference, pointer } with
  | some id => exact Context.lasts_refl c
  | none =>
      have stubbed := Context.stubbed_lasts (c.record issue) name issue.message
      exact Context.lasts_trans (Context.record_lasts c issue)
        (Context.lasts_trans stubbed (Context.remember_lasts _ _ _))

theorem placeholder_after (name : String) (issue : NodeIssue) (reference pointer : Option String)
    (c : Context) : Call.after ⟨.placeholder name issue reference pointer, c⟩ =
      ((Conversion.placeholder name issue reference pointer).run.run c).2 := by
  rw [Call.after, Call.outcome, Inquiry.answer, map_run]

/-- A stretch of a run: nothing that a call has noted is lost to those that begin after it. -/
structure Orderly (c : Context) (log : List Call) (c' : Context) : Prop where
  lasts : c.Lasts c'
  inside : ∀ call ∈ log, c.Lasts call.before ∧ call.entered.Lasts c'
  order : log.Pairwise fun a b => a.entered.Lasts b.before

section Orderly

open Context

variable {c c₁ c₂ : Context} {log more : List Call}

theorem orderly_nothing (c : Context) : Orderly c [] c :=
  ⟨lasts_refl c, fun _ member => absurd member List.not_mem_nil, .nil⟩

theorem orderly_append (first : Orderly c log c₁) (second : Orderly c₁ more c₂) :
    Orderly c (log ++ more) c₂ where
  lasts := lasts_trans first.lasts second.lasts
  inside call member := by
    obtain early | late := List.mem_append.mp member
    · exact ⟨(first.inside call early).1, lasts_trans (first.inside call early).2 second.lasts⟩
    · exact ⟨lasts_trans first.lasts (second.inside call late).1, (second.inside call late).2⟩
  order := List.pairwise_append.mpr ⟨first.order, second.order, fun a early b late =>
    lasts_trans (first.inside a early).2 (second.inside b late).1⟩

-- A call with the calls made inside it.
theorem orderly_call (call : Call) (entered : call.before.Lasts call.entered)
    (inner : Orderly call.entered log c₁) (left : c₁.Lasts c₂) :
    Orderly call.before (call :: log) c₂ where
  lasts := lasts_trans entered (lasts_trans inner.lasts left)
  inside other member := by
    obtain rfl | later := List.mem_cons.mp member
    · exact ⟨lasts_refl _, lasts_trans inner.lasts left⟩
    · exact ⟨lasts_trans entered (inner.inside other later).1,
        lasts_trans (inner.inside other later).2 left⟩
  order := List.pairwise_cons.mpr ⟨fun b later => (inner.inside b later).1, inner.order⟩

theorem orderly_alone (call : Call) (same : call.entered = call.after)
    (lasts : call.before.Lasts call.after) : Orderly call.before [call] call.after :=
  orderly_call call (same ▸ lasts) (orderly_nothing _) (same ▸ lasts_refl _)

-- A call of `resolve` with the calls of its build.
theorem orderly_resolve (key : Key) (name : String) {build : String → Calls TypeDefinition}
    (builds : ∀ id c, Orderly c ((build id).log c) ((build id).run.run.run c).2) (c : Context) :
    Orderly c
      (⟨.resolve key name fun id => (build id).run, c⟩ ::
        Calls.within key (fun id => (build id).log) c)
      ((Conversion.resolve key name fun id => (build id).run).run.run c).2 := by
  have entered := enter_lasts c key
  rw [resolve_run]
  unfold Calls.within
  cases found : c.lookup? key with
  | some id =>
      have same := enter_known found
      simp only [same]
      refine orderly_call ⟨.resolve key name _, c⟩ entered (orderly_nothing _) ?_
      change (c.enter key).2.Lasts _
      rw [same]
      exact lasts_refl _
  | none =>
      have same := enter_new found
      simp only [same]
      have inner := builds c.allocate.1 (c.allocate.2.remember c.allocate.1 key)
      refine orderly_call ⟨.resolve key name _, c⟩ entered ?_ (leave_lasts _ _ _ _)
      change Orderly (c.enter key).2 _ _
      rw [same]
      exact inner

theorem run_orderly {α : Type} (p : Calls α) :
    ∀ c, Orderly c (p.log c) (p.run.run.run c).2 := by
  induction p with
  | done outcome =>
      intro c
      cases outcome <;> exact orderly_nothing c
  | lookup key next ih =>
      intro c
      have call := orderly_alone ⟨.lookup key, c⟩ rfl (lasts_refl c)
      exact orderly_append call (ih _ c)
  | placeholder name issue reference pointer next ih =>
      intro c
      have call := orderly_alone ⟨.placeholder name issue reference pointer, c⟩ rfl
        (by rw [placeholder_after]; exact placeholder_lasts name issue reference pointer c)
      rw [placeholder_after] at call
      rw [Calls.run, caught_bind]
      exact orderly_append call (ih _ _)
  | resolve key name build next ihBuild ih =>
      intro c
      rw [Calls.run, caught_bind]
      exact orderly_append (orderly_resolve key name ihBuild c) (ih _ _)

end Orderly

end ApiSchema
