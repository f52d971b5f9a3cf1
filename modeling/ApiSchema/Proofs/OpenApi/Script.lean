import ApiSchema.Proofs.Conversion.Resolver
import ApiSchema.Proofs.OpenApi.Builders

/-!
What a conversion asks on its way.

A script is a conversion with its questions laid open: it works on the context, and now and then asks
for the type of something else. Played, it has each question answered by a script of its own, with no
bound on how deep that goes; so a script that comes to an end has asked finitely often. A conversion
that uses its `Convert` only to ask is a script, whatever that is.
-/

namespace ApiSchema.OpenApi

structure Question where
  trail : List String
  ask : Ask

structure Visit where
  question : Question
  before : Context

inductive Script : Type → Type 1 where
  | done {α : Type} (answer : α) : Script α
  | step {α β : Type} (action : Conversion β) (next : β → Script α) : Script α
  | ask {α : Type} (q : Question) (next : String → Script α) : Script α
  | resolve {α : Type} (key : Key) (name : String) (build : String → Script TypeDefinition)
      (next : String → Script α) : Script α

namespace Script

def run {α : Type} (convert : Convert) : Script α → Conversion α
  | .done answer => pure answer
  | .step action next => do (next (← action)).run convert
  | .ask q next => do (next (← convert q.trail q.ask)).run convert
  | .resolve key name build next => do
    (next (← Conversion.resolve key name fun id => (build id).run convert)).run convert

def bind {α β : Type} (first : Script α) (rest : α → Script β) : Script β :=
  match first with
  | .done answer => rest answer
  | .step action next => .step action fun b => (next b).bind rest
  | .ask q next => .ask q fun id => (next id).bind rest
  | .resolve key name build next => .resolve key name build fun id => (next id).bind rest

theorem run_bind {α β : Type} (convert : Convert) (first : Script α) (rest : α → Script β) :
    (first.bind rest).run convert = first.run convert >>= fun a => (rest a).run convert := by
  induction first with
  | done answer => simp [bind, run]
  | step action next ih => simp [bind, run, ih]
  | ask q next ih => simp [bind, run, ih]
  | resolve key name build next _ ih => simp [bind, run, ih]

end Script

/-- A script is played to its end, with the log of its questions. `reply` answers each of them. -/
inductive Plays (reply : Question → Script String) :
    {α : Type} → Script α → Context → List Visit → Except Fault α × Context → Prop where
  | done {α : Type} {answer : α} {c : Context} : Plays reply (.done answer) c [] (.ok answer, c)
  | step {α β : Type} {action : Conversion β} {next : β → Script α} {c c' : Context} {b : β}
      {log : List Visit} {out : Except Fault α × Context} (acts : action.run.run c = (.ok b, c'))
      (plays : Plays reply (next b) c' log out) : Plays reply (.step action next) c log out
  | stopped {α β : Type} {action : Conversion β} {next : β → Script α} {c c' : Context} {f : Fault}
      (fails : action.run.run c = (.error f, c')) :
      Plays reply (.step action next) c [] (.error f, c')
  | ask {α : Type} {q : Question} {next : String → Script α} {c c' : Context} {id : String}
      {inner log : List Visit} {out : Except Fault α × Context}
      (answer : Plays reply (reply q) c inner (.ok id, c')) (plays : Plays reply (next id) c' log out) :
      Plays reply (.ask q next) c (⟨q, c⟩ :: inner ++ log) out
  | unanswered {α : Type} {q : Question} {next : String → Script α} {c c' : Context} {f : Fault}
      {inner : List Visit} (fails : Plays reply (reply q) c inner (.error f, c')) :
      Plays reply (.ask q next) c (⟨q, c⟩ :: inner) (.error f, c')
  | known {α : Type} {key : Key} {name : String} {build : String → Script TypeDefinition}
      {next : String → Script α} {c : Context} {id : String} {log : List Visit}
      {out : Except Fault α × Context} (found : c.lookup? key = some id)
      (plays : Plays reply (next id) (c.remember id key) log out) :
      Plays reply (.resolve key name build next) c log out
  | built {α : Type} {key : Key} {name : String} {build : String → Script TypeDefinition}
      {next : String → Script α} {c c₁ c₂ : Context} {outcome : Except Fault TypeDefinition}
      {inner log : List Visit} {out : Except Fault α × Context} (absent : c.lookup? key = none)
      (builds : Plays reply (build c.allocate.1) (c.allocate.2.remember c.allocate.1 key) inner
        (outcome, c₁))
      (left : c₁.leave c.allocate.1 name outcome = (.ok (), c₂))
      (plays : Plays reply (next c.allocate.1) c₂ log out) :
      Plays reply (.resolve key name build next) c (inner ++ log) out
  | unbuilt {α : Type} {key : Key} {name : String} {build : String → Script TypeDefinition}
      {next : String → Script α} {c c₁ c₂ : Context} {outcome : Except Fault TypeDefinition}
      {f : Fault} {inner : List Visit} (absent : c.lookup? key = none)
      (builds : Plays reply (build c.allocate.1) (c.allocate.2.remember c.allocate.1 key) inner
        (outcome, c₁))
      (left : c₁.leave c.allocate.1 name outcome = (.error f, c₂)) :
      Plays reply (.resolve key name build next) c inner (.error f, c₂)

def Recalls (c c' : Context) : Prop :=
  ∀ n id, c.identities.lookup n = some id → c'.identities.lookup n = some id

theorem recalls_refl (c : Context) : Recalls c c := fun _ _ => id

theorem recalls_trans {a b c : Context} (first : Recalls a b) (second : Recalls b c) : Recalls a c :=
  fun n id noted => second n id (first n id noted)

def recalling : Regime Context Fault where
  holds _ := True
  grows := Recalls
  faults _ := True
  refl := recalls_refl
  trans := recalls_trans

def Lasting {α : Type} (action : Conversion α) : Prop := ∀ c, Recalls c (action.run.run c).2

/-- Without a `resolve` of its own, a script whose questions are all of one kind. -/
def Script.Fits (fits : Question → Prop) {α : Type} : Script α → Prop
  | .done _ => True
  | .step action next => Lasting action ∧ ∀ b, (next b).Fits fits
  | .ask q next => fits q ∧ ∀ id, (next id).Fits fits
  | .resolve .. => False

def Asks (fits : Question → Prop) {α : Type} (conversion : Convert → Conversion α) : Prop :=
  ∃ script : Script α, script.Fits fits ∧ ∀ convert, script.run convert = conversion convert

section Lasting

variable {α β : Type}

theorem lasting_kept {action : Conversion α} {post : α → Context → Prop}
    (kept : ∀ c, recalling.Keeps c action post) : Lasting action :=
  fun c => (kept c c trivial (recalls_refl c)).2.1

theorem record_identities (c : Context) (issue : NodeIssue) :
    (c.record issue).identities = c.identities := by
  unfold Context.record
  cases issue.severity <;> rfl

theorem quiet_recalling : recalling.Quiet := by
  refine ⟨fun c message _ => ⟨trivial, recalls_refl c⟩, fun c issue _ => ⟨trivial, fun n id held => ?_⟩⟩
  rw [record_identities]
  exact held

-- The builders keep whatever can be kept when nothing is asked.
theorem idle (s : Scope) (c : Context) :
    Converts recalling (fun _ _ _ => True) c s fun _ _ => throw (.misuse .part) where
  quiet := quiet_recalling
  lasting _ _ _ _ _ _ := trivial
  faults _ _ := trivial
  nodes _ _ _ := Regime.keeps_throw trivial
  names _ := Regime.keeps_throw trivial

theorem lasting_throw (f : Fault) : Lasting (throw f : Conversion α) := fun c => recalls_refl c

theorem lasting_of_except (e : Except Fault α) : Lasting (ofExcept e) := by
  intro c
  cases e <;> exact recalls_refl c

theorem lasting_warn (message : String) : Lasting (Conversion.warn message) :=
  lasting_kept fun _ => Regime.keeps_warn quiet_recalling message

theorem lasting_record (issue : NodeIssue) : Lasting (Conversion.record issue) :=
  lasting_kept fun _ => Regime.keeps_record quiet_recalling issue

theorem lasting_placeholder (name : String) (issue : NodeIssue) (reference pointer : Option String) :
    Lasting (Conversion.placeholder name issue reference pointer) := by
  intro c n id noted
  rw [placeholder_run]
  cases c.lookup? { reference, pointer } with
  | some _ => exact noted
  | none =>
      simp only [remember_identities]
      simpa [stubbed, record_identities] using noted

end Lasting

section Asks

variable {fits : Question → Prop} {α β : Type}

theorem asks_fixed {action : Conversion α} (lasting : Lasting action) :
    Asks fits fun _ => action :=
  ⟨.step action .done, ⟨lasting, fun _ => trivial⟩, fun _ => bind_pure action⟩

theorem asks_pure (a : α) : Asks fits fun _ => (pure a : Conversion α) :=
  ⟨.done a, trivial, fun _ => rfl⟩

theorem asks_convert {trail : List String} {ask : Ask} (fit : fits ⟨trail, ask⟩) :
    Asks fits fun convert => convert trail ask :=
  ⟨.ask ⟨trail, ask⟩ .done, ⟨fit, fun _ => trivial⟩, fun convert => bind_pure (convert trail ask)⟩

theorem fits_bind {first : Script α} {rest : α → Script β} (one : first.Fits fits)
    (others : ∀ a, (rest a).Fits fits) : (first.bind rest).Fits fits := by
  induction first with
  | done answer => exact others answer
  | step action next ih => exact ⟨one.1, fun b => ih b (one.2 b) others⟩
  | ask q next ih => exact ⟨one.1, fun id => ih id (one.2 id) others⟩
  | resolve => exact one.elim

theorem asks_bind {first : Convert → Conversion α} {rest : α → Convert → Conversion β}
    (one : Asks fits first) (others : ∀ a, Asks fits (rest a)) :
    Asks fits fun convert => first convert >>= fun a => rest a convert := by
  obtain ⟨script, fit, same⟩ := one
  choose next fit' same' using others
  refine ⟨script.bind next, fits_bind fit fit', fun convert => ?_⟩
  rw [Script.run_bind, same]
  simp only [same']

theorem asks_map {f : α → β} {first : Convert → Conversion α} (one : Asks fits first) :
    Asks fits fun convert => f <$> first convert := by
  have mapped := asks_bind one fun a => asks_pure (f a)
  simpa only [bind_pure_comp] using mapped

theorem asks_fold {step : Convert → β → α → Conversion β} (items : List α) (start : β)
    (each : ∀ b a, Asks fits fun convert => step convert b a) :
    Asks fits fun convert => items.foldlM (step convert) start := by
  induction items generalizing start with
  | nil => exact asks_pure start
  | cons a rest ih =>
      simp only [List.foldlM_cons]
      exact asks_bind (each start a) fun b => ih b

theorem asks_each {step : Convert → α → Conversion β} (items : List α)
    (each : ∀ a, Asks fits fun convert => step convert a) :
    Asks fits fun convert => items.mapM (step convert) := by
  induction items with
  | nil => exact asks_pure []
  | cons a rest ih =>
      simp only [List.mapM_cons]
      exact asks_bind (each a) fun b => asks_bind ih fun results => asks_pure (b :: results)

end Asks

end ApiSchema.OpenApi
