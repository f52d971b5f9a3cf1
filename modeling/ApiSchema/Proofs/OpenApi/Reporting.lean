import ApiSchema.Proofs.OpenApi.Schemas

namespace ApiSchema.OpenApi

open Regime

def reporting : Regime Context Fault where
  holds _ := True
  grows c c' := c.warnings <+: c'.warnings
  faults _ := True
  refl _ := List.prefix_rfl
  trans := List.IsPrefix.trans

def Reports {α : Type} (step : Conversion α) : Prop := ∀ c, c.warnings <+: (step.run.run c).2.warnings

section Steps

variable {α : Type} {start : Context} {c c' : Context}

theorem reports_keeps {step : Conversion α} (reports : Reports step) :
    reporting.Keeps start step fun _ _ => True := by
  intro c _ _
  have later := reports c
  generalize step.run.run c = reached at later ⊢
  obtain ⟨result, c'⟩ := reached
  cases result <;> exact ⟨trivial, later, trivial⟩

theorem keeps_reports {step : Conversion α} {post : α → Context → Prop}
    (kept : ∀ start, reporting.Keeps start step post) : Reports step :=
  fun c => (kept c c trivial List.prefix_rfl).2.1

theorem record_warnings (c : Context) (issue : NodeIssue) : c.warnings <+: (c.record issue).warnings := by
  unfold Context.record
  cases issue.severity with
  | warning => exact List.prefix_append _ _
  | error => exact List.prefix_rfl

theorem reporting_quiet : reporting.Quiet where
  warn _ _ _ := ⟨trivial, List.prefix_append _ _⟩
  record c issue _ := ⟨trivial, record_warnings c issue⟩

theorem remember_warnings (c : Context) (id : String) (key : Key) :
    (c.remember id key).warnings = c.warnings := by
  obtain ⟨node, reference, pointer⟩ := key
  cases node <;> cases pointer <;> rfl

theorem fill_warnings {id : String} {t : TypeDefinition} (filled : c.fill id t = .ok c') :
    c'.warnings = c.warnings := by
  obtain ⟨position, _, rfl⟩ := Context.fill_place filled
  rfl

theorem leave_warnings (c : Context) (id name : String) (built : Except Fault TypeDefinition) :
    c.warnings <+: (c.leave id name built).2.warnings := by
  refine Context.leave_keeps (P := fun d => c.warnings <+: d.warnings) ?_ ?_ List.prefix_rfl
  · exact fun d issue kept => kept.trans (record_warnings d issue)
  · intro d d' t _ filled kept
    rwa [fill_warnings filled]

theorem placeholder_reports (name : String) (issue : NodeIssue) (reference pointer : Option String) :
    Reports (Conversion.placeholder name issue reference pointer) := by
  intro c
  rw [placeholder_run]
  cases c.lookup? { reference, pointer } with
  | some id => exact List.prefix_rfl
  | none =>
      rw [remember_warnings]
      exact record_warnings c issue

theorem resolve_reports {key : Key} {name : String} {build : String → Conversion TypeDefinition}
    (builds : ∀ id, Reports (build id)) : Reports (Conversion.resolve key name build) := by
  intro c
  rw [resolve_run]
  cases c.lookup? key with
  | some id => exact (remember_warnings c id key).symm ▸ List.prefix_rfl
  | none =>
      have within := builds c.allocate.1 (c.allocate.2.remember c.allocate.1 key)
      rw [remember_warnings] at within
      exact within.trans (leave_warnings _ _ _ _)

end Steps

section Questions

variable {convert : Convert} {s : Scope}

theorem reports_converts (reports : ∀ trail ask, Reports (convert trail ask)) (s : Scope)
    (start : Context) : Converts reporting (fun _ _ _ => True) start s convert where
  quiet := reporting_quiet
  lasting _ _ _ _ _ _ := trivial
  faults _ _ := trivial
  nodes _ _ _ := reports_keeps (reports _ _)
  names _ := reports_keeps (reports _ _)

theorem follow_reports (reports : ∀ trail ask, Reports (convert trail ask)) (reference : String) :
    Reports (follow s convert reference) := by
  suffices kept : ∀ start, reporting.Keeps start (follow s convert reference) fun _ _ => True from
    keeps_reports kept
  intro start
  have stub (name reason : String) : reporting.Keeps start (Conversion.placeholder name
      (.unresolved reference (some reason)) (some reference) none) fun _ _ => True :=
    reports_keeps (placeholder_reports _ _ _ _)
  unfold follow
  refine keeps_get fun c _ later => keeps_later later ?_
  split
  · exact keeps_pure fun _ _ => trivial
  · split
    · exact stub _ _
    · split
      · exact stub _ _
      · split
        · exact stub _ _
        · split
          · refine keeps_bind (reports_keeps (reports _ _)) fun id c later _ => ?_
            have noted : reporting.Keeps c (noteReference reference id) fun _ _ => True :=
              keeps_modify fun c _ _ => ⟨trivial, List.prefix_rfl, trivial⟩
            refine keeps_bind noted fun _ _ _ _ => ?_
            exact keeps_pure fun _ _ => trivial
          · exact reports_keeps (reports _ _)

theorem step_reports (reports : ∀ trail ask, Reports (convert trail ask)) (ask : Ask) :
    Reports (convertStep s convert ask) := by
  unfold convertStep
  cases ask with
  | reference text => exact follow_reports reports text
  | node item name reference pointer =>
      simp only
      split
      · exact placeholder_reports _ _ _ _
      · split
        · exact follow_reports reports _
        · exact resolve_reports fun id => keeps_reports fun start =>
            build_kept (reports_converts reports s start) id item _ name

theorem within_reports (d : Document) (fuel : Nat) (trail : List String) (ask : Ask) :
    Reports (convertWithin d fuel trail ask) := by
  induction fuel generalizing trail ask with
  | zero => exact fun c => List.prefix_rfl
  | succ fuel ih => exact step_reports ih ask

-- The conversion of nodes takes no warning back.
theorem node_reports (d : Document) (s : Scope) (start : Context) :
    Converts reporting (fun _ _ _ => True) start s (convertNode d) :=
  reports_converts (within_reports d _) s start

end Questions

end ApiSchema.OpenApi
