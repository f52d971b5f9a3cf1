import ApiSchema.Proofs.Check.Record
import ApiSchema.Proofs.Conversion.Notes
import ApiSchema.Proofs.Schema.Objects
import ApiSchema.Proofs.OpenApi.Sites

namespace ApiSchema.OpenApi

open Regime

/-- A fault that the conversion of a node may end in: of the problems of a node, only missing items
end its conversion, and that the whole document is invalid is not found out here. -/
def Ordinary : Fault → Prop
  | .node issue => ∃ name, issue = .noItems name
  | .invalid .. => False
  | _ => True

structure Converts (R : Regime Context Fault) (given : Part → String → Context → Prop) (start : Context)
    (s : Scope) (convert : Convert) : Prop where
  quiet : R.Quiet
  lasting : ∀ part id c c', R.grows c c' → given part id c → given part id c'
  faults : ∀ f, Ordinary f → R.faults f
  nodes : ∀ item name pointer,
    R.Keeps start (convert s.trail (.node item name none pointer)) (given (.node item))
  names : ∀ text, R.Keeps start (convert s.trail (.reference text)) (given (.name text))

def Tame {α : Type} (e : Except Fault α) : Prop := ∀ f, e = .error f → Ordinary f

section Tame

variable {α β : Type}

theorem tame_ok (a : α) : Tame (.ok a : Except Fault α) := fun _ impossible => by cases impossible

theorem tame_misuse (m : Misuse) : Tame (misuse m : Except Fault α) := by
  intro f failed
  cases failed
  trivial

theorem tame_bind {e : Except Fault α} {next : α → Except Fault β} (first : Tame e)
    (rest : ∀ a, Tame (next a)) : Tame (e >>= next) := by
  cases e with
  | ok a => exact rest a
  | error f =>
      intro f' failed
      cases failed
      exact first f rfl

theorem tame_map {e : Except Fault α} (f : α → β) (first : Tame e) : Tame (e.map f) := by
  cases e with
  | ok a => exact tame_ok (f a)
  | error fault =>
      intro fault' failed
      cases failed
      exact first fault rfl

theorem tame_each {step : α → Except Fault β} (items : List α) (each : ∀ a, Tame (step a)) :
    Tame (items.mapM step) := by
  induction items with
  | nil => exact tame_ok []
  | cons a rest ih =>
      rw [List.mapM_cons]
      exact tame_bind (each a) fun b => tame_bind ih fun results => tame_ok (b :: results)

theorem checked_tame {title : String} {check : Check α} {fields : List (String × Value)} :
    Tame (checked title check fields) := by
  intro f failed
  unfold checked at failed
  cases outcome : check (.object fields) with
  | ok a => rw [outcome] at failed; cases failed
  | bad issues => rw [outcome] at failed; cases failed; trivial

theorem printed_tame {short : Bool} {a : α} : Tame (printed short a) := by
  unfold printed
  split
  · exact tame_ok _
  · exact tame_misuse _

theorem broken_reference_tame {g : Graph} {reference : Item} {reason : String} :
    Tame (brokenReference g reference reason) :=
  tame_bind printed_tame fun _ => tame_ok _

theorem broken_reference_ok {g : Graph} {reference : Item} {reason : String} {issue : NodeIssue}
    (said : brokenReference g reference reason = .ok issue) :
    issue = .unresolved (g.value reference).display (some reason) := by
  obtain ⟨text, shown, said⟩ := bound_ok said
  cases said
  rw [printed_text shown]

theorem warn_of_gives {message : Except Fault String} {c c' : Context} {u : Unit} :
    Gives (warnOf message) c u c' ↔ ∃ text, message = .ok text ∧ c' = c.warn text :=
  gives_of_except_bind.trans (exists_congr fun _ => and_congr_right fun _ => gives_modify)

theorem note_issue_gives {said : Except Fault NodeIssue} {c c' : Context} {u : Unit} :
    Gives (noteIssue said) c u c' ↔ ∃ issue, said = .ok issue ∧ c' = c.record issue :=
  gives_of_except_bind.trans (exists_congr fun _ => and_congr_right fun _ => gives_modify)

theorem entries_tame {g : Graph} {item : Item} : Tame (entriesOf g item) := by
  unfold entriesOf
  split
  · exact tame_ok _
  · exact tame_misuse _

theorem entries_or_none_tame {g : Graph} {item : Item} : Tame (entriesOrNone g item) := by
  unfold entriesOrNone
  split
  · exact entries_tame
  · exact tame_ok _

theorem items_tame {g : Graph} {item : Item} : Tame (itemsOf g item) := by
  unfold itemsOf
  split
  all_goals first | exact tame_ok _ | exact tame_misuse _

theorem items_or_none_tame {g : Graph} {item : Item} : Tame (itemsOrNone g item) := by
  unfold itemsOrNone
  split
  · exact items_tame
  · exact tame_ok _

theorem demanded_names_tame {g : Graph} {entries : Entries} {optional : Bool} :
    Tame (demandedNames g entries optional) := by
  cases optional with
  | true => exact tame_ok _
  | false => exact items_or_none_tame

theorem member_owner_tame {owner composition : String} {index : Nat} {member : Entries} :
    Tame (memberOwner owner composition index member) := by
  unfold memberOwner
  split
  all_goals first | exact tame_ok _ | exact tame_misuse _

theorem object_of_tame {id name : Value} {properties : List Property} {required : List Value}
    {rest : List (Scalar × Value)} : Tame (objectOf id name properties required rest) := by
  intro f failed
  unfold objectOf at failed
  split at failed
  · cases failed; trivial
  · simp only at failed
    split at failed
    · cases failed; trivial
    · split at failed <;> cases failed

end Tame

section Builders

variable {R : Regime Context Fault} {given : Part → String → Context → Prop} {start : Context} {s : Scope}
  {convert : Convert}

theorem converts_later (able : Converts R given start s convert) {c : Context}
    (later : R.grows start c) : Converts R given c s convert :=
  { able with
    nodes := fun item name pointer => keeps_later later (able.nodes item name pointer)
    names := fun text => keeps_later later (able.names text) }

theorem type_ref_of_kept (able : Converts R given start s convert) (node : Item) (name : String)
    (pointer : Option String) :
    R.Keeps start (typeRefOf s convert node name pointer) fun ref => given (.node node) ref.typeId := by
  unfold typeRefOf
  refine keeps_bind (able.nodes _ _ _) fun id c _ known => keeps_pure fun c' later => ?_
  exact able.lasting _ id c c' later known

theorem tame_kept (able : Converts R given start s convert) {α : Type} {e : Except Fault α}
    (tame : Tame e) : R.Keeps start (ofExcept e) fun a _ => e = .ok a :=
  keeps_of_except (fun f failed => able.faults f (tame f failed)) fun _ _ _ same => same

theorem tame_step (able : Converts R given start s convert) {α β : Type} {e : Except Fault α}
    {rest : α → Conversion β} {post : β → Context → Prop} (tame : Tame e)
    (next : ∀ a, e = .ok a → R.Keeps start (rest a) post) : R.Keeps start (ofExcept e >>= rest) post :=
  keeps_of_except_bind (fun f failed => able.faults f (tame f failed)) next

theorem warn_of_kept (able : Converts R given start s convert) {message : Except Fault String}
    (tame : Tame message) : R.Keeps start (warnOf message) fun _ _ => True :=
  tame_step able tame fun _ _ => keeps_warn able.quiet _

theorem note_issue_kept (able : Converts R given start s convert) {issue : Except Fault NodeIssue}
    (tame : Tame issue) : R.Keeps start (noteIssue issue) fun _ _ => True :=
  tame_step able tame fun _ _ => keeps_record able.quiet _

theorem limits_tame {fields : List (String × Value)} : Tame (limitsOf fields) := by
  unfold limitsOf
  split
  · exact tame_ok _
  · exact tame_map _ checked_tame

theorem sound_keywords_kept (able : Converts R given start s convert) (g : Graph)
    (entries : Entries) (name : String) (words : List (String × String)) :
    R.Keeps start (soundKeywords g entries name words) fun _ _ => True := by
  induction words generalizing start with
  | nil => exact keeps_pure fun _ _ => trivial
  | cons word rest ih =>
      unfold soundKeywords
      simp only
      split
      · exact ih able
      · split
        · refine keeps_bind (ih able) ?_
          exact fun _ _ _ _ => keeps_pure fun _ _ => trivial
        · refine keeps_bind (warn_of_kept able (tame_map _ printed_tame)) ?_
          exact fun _ _ later _ => ih (converts_later able later)

theorem constraints_of_kept (able : Converts R given start s convert) (g : Graph)
    (entries : Entries) (name : String) :
    R.Keeps start (constraintsOf g entries name) fun _ _ => True := by
  unfold constraintsOf
  refine keeps_bind (sound_keywords_kept able g entries name keywords) fun fields c later _ => ?_
  exact keeps_of_except (fun f failed => able.faults f (limits_tame f failed)) fun _ _ _ _ => trivial

theorem discriminator_of_kept (able : Converts R given start s convert) (g : Graph)
    (entries : Entries) (name : String) :
    R.Keeps start (discriminatorOf g entries name) fun fields _ =>
      fields = declaredDiscriminator g entries := by
  unfold discriminatorOf declaredDiscriminator
  simp only
  split
  next fields found => exact keeps_pure fun _ _ => by rw [found]; rfl
  next none_ =>
    rw [none_]
    split
    · refine keeps_bind (warn_of_kept able (tame_map _ printed_tame)) ?_
      exact fun _ _ _ _ => keeps_pure fun _ _ => rfl
    · exact keeps_pure fun _ _ => rfl

theorem checked_kept (able : Converts R given start s convert) {α : Type} {title : String}
    {check : Check α} {fields : List (String × Value)} {post : α → Prop}
    (made : ∀ a, check (.object fields) = .ok a → post a) :
    R.Keeps start (ofExcept (checked title check fields)) fun a _ => post a :=
  keeps_of_except (fun f failed => able.faults f (checked_tame f failed))
    fun a _ _ passed => made a (checked_ok passed)

theorem checked_step (able : Converts R given start s convert) {α β : Type} {title : String}
    {check : Check α} {fields : List (String × Value)} {made : α → Prop} {rest : α → Conversion β}
    {post : β → Context → Prop} (passed : ∀ a, check (.object fields) = .ok a → made a)
    (next : ∀ a, made a → R.Keeps start (rest a) post) :
    R.Keeps start (ofExcept (checked title check fields) >>= rest) post :=
  tame_step able checked_tame fun a same => next a (passed a (checked_ok same))

theorem property_of_kept (able : Converts R given start s convert) (owner : String) (name : Scalar)
    (node : Item) :
    R.Keeps start (propertyOf s convert owner name node) fun p c =>
      PropertyAt (given · · c) (name, node) p := by
  unfold propertyOf
  refine tame_step able printed_tame fun _ _ => ?_
  refine keeps_bind (type_ref_of_kept able _ _ _) fun type c later known => ?_
  refine keeps_bind (constraints_of_kept (converts_later able later) _ _ _) ?_
  intro limits c' later' _
  refine checked_step (converts_later able (R.trans later later')) property_ok fun p read => ?_
  refine keeps_pure fun c'' later'' => ⟨read.1, ?_⟩
  have held : given (.node node) type.typeId c'' := able.lasting _ _ c c'' (R.trans later' later'') known
  rw [← read.2.1] at held
  exact held

def Demands (d : Document) (id : Nat) (v : Value) : Prop :=
  ∃ entries items item, d.graph.entries? (.node id) = some entries ∧
    itemsOrNone d.graph (fieldOf entries "required") = .ok items ∧ item ∈ items ∧ d.graph.value item = v

theorem demanded_names {d : Document} {id : Nat} {entries : Entries} {optional : Bool}
    {names : List Item} (map : d.graph.entries? (.node id) = some entries)
    (read : demandedNames d.graph entries optional = .ok names) :
    ∀ item ∈ names, Demands d id (d.graph.value item) := by
  intro item member
  cases optional with
  | true =>
      cases read
      cases member
  | false => exact ⟨entries, names, item, map, read, member, rfl⟩

structure Agrees (d : Document) (given : Given) (visited : Visited) (sofar : Gathered) : Prop where
  properties : List.Forall₂ (fun entry p => entry.1 = p.1 ∧ PropertyAt given entry p.2) visited.1
    sofar.properties
  seen : sofar.seen = visited.2
  required : ∀ v ∈ sofar.required, ∃ id ∈ visited.2, Demands d id v

theorem agrees_later (able : Converts R given start s convert) {visited : Visited}
    {sofar : Gathered} {c c' : Context} (later : R.grows c c')
    (agree : Agrees s.document (given · · c) visited sofar) :
    Agrees s.document (given · · c') visited sofar := by
  refine ⟨agree.properties.imp fun entry p same => ⟨same.1, same.2.1, ?_⟩, agree.seen, agree.required⟩
  exact able.lasting _ _ c c' later same.2.2

theorem insert_agrees {given : Given} {entries : Entries} {properties : List (Scalar × Property)}
    (agree : List.Forall₂ (fun entry p => entry.1 = p.1 ∧ PropertyAt given entry p.2) entries
      properties) {name : Scalar} {node : Item} {p : Property}
    (made : PropertyAt given (name, node) p) :
    List.Forall₂ (fun entry p => entry.1 = p.1 ∧ PropertyAt given entry p.2)
      (insertEntry entries name node) (insertEntry properties name p) := by
  induction agree with
  | nil => exact .cons ⟨rfl, made⟩ .nil
  | @cons entry q entries properties same rest ih =>
      obtain ⟨key, item⟩ := entry
      obtain ⟨key', q⟩ := q
      obtain ⟨rfl, made'⟩ := same
      simp only [insertEntry]
      cases replaced : key.same name with
      | true =>
          rw [if_pos rfl, if_pos rfl]
          have equal : key = name := same_of_text made.1 replaced
          exact .cons ⟨rfl, by rw [equal]; exact made⟩ rest
      | false => exact .cons ⟨rfl, made'⟩ ih

theorem own_properties_kept (able : Converts R given start s convert) (owner : String)
    (own : Entries) (visited : Visited) (sofar : Gathered)
    (agree : Agrees s.document (given · · start) visited sofar) :
    R.Keeps start (ownProperties s convert owner sofar own) fun result c =>
      Agrees s.document (given · · c) (declare visited.1 own, visited.2) result := by
  induction own generalizing visited sofar start with
  | nil => exact keeps_pure fun c later => agrees_later able later agree
  | cons entry rest ih =>
      obtain ⟨name, node⟩ := entry
      unfold ownProperties
      refine keeps_bind (property_of_kept able owner name node) fun p c later made => ?_
      have agree' := agrees_later able later agree
      exact ih (converts_later able later) (insertEntry visited.1 name node, visited.2) _
        ⟨insert_agrees agree'.properties made, agree'.seen, agree'.required⟩

def Gathers (R : Regime Context Fault) (given : Part → String → Context → Prop) (d : Document)
    (start : Context) (gather : Gather) (visit : Item → Visited → Visited) : Prop :=
  ∀ node owner optional visited sofar c, R.grows start c → Agrees d (given · · c) visited sofar →
    R.Keeps c (gather node owner optional sofar) fun result c =>
      Agrees d (given · · c) (visit node visited) result.1

theorem gathers_later {d : Document} {gather : Gather} {visit : Item → Visited → Visited} {c : Context}
    (later : R.grows start c) (gathers : Gathers R given d start gather visit) :
    Gathers R given d c gather visit :=
  fun node owner optional visited sofar c' later' =>
    gathers node owner optional visited sofar c' (R.trans later later')

theorem gather_member_kept (able : Converts R given start s convert) {gather : Gather}
    {visit : Item → Visited → Visited} (gathers : Gathers R given s.document start gather visit)
    {owner composition : String} {optional : Bool} {visited : Visited}
    {state : Gathered × Option String} {member : Item × Nat}
    (agree : Agrees s.document (given · · start) visited state.1) :
    R.Keeps start (gatherMember s gather owner composition optional state member) fun result c =>
      Agrees s.document (given · · c) (visitMember s.document visit visited member.1) result.1 := by
  unfold gatherMember visitMember Scope.graph
  simp only
  split
  · refine tame_step able member_owner_tame fun inner _ => ?_
    refine keeps_bind (gathers _ inner optional visited state.1 start (R.refl start) agree) ?_
    exact fun result c' _ agree' => keeps_pure fun c'' later'' => agrees_later able later'' agree'
  · refine keeps_bind (note_issue_kept able broken_reference_tame) fun _ c later _ => ?_
    exact keeps_pure fun c' later' => agrees_later able (R.trans later later') agree

theorem members_kept (able : Converts R given start s convert) {gather : Gather}
    {visit : Item → Visited → Visited} (gathers : Gathers R given s.document start gather visit)
    (owner composition : String) (optional : Bool) {visited : Visited}
    {state : Gathered × Option String} (members : List Item)
    (agree : Agrees s.document (given · · start) visited state.1) :
    R.Keeps start (members.zipIdx.foldlM (gatherMember s gather owner composition optional) state)
      fun result c =>
        Agrees s.document (given · · c) (members.foldl (visitMember s.document visit) visited) result.1 := by
  have each : ∀ (state : Gathered × Option String) visited member c, R.grows start c →
      member ∈ members.zipIdx → Agrees s.document (given · · c) visited state.1 →
      R.Keeps c (gatherMember s gather owner composition optional state member) fun result c =>
        Agrees s.document (given · · c) (visitMember s.document visit visited member.1) result.1 :=
    fun _ _ _ _ later _ agree =>
      gather_member_kept (converts_later able later) (gathers_later later gathers) agree
  have lasting : ∀ (state : Gathered × Option String) visited c c', R.grows c c' →
      Agrees s.document (given · · c) visited state.1 → Agrees s.document (given · · c') visited state.1 :=
    fun _ _ _ _ later agree => agrees_later able later agree
  have folded := keeps_fold (fun seen member => visitMember s.document visit seen member.1)
    (fun state visited c => Agrees s.document (given · · c) visited state.1) members.zipIdx state visited agree
    lasting each
  have same : members.zipIdx.foldl (fun seen member => visitMember s.document visit seen member.1)
      visited = members.foldl (visitMember s.document visit) visited := by
    have mapped : (members.zipIdx.map Prod.fst).foldl (visitMember s.document visit) visited =
        members.zipIdx.foldl (fun seen member => visitMember s.document visit seen member.1) visited :=
      List.foldl_map
    rw [List.zipIdx_map_fst] at mapped
    exact mapped.symm
  rw [same] at folded
  exact folded

theorem require_agrees {given : Given} {d : Document} {visited : Visited} {names : List Item} {id : Nat}
    (demanded : ∀ item ∈ names, Demands d id (d.graph.value item)) {sofar : Gathered}
    (agree : Agrees d given visited sofar) (inside : id ∈ visited.2) :
    Agrees d given visited (names.foldl (addRequired d.graph) sofar) := by
  induction names generalizing sofar with
  | nil => exact agree
  | cons name rest ih =>
      refine ih (fun item member => demanded item (by simp [member]))
        ⟨agree.properties, agree.seen, fun v member => ?_⟩
      simp only [addRequired, addDistinct] at member
      split at member
      · exact agree.required v member
      · obtain before | now := List.mem_append.mp member
        · exact agree.required v before
        · rw [List.mem_singleton.mp now]
          exact ⟨id, inside, demanded name (by simp)⟩

theorem visit_fields_read {d : Document} {visit : Item → Visited → Visited} {entries own : Entries}
    {visited : Visited} {all any : List Item}
    (allRead : itemsOrNone d.graph (fieldOf entries "allOf") = .ok all)
    (anyRead : itemsOrNone d.graph (fieldOf entries "anyOf") = .ok any)
    (ownRead : entriesOrNone d.graph (fieldOf entries "properties") = .ok own) :
    visitFields d visit entries visited =
      (declare (any.foldl (visitMember d visit) (all.foldl (visitMember d visit) visited)).1 own,
        (any.foldl (visitMember d visit) (all.foldl (visitMember d visit) visited)).2) := by
  simp [visitFields, membersOf, allRead, anyRead, ownRead, Except.toOption]

theorem gather_fields_kept (able : Converts R given start s convert) {gather : Gather}
    {visit : Item → Visited → Visited} (gathers : Gathers R given s.document start gather visit)
    {id : Nat} {entries : Entries} (map : s.document.graph.entries? (.node id) = some entries)
    (grows : ∀ node sofar, sofar.2 ⊆ (visit node sofar).2) (owner : String) (optional : Bool)
    {visited : Visited} (inside : id ∈ visited.2) {sofar : Gathered}
    (agree : Agrees s.document (given · · start) visited sofar) :
    R.Keeps start (gatherFields s convert gather entries owner optional sofar) fun result c =>
      Agrees s.document (given · · c) (visitFields s.document visit entries visited) result.1 := by
  unfold gatherFields
  refine tame_step able items_or_none_tame fun all allRead => ?_
  refine keeps_bind (members_kept able gathers owner "allOf" optional all agree) fun state c₁ later₁ agree₁ => ?_
  have able₁ := converts_later able later₁
  refine tame_step able₁ items_or_none_tame fun any anyRead => ?_
  refine keeps_bind (members_kept able₁ (gathers_later later₁ gathers) owner "anyOf" true any agree₁)
    fun state c₂ later₂ agree₂ => ?_
  have able₂ := converts_later able₁ later₂
  refine tame_step able₂ entries_or_none_tame fun own ownRead => ?_
  refine keeps_bind (own_properties_kept able₂ owner own _ _ agree₂) fun sofar c₃ later₃ agree₃ => ?_
  have able₃ := converts_later able₂ later₃
  rw [visit_fields_read allRead anyRead ownRead]
  refine tame_step able₃ demanded_names_tame fun names read => ?_
  refine keeps_bind (discriminator_of_kept able₃ _ entries owner) fun fields c₄ later₄ _ => ?_
  have still : id ∈ (any.foldl (visitMember s.document visit)
      (all.foldl (visitMember s.document visit) visited)).2 :=
    members_visited grows any _ (members_visited grows all _ inside)
  have agree₄ := require_agrees (demanded_names map read) (agrees_later able₃ later₄ agree₃) still
  split
  all_goals exact keeps_pure fun c later => agrees_later able₃ later agree₄

theorem gather_kept (fuel : Nat) (able : Converts R given start s convert) :
    Gathers R given s.document start (gather s convert fuel) (visitNode s.document fuel) := by
  induction fuel with
  | zero =>
      intro node owner optional visited sofar c later agree
      unfold gather visitNode
      exact keeps_pure fun c later => agrees_later able later agree
  | succ fuel ih =>
      intro node owner optional visited sofar c later agree
      unfold gather visitNode Scope.graph
      cases node with
      | scalar a => exact keeps_pure fun c later => agrees_later able later agree
      | node id =>
          cases found : s.document.graph.entries? (.node id) with
          | none => exact keeps_pure fun c later => agrees_later able later agree
          | some entries =>
              simp only
              rw [agree.seen]
              split
              · exact keeps_pure fun c later => agrees_later able later agree
              · refine gather_fields_kept (converts_later able later) (gathers_later later ih) found
                  (node_visited _ fuel) owner optional (List.mem_cons_self ..) ⟨agree.properties, rfl, ?_⟩
                intro v member
                obtain ⟨n, before, demands⟩ := agree.required v member
                exact ⟨n, List.mem_cons_of_mem id before, demands⟩

end Builders

end ApiSchema.OpenApi
