import ApiSchema.Proofs.Json.Floats
import ApiSchema.Proofs.Check.Record
import ApiSchema.Value.Plain

/-!
JSON values, and what is read of the text that is written for one.

The reader takes two hundred levels and integers of a few thousand digits. A value within these
comes back as it was, whatever the indentation; any other is refused.
-/

namespace ApiSchema

def Scalar.IsJson : Scalar → Prop
  | .null | .bool _ | .int _ | .text _ => True
  | .float x => x.ReadsBack
  | .bytes _ | .date _ | .moment _ => False

/-- A value of JSON: floats are finite, and the names of a map are texts and distinct. -/
inductive Value.IsJson : Value → Prop where
  | scalar {s : Scalar} (plain : s.IsJson) : IsJson (.scalar s)
  | list {items : List Value} (each : ∀ v ∈ items, IsJson v) : IsJson (.list items)
  | map {entries : List (Scalar × Value)} (named : ∀ e ∈ entries, ∃ name, e.1 = .text name)
      (distinct : (entries.map Prod.fst).Nodup) (each : ∀ e ∈ entries, IsJson e.2) :
      IsJson (.map entries)

instance (s : Scalar) : Decidable s.IsJson :=
  match s with
  | .null | .bool _ | .int _ | .text _ => .isTrue trivial
  | .float _ => decidable_of_iff' _ reads_back_iff
  | .bytes _ | .date _ | .moment _ => .isFalse id

def Scalar.IsName : Scalar → Prop
  | .text name => Text.isEncodable name = true
  | _ => False

instance (s : Scalar) : Decidable s.IsName := by
  unfold Scalar.IsName
  split <;> infer_instance

/-- A value of JSON that is its own JSON form: names can be encoded, and no more than `levels` values
are around each other. -/
def Value.IsPlain : Nat → Value → Prop
  | 0, _ => False
  | _ + 1, .scalar s => s.IsJson
  | levels + 1, .list items => ∀ v ∈ items, v.IsPlain levels
  | levels + 1, .map entries =>
      (entries.map Prod.fst).Nodup ∧ ∀ e ∈ entries, e.1.IsName ∧ e.2.IsPlain levels
  | _ + 1, .set _ | _ + 1, .pair .. | _ + 1, .loop _ => False

def Value.decidePlain : (levels : Nat) → (v : Value) → Decidable (v.IsPlain levels)
  | 0, _ => .isFalse id
  | _ + 1, .scalar s => inferInstanceAs (Decidable s.IsJson)
  | levels + 1, .list items =>
      letI := decidePlain levels
      inferInstanceAs (Decidable (∀ v ∈ items, v.IsPlain levels))
  | levels + 1, .map entries =>
      letI := decidePlain levels
      inferInstanceAs (Decidable ((entries.map Prod.fst).Nodup ∧
        ∀ e ∈ entries, e.1.IsName ∧ e.2.IsPlain levels))
  | _ + 1, .set _ | _ + 1, .pair .. | _ + 1, .loop _ => .isFalse id

instance (levels : Nat) (v : Value) : Decidable (v.IsPlain levels) := v.decidePlain levels

theorem name_text {s : Scalar} (name : s.IsName) : ∃ text, s = .text text ∧ Text.isEncodable text = true := by
  cases s with
  | text name' => exact ⟨name', rfl, name⟩
  | _ => exact name.elim

theorem plain_is_json {levels : Nat} {v : Value} (plain : v.IsPlain levels) : v.IsJson := by
  induction levels generalizing v with
  | zero => exact plain.elim
  | succ levels ih =>
      cases v with
      | scalar s => exact .scalar plain
      | list items => exact .list fun v member => ih (plain v member)
      | map entries =>
          obtain ⟨distinct, each⟩ := plain
          refine .map (fun e member => ?_) distinct fun e member => ih (each e member).2
          obtain ⟨name, same, -⟩ := name_text (each e member).1
          exact ⟨name, same⟩
      | set | pair | loop => exact plain.elim

theorem each_same {α ε : Type} {step : α → Except ε α} {items : List α}
    (each : ∀ a ∈ items, step a = .ok a) : items.mapM step = .ok items := by
  induction items with
  | nil => rfl
  | cons a rest ih =>
      rw [List.mapM_cons, each a (by simp), ih fun b member => each b (by simp [member])]
      rfl

theorem entries_plain {plain : Value → Except PlainFault Value} {entries : List (Scalar × Value)}
    (each : ∀ e ∈ entries, e.1.IsName ∧ plain e.2 = .ok e.2) :
    plainEntries plain entries = .ok entries := by
  refine each_same fun e member => ?_
  obtain ⟨key, v⟩ := e
  obtain ⟨named, same⟩ := each _ member
  obtain ⟨name, rfl, encodable⟩ := name_text named
  simp only [Scalar.plainName, encodable, if_true, same]
  rfl

theorem plain_same {levels : Nat} {v : Value} (plain : v.IsPlain levels) :
    v.plainWithin levels = .ok v := by
  induction levels generalizing v with
  | zero => exact plain.elim
  | succ levels ih =>
      cases v with
      | scalar s =>
          cases s with
          | float x =>
              have finite : x.isFinite = true := reads_back_iff.mp plain
              simp only [Value.plainWithin, Scalar.plain, finite, if_true]
              rfl
          | null | bool | int | text => rfl
          | bytes | date | moment => exact plain.elim
      | list items =>
          rw [Value.plainWithin, each_same fun v member => ih (plain v member)]
          rfl
      | map entries =>
          rw [Value.plainWithin, entries_plain fun e member =>
            ⟨(plain.2 e member).1, ih (plain.2 e member).2⟩]
          rfl
      | set | pair | loop => exact plain.elim

def Scalar.Fits : Scalar → Prop
  | .int n => (decimalText n).toList.length ≤ digitLimit
  | _ => True

/-- A value whose text the reader takes: the lists and maps in it, the empty ones left out, nest no
deeper than `depth`, and no integer is too long. -/
def Value.FitsIn : Nat → Value → Prop
  | _, .scalar s => s.Fits
  | 0, .list items => items = []
  | depth + 1, .list items => ∀ v ∈ items, v.FitsIn depth
  | 0, .map entries => entries = []
  | depth + 1, .map entries => ∀ e ∈ entries, e.2.FitsIn depth
  | _, .set _ | _, .pair .. | _, .loop _ => True

instance (s : Scalar) : Decidable s.Fits := by
  unfold Scalar.Fits
  split <;> infer_instance

def Value.decideFits : (depth : Nat) → (v : Value) → Decidable (v.FitsIn depth)
  | 0, .scalar s | _ + 1, .scalar s => inferInstanceAs (Decidable s.Fits)
  | 0, .list items => inferInstanceAs (Decidable (items = []))
  | depth + 1, .list items =>
      letI := decideFits depth
      inferInstanceAs (Decidable (∀ v ∈ items, v.FitsIn depth))
  | 0, .map entries => inferInstanceAs (Decidable (entries = []))
  | depth + 1, .map entries =>
      letI := decideFits depth
      inferInstanceAs (Decidable (∀ e ∈ entries, e.2.FitsIn depth))
  | 0, .set _ | _ + 1, .set _ | 0, .pair .. | _ + 1, .pair .. | 0, .loop _ | _ + 1, .loop _ => .isTrue trivial

instance (depth : Nat) (v : Value) : Decidable (v.FitsIn depth) := v.decideFits depth

mutual

def Value.scalars : Value → List Scalar
  | .scalar s => [s]
  | .list items => scalarsOfItems items
  | .map entries => scalarsOfEntries entries
  | .set _ | .pair .. | .loop _ => []

def scalarsOfItems : List Value → List Scalar
  | [] => []
  | v :: rest => v.scalars ++ scalarsOfItems rest

def scalarsOfEntries : List (Scalar × Value) → List Scalar
  | [] => []
  | (key, v) :: rest => key :: v.scalars ++ scalarsOfEntries rest

end

theorem scalar_of_item {items : List Value} {v : Value} (member : v ∈ items) :
    ∀ s ∈ v.scalars, s ∈ scalarsOfItems items := by
  induction items with
  | nil => cases member
  | cons w rest ih =>
      intro s there
      rw [scalarsOfItems, List.mem_append]
      obtain rfl | later := List.mem_cons.mp member
      · exact .inl there
      · exact .inr (ih later s there)

theorem scalar_of_entry {entries : List (Scalar × Value)} {e : Scalar × Value} (member : e ∈ entries) :
    e.1 ∈ scalarsOfEntries entries ∧ ∀ s ∈ e.2.scalars, s ∈ scalarsOfEntries entries := by
  induction entries with
  | nil => cases member
  | cons f rest ih =>
      rw [scalarsOfEntries]
      obtain rfl | later := List.mem_cons.mp member
      · exact ⟨by simp, fun s there => by simp [there]⟩
      · exact ⟨by simp [(ih later).1], fun s there => by simp [(ih later).2 s there]⟩

def Scalar.Encodes : Scalar → Prop
  | .text s => Text.isEncodable s = true
  | _ => True

instance (s : Scalar) : Decidable s.Encodes := by
  unfold Scalar.Encodes
  split <;> infer_instance

namespace Json

open Strict

variable {indent : Option Nat}

def Blank (text : List Char) : Prop := ∀ c ∈ text, isSpace c = true

theorem break_blank (indent : Option Nat) (level : Nat) : Blank ((Style.canonical indent).break level) := by
  cases indent with
  | none => simp [Style.break, Style.canonical, Blank]
  | some width =>
      intro c member
      simp only [Style.break, Style.canonical, List.mem_cons, List.mem_replicate] at member
      rcases member with rfl | ⟨_, rfl⟩ <;> rfl

@[simp] theorem Style.canonical_ascii : (Style.canonical indent).ascii = false := rfl

theorem separator_comma (level : Nat) :
    (Style.canonical indent).separator level = ',' :: (Style.canonical indent).break level := by
  cases indent <;> rfl

theorem colon_blank (indent : Option Nat) : ∃ blank, (Style.canonical indent).colon.toList = ':' :: blank ∧ Blank blank := by
  cases indent with
  | none => exact ⟨[], by decide, by simp [Blank]⟩
  | some width => exact ⟨[' '], by change ": ".toList = _; decide, by simp [Blank, isSpace]⟩

theorem skip_light {c : Char} {rest : List Char} (plain : isSpace c = false) :
    Strict.skip (c :: rest) = c :: rest := by
  simp [Strict.skip, plain]

theorem skip_blank {blank : List Char} {c : Char} {rest : List Char} (dark : Blank blank)
    (plain : isSpace c = false) : Strict.skip (blank ++ c :: rest) = c :: rest := by
  rw [Strict.skip, List.dropWhile_append_of_pos dark]
  exact skip_light plain

theorem text_read (s : String) {fuel : Nat} (rest : List Char)
    (enough : (s.toList.flatMap (escapeChar false)).length < fuel) :
    Strict.string fuel [] (s.toList.flatMap (escapeChar false) ++ '"' :: rest) = .ok (s, rest) := by
  rw [string_read s.toList enough]
  simp

theorem text_value {depth fuel : Nat} {rest : List Char} (s : String)
    (enough : (s.toList.flatMap (escapeChar false)).length < fuel + 1) :
    Strict.value depth (fuel + 1) (Json.string false s ++ rest) = .ok (.text s, rest) := by
  have read := text_read s rest enough
  have opened : Json.string false s ++ rest =
      '"' :: (s.toList.flatMap (escapeChar false) ++ '"' :: rest) := by
    simp [Json.string]
  rw [opened, Strict.value, read]
  rfl

theorem scalar_value {s : Scalar} (plain : s.IsJson) (fits : s.Fits) {depth fuel : Nat}
    {rest : List Char} (enough : ((Style.canonical indent).scalar s).length ≤ fuel + 1) (ended : Ended rest) :
    Strict.value depth (fuel + 1) ((Style.canonical indent).scalar s ++ rest) =
      .ok (.scalar s, rest) := by
  cases s with
  | null => rfl
  | bool b => cases b <;> rfl
  | int n => exact integer_value ended fits
  | float x => exact float_value plain ended
  | text s =>
      have body : (s.toList.flatMap (escapeChar false)).length < fuel + 1 := by
        simp only [Style.scalar, Style.canonical, Json.string, List.length_cons, List.length_append]
          at enough
        omega
      exact text_value s body
  | bytes | date | moment => exact plain.elim

theorem value_head {depth fuel : Nat} {text : List Char} {found : Value × List Char}
    (read : Strict.value depth (fuel + 1) text = .ok found) :
    ∃ c more, text = c :: more ∧ isSpace c = false ∧ c ≠ ']' ∧ c ≠ '\x7d' := by
  cases text with
  | nil => cases read
  | cons c more =>
      refine ⟨c, more, rfl, ?_⟩
      by_cases known : isSpace c = true ∨ c = ']' ∨ c = '\x7d'
      · simp only [isSpace, Bool.or_eq_true, beq_iff_eq] at known
        rcases known with (((rfl | rfl) | rfl) | rfl) | rfl | rfl <;>
          simp [Strict.value, Strict.fail] at read
      · simpa using known

theorem integer_head (n : Int) : ∃ c more, (decimalText n).toList = c :: more ∧ isSpace c = false ∧
    c ≠ ']' ∧ c ≠ '\x7d' := by
  rw [decimal_text]
  split
  · exact ⟨'-', _, rfl, rfl, by decide, by decide⟩
  · obtain ⟨each, filled⟩ := digits_of_number n.natAbs
    cases digits : Nat.toDigits 10 n.natAbs with
    | nil => exact absurd digits filled
    | cons d more =>
        have plain : decimalDigits.all (fun c => !isSpace c && c != ']' && c != '\x7d') = true := by decide
        have digit := List.all_eq_true.mp plain d (digit_listed (each d (by simp [digits])))
        refine ⟨d, more, rfl, ?_⟩
        simpa [and_assoc] using digit

theorem write_head (indent : Option Nat) {v : Value} (json : v.IsJson) (level : Nat) :
    ∃ c more, (Style.canonical indent).write level v = c :: more ∧ isSpace c = false ∧
      c ≠ ']' ∧ c ≠ '\x7d' := by
  cases json with
  | @scalar s plain =>
      rw [Style.write]
      by_cases fits : s.Fits
      · have read : Strict.value 0 (((Style.canonical indent).scalar s).length + 1)
            ((Style.canonical indent).scalar s ++ []) = .ok (.scalar s, []) :=
          scalar_value plain fits (by omega) (fun c first => by cases first)
        rw [List.append_nil] at read
        exact value_head read
      · cases s with
        | int n => exact integer_head n
        | _ => exact absurd trivial fits
  | @list items _ =>
      cases items with
      | nil => exact ⟨'[', _, rfl, rfl, by decide, by decide⟩
      | cons v rest => exact ⟨'[', _, rfl, rfl, by decide, by decide⟩
  | @map entries _ _ _ =>
      cases entries with
      | nil => exact ⟨'\x7b', _, rfl, rfl, by decide, by decide⟩
      | cons entry rest => exact ⟨'\x7b', _, rfl, rfl, by decide, by decide⟩

theorem scalar_stuck {s : Scalar} (plain : s.IsJson) (long : ¬ s.Fits) {depth fuel : Nat}
    {rest : List Char} (ended : Ended rest) : ∃ failure,
      Strict.value depth (fuel + 1) ((Style.canonical indent).scalar s ++ rest) = .error failure := by
  cases s with
  | int n => exact integer_stuck ended (Nat.not_le.mp long)
  | null | bool | float | text => exact absurd trivial long
  | bytes | date | moment => exact plain.elim

def Reads {α : Type} (within : Prop) (answer : Step α) (found : α) : Prop :=
  (within → answer = .ok found) ∧ (¬ within → ∃ failure, answer = .error failure)

def ComesBack (indent : Option Nat) (v : Value) : Prop :=
  ∀ level depth fuel rest, 2 * ((Style.canonical indent).write level v).length ≤ fuel →
    Ended rest → Reads (v.FitsIn depth)
      (Strict.value depth fuel ((Style.canonical indent).write level v ++ rest)) (v, rest)

theorem ended_of {c : Char} {rest : List Char}
    (stop : c.isDigit = false ∧ c ≠ '.' ∧ c ≠ 'e' ∧ c ≠ 'E') : Ended (c :: rest) := by
  intro d first
  cases first
  exact stop

theorem ended_blank {blank : List Char} {c : Char} {rest : List Char} (dark : Blank blank)
    (stop : c.isDigit = false ∧ c ≠ '.' ∧ c ≠ 'e' ∧ c ≠ 'E') : Ended (blank ++ c :: rest) := by
  cases blank with
  | nil => exact ended_of stop
  | cons d more =>
      have space := dark d (by simp)
      simp only [isSpace, Bool.or_eq_true, beq_iff_eq] at space
      rcases space with ((rfl | rfl) | rfl) | rfl <;> exact ended_of (by decide)

theorem elements_last {depth fuel : Nat} {done : List Value} {v : Value} {text blank rest : List Char}
    (dark : Blank blank) (read : Strict.value depth fuel text = .ok (v, blank ++ ']' :: rest)) :
    Strict.elements depth (fuel + 1) done text = .ok (.list (done.reverse ++ [v]), rest) := by
  have closed : Strict.skip (blank ++ ']' :: rest) = ']' :: rest := skip_blank dark rfl
  rw [Strict.elements, read]
  simp only [bind, Except.bind, closed, List.reverse_cons]
  rfl

theorem elements_next {depth fuel : Nat} {done : List Value} {v : Value} {c : Char}
    {text blank rest : List Char} (dark : Blank blank) (light : isSpace c = false) (inside : c ≠ ']')
    (read : Strict.value depth fuel text = .ok (v, ',' :: (blank ++ c :: rest))) :
    Strict.elements depth (fuel + 1) done text =
      Strict.elements depth fuel (v :: done) (c :: rest) := by
  have comma : Strict.skip (',' :: (blank ++ c :: rest)) = ',' :: (blank ++ c :: rest) := rfl
  have item : Strict.skip (blank ++ c :: rest) = c :: rest := skip_blank dark light
  rw [Strict.elements, read]
  simp only [bind, Except.bind, comma, item]
  split
  next empty => cases empty
  next after same => cases same; exact absurd rfl inside
  · rfl

theorem elements_stuck {depth fuel : Nat} {done : List Value} {text : List Char} {failure : Strict.Failure}
    (failed : Strict.value depth fuel text = .error failure) :
    Strict.elements depth (fuel + 1) done text = .error failure := by
  rw [Strict.elements, failed]
  rfl

theorem elements_read {level depth : Nat} {blank rest : List Char} (dark : Blank blank)
    {items : List Value} : ∀ {v : Value} {done : List Value} {fuel : Nat},
      (∀ w ∈ v :: items, w.IsJson ∧ ComesBack indent w) →
      2 * (((Style.canonical indent).write level v).length +
        ((Style.canonical indent).writeRest level items).length + 1) ≤ fuel →
      Reads (∀ w ∈ v :: items, w.FitsIn depth)
        (Strict.elements depth fuel done ((Style.canonical indent).write level v ++
          ((Style.canonical indent).writeRest level items ++ (blank ++ ']' :: rest))))
        (.list (done.reverse ++ v :: items), rest) := by
  -- What is left to read gets shorter with each item, so the fuel that suffices for twice its length is
  -- enough throughout.
  induction items with
  | nil =>
      intro v done fuel each enough
      obtain ⟨fuel, rfl⟩ : ∃ n, fuel = n + 1 := ⟨fuel - 1, by omega⟩
      obtain ⟨fits, deep⟩ := (each v (by simp)).2 level depth fuel (blank ++ ']' :: rest)
        (by omega) (ended_blank dark (by decide))
      simp only [Style.writeRest, List.nil_append, List.forall_mem_singleton]
      refine ⟨fun within => elements_last dark (fits within), fun beyond => ?_⟩
      obtain ⟨failure, failed⟩ := deep beyond
      exact ⟨failure, elements_stuck failed⟩
  | cons w more ih =>
      intro v done fuel each enough
      obtain ⟨fuel, rfl⟩ : ∃ n, fuel = n + 1 := ⟨fuel - 1, by omega⟩
      simp only [Style.writeRest, separator_comma, List.length_append, List.length_cons] at enough
      obtain ⟨c, tail, opens, light, inside, -⟩ := write_head indent
        (each w (by simp)).1 level
      have spread : (Style.canonical indent).writeRest level (w :: more) ++ (blank ++ ']' :: rest) =
          ',' :: ((Style.canonical indent).break level ++ c :: (tail ++
            ((Style.canonical indent).writeRest level more ++ (blank ++ ']' :: rest)))) := by
        simp [Style.writeRest, separator_comma, opens]
      obtain ⟨fits, deep⟩ := (each v (by simp)).2 level depth fuel _ (by omega)
        (ended_of (c := ',') (by decide))
      obtain ⟨through, stuck⟩ := @ih w (v :: done) fuel
        (fun u member => each u (List.mem_cons_of_mem v member)) (by omega)
      rw [opens, List.cons_append] at through stuck
      rw [spread, List.forall_mem_cons]
      by_cases first : v.FitsIn depth
      · rw [elements_next (break_blank indent level) light inside (fits first)]
        refine ⟨fun within => ?_, fun beyond => stuck fun later => beyond ⟨first, later⟩⟩
        simpa using through within.2
      · obtain ⟨failure, failed⟩ := deep first
        exact ⟨fun within => absurd within.1 first, fun _ => ⟨failure, elements_stuck failed⟩⟩

theorem name_read (indent : Option Nat) (name : String) (fuel : Nat) {c : Char} (rest : List Char)
    (light : isSpace c = false) (enough : (Json.string false name).length ≤ fuel) :
    Strict.memberName fuel (Json.string false name ++
      ((Style.canonical indent).colon.toList ++ c :: rest)) = .ok (name, c :: rest) := by
  obtain ⟨blank, colon, dark⟩ := colon_blank indent
  have body : (name.toList.flatMap (escapeChar false)).length < fuel := by
    simp only [Json.string, List.length_cons, List.length_append] at enough
    omega
  have read := text_read name (':' :: (blank ++ c :: rest)) body
  have opened : Json.string false name ++ ((Style.canonical indent).colon.toList ++ c :: rest) =
      '"' :: (name.toList.flatMap (escapeChar false) ++ '"' :: ':' :: (blank ++ c :: rest)) := by
    simp [Json.string, colon]
  have marked : Strict.skip (':' :: (blank ++ c :: rest)) = ':' :: (blank ++ c :: rest) := rfl
  have start : Strict.skip (blank ++ c :: rest) = c :: rest := skip_blank dark light
  rw [opened, Strict.memberName, read]
  simp only [bind, Except.bind, marked, start]
  rfl

section Members

variable {depth fuel : Nat} {done : List (Scalar × Value)} {name : String} {v : Value}
  {c : Char} {text blank rest : List Char}

theorem members_last (dark : Blank blank)
    (named : Strict.memberName (fuel + 1) text = .ok (name, rest)) {after : List Char}
    (read : Strict.value depth fuel rest = .ok (v, blank ++ '\x7d' :: after)) :
    Strict.members depth (fuel + 1) done text =
      .ok (.map (insertEntry done (.text name) v), after) := by
  have closed : Strict.skip (blank ++ '\x7d' :: after) = '\x7d' :: after := skip_blank dark rfl
  rw [Strict.members, named]
  simp only [bind, Except.bind, read, closed]
  rfl

theorem members_next (dark : Blank blank) (light : isSpace c = false) (inside : c ≠ '\x7d')
    (named : Strict.memberName (fuel + 1) text = .ok (name, rest)) {after : List Char}
    (read : Strict.value depth fuel rest = .ok (v, ',' :: (blank ++ c :: after))) :
    Strict.members depth (fuel + 1) done text =
      Strict.members depth fuel (insertEntry done (.text name) v) (c :: after) := by
  have comma : Strict.skip (',' :: (blank ++ c :: after)) = ',' :: (blank ++ c :: after) := rfl
  have item : Strict.skip (blank ++ c :: after) = c :: after := skip_blank dark light
  rw [Strict.members, named]
  simp only [bind, Except.bind, read, comma, item]
  split
  next empty => cases empty
  next later same => cases same; exact absurd rfl inside
  · rfl

theorem members_stuck {failure : Strict.Failure}
    (named : Strict.memberName (fuel + 1) text = .ok (name, rest))
    (failed : Strict.value depth fuel rest = .error failure) :
    Strict.members depth (fuel + 1) done text = .error failure := by
  rw [Strict.members, named]
  simp only [bind, Except.bind, failed]

end Members

theorem insert_new {done : List (Scalar × Value)} {name : String} {v : Value}
    (fresh : ∀ e ∈ done, e.1.same (.text name) = false) :
    insertEntry done (.text name) v = done ++ [(.text name, v)] := by
  induction done with
  | nil => rfl
  | cons entry more ih =>
      obtain ⟨key, w⟩ := entry
      have other : key.same (.text name) = false := fresh (key, w) (by simp)
      rw [insertEntry, other, ih fun e member => fresh e (by simp [member])]
      rfl

theorem fresh_of_distinct {done entries : List (Scalar × Value)} {name : String} {v : Value}
    (named : ∀ e ∈ done, ∃ n, e.1 = .text n)
    (distinct : ((done ++ (.text name, v) :: entries).map Prod.fst).Nodup) :
    ∀ e ∈ done, e.1.same (.text name) = false := by
  intro e member
  obtain ⟨n, same⟩ := named e member
  rw [List.map_append, List.nodup_append] at distinct
  have apart := distinct.2.2 e.1 (List.mem_map_of_mem member) (.text name) (by simp)
  rw [same] at apart ⊢
  simpa using apart

theorem members_read {level depth : Nat} {blank rest : List Char} (dark : Blank blank)
    {entries : List (Scalar × Value)} :
    ∀ {name : String} {v : Value} {done : List (Scalar × Value)} {fuel : Nat},
      (∀ e ∈ done ++ (.text name, v) :: entries, ∃ n, e.1 = .text n) →
      ((done ++ (.text name, v) :: entries).map Prod.fst).Nodup →
      (∀ e ∈ (Scalar.text name, v) :: entries, e.2.IsJson ∧ ComesBack indent e.2) →
      2 * ((Json.string false name).length + ((Style.canonical indent).write level v).length +
        ((Style.canonical indent).writeMembers level entries).length + 1) ≤ fuel →
      Reads (∀ e ∈ (Scalar.text name, v) :: entries, e.2.FitsIn depth)
        (Strict.members depth fuel done (Json.string false name ++
          ((Style.canonical indent).colon.toList ++ ((Style.canonical indent).write level v ++
            ((Style.canonical indent).writeMembers level entries ++ (blank ++ '\x7d' :: rest))))))
        (.map (done ++ (.text name, v) :: entries), rest) := by
  -- As for the items of a list; besides, no member has the name of one that was read before it.
  induction entries with
  | nil =>
      intro name v done fuel named distinct each enough
      obtain ⟨fuel, rfl⟩ : ∃ n, fuel = n + 1 := ⟨fuel - 1, by omega⟩
      obtain ⟨json, back⟩ : v.IsJson ∧ ComesBack indent v := each (.text name, v) (by simp)
      obtain ⟨fits, deep⟩ := back level depth fuel (blank ++ '\x7d' :: rest)
        (by omega) (ended_blank dark (by decide))
      obtain ⟨c, tail, opens, light, -⟩ := write_head indent json level
      rw [opens, List.cons_append] at fits deep
      have head := name_read indent name (fuel + 1) (tail ++ (blank ++ '\x7d' :: rest)) light
        (by omega)
      have new := insert_new (v := v) (fresh_of_distinct
        (fun e member => named e (List.mem_append_left _ member)) distinct)
      simp only [Style.writeMembers, List.nil_append, List.forall_mem_singleton, opens,
        List.cons_append]
      refine ⟨fun within => ?_, fun beyond => ?_⟩
      · rw [members_last dark head (fits within), new]
      · obtain ⟨failure, failed⟩ := deep beyond
        exact ⟨failure, members_stuck head failed⟩
  | cons entry more ih =>
      intro name v done fuel named distinct each enough
      obtain ⟨fuel, rfl⟩ : ∃ n, fuel = n + 1 := ⟨fuel - 1, by omega⟩
      obtain ⟨key, w⟩ := entry
      obtain ⟨next, rfl⟩ : ∃ n, key = .text n := named (key, w) (by simp)
      obtain ⟨json, back⟩ : v.IsJson ∧ ComesBack indent v := each (.text name, v) (by simp)
      simp only [Style.writeMembers, Style.name, Style.canonical_ascii, separator_comma,
        List.length_append, List.length_cons] at enough
      obtain ⟨c, tail, opens, light, -⟩ := write_head indent json level
      have quoted : Json.string false next =
          '"' :: (next.toList.flatMap (escapeChar false) ++ ['"']) := rfl
      have new := insert_new (v := v) (fresh_of_distinct
        (fun e member => named e (List.mem_append_left _ member)) distinct)
      have regroup : done ++ (.text name, v) :: (.text next, w) :: more =
          (done ++ [(.text name, v)]) ++ (.text next, w) :: more := by simp
      obtain ⟨through, stuck⟩ := @ih next w (done ++ [(.text name, v)]) fuel
        (regroup ▸ named) (regroup ▸ distinct)
        (fun e member => each e (List.mem_cons_of_mem _ member)) (by omega)
      have spread : (Style.canonical indent).writeMembers level ((.text next, w) :: more) ++
          (blank ++ '\x7d' :: rest) = ',' :: ((Style.canonical indent).break level ++
            '"' :: ((next.toList.flatMap (escapeChar false) ++ ['"']) ++
              ((Style.canonical indent).colon.toList ++ ((Style.canonical indent).write level w ++
                ((Style.canonical indent).writeMembers level more ++ (blank ++ '\x7d' :: rest)))))) := by
        simp [Style.writeMembers, Style.name, separator_comma, quoted]
      obtain ⟨fits, deep⟩ := back level depth fuel _ (by omega) (ended_of (c := ',') (by decide))
      rw [opens, List.cons_append] at fits deep
      have head (after : List Char) := name_read indent name (fuel + 1) after light (by omega)
      rw [quoted, List.cons_append] at through stuck
      rw [spread, List.forall_mem_cons, opens, List.cons_append]
      by_cases first : v.FitsIn depth
      · rw [members_next (break_blank indent level) rfl (by decide) (head _) (fits first), new]
        refine ⟨fun within => ?_, fun beyond => stuck fun later => beyond ⟨first, later⟩⟩
        rw [through within.2, regroup]
      · obtain ⟨failure, failed⟩ := deep first
        exact ⟨fun within => absurd within.1 first, fun _ => ⟨failure, members_stuck (head _) failed⟩⟩

theorem scalar_back {s : Scalar} (plain : s.IsJson) : ComesBack indent (.scalar s) := by
  intro level depth fuel rest enough ended
  obtain ⟨c, tail, opens, -⟩ := write_head indent (.scalar plain) level
  have filled : 0 < ((Style.canonical indent).write level (.scalar s)).length := by
    rw [opens]
    simp
  obtain ⟨fuel, rfl⟩ : ∃ n, fuel = n + 1 := ⟨fuel - 1, by omega⟩
  rw [Style.write] at enough ⊢
  have same : (Value.scalar s).FitsIn depth ↔ s.Fits := by cases depth <;> exact Iff.rfl
  rw [same]
  exact ⟨fun fits => scalar_value plain fits (by omega) ended, fun long => scalar_stuck plain long ended⟩

theorem too_deep {α : Type} {fuel : Nat} {text rest : List Char} {name : String} {c : Char}
    (named : Strict.memberName fuel text = .ok (name, c :: rest)) :
    ∃ failure, (Strict.tooDeep fuel text : Step α) = .error failure := by
  rw [Strict.tooDeep, named]
  exact ⟨_, rfl⟩

theorem list_opened {depth fuel : Nat} {blank rest : List Char} {c : Char} (dark : Blank blank)
    (light : isSpace c = false) (inside : c ≠ ']') :
    Strict.value depth (fuel + 1) ('[' :: (blank ++ c :: rest)) =
      if depth = 0 then Strict.fail .depth (c :: rest)
      else Strict.elements (depth - 1) fuel [] (c :: rest) := by
  have start : Strict.skip (blank ++ c :: rest) = c :: rest := skip_blank dark light
  rw [Strict.value]
  simp only [start]
  split
  next empty => cases empty
  next after same => cases same; exact absurd rfl inside
  · rfl

theorem map_opened {depth fuel : Nat} {blank rest : List Char} {c : Char} (dark : Blank blank)
    (light : isSpace c = false) (inside : c ≠ '\x7d') :
    Strict.value depth (fuel + 1) ('\x7b' :: (blank ++ c :: rest)) =
      if depth = 0 then Strict.tooDeep (fuel + 1) (c :: rest)
      else Strict.members (depth - 1) fuel [] (c :: rest) := by
  have start : Strict.skip (blank ++ c :: rest) = c :: rest := skip_blank dark light
  rw [Strict.value]
  simp only [start]
  split
  next empty => cases empty
  next after same => cases same; exact absurd rfl inside
  · rfl

theorem list_back {items : List Value} (each : ∀ v ∈ items, v.IsJson ∧ ComesBack indent v) :
    ComesBack indent (.list items) := by
  intro level depth fuel rest enough ended
  obtain ⟨fuel, rfl⟩ : ∃ n, fuel = n + 1 := ⟨fuel - 1, by
    cases items <;> simp [Style.write] at enough <;> omega⟩
  cases items with
  | nil => exact ⟨fun _ => rfl, fun deep => absurd (by cases depth <;> simp [Value.FitsIn]) deep⟩
  | cons v more =>
      obtain ⟨c, tail, opens, light, inside, -⟩ := write_head indent
        (each v (by simp)).1 (level + 1)
      simp only [Style.write, List.cons_append, List.length_cons, List.length_append] at enough
      have spread : (Style.canonical indent).write level (.list (v :: more)) ++ rest =
          '[' :: ((Style.canonical indent).break (level + 1) ++ c :: (tail ++
            ((Style.canonical indent).writeRest (level + 1) more ++
              ((Style.canonical indent).break level ++ ']' :: rest)))) := by
        simp [Style.write, opens]
      rw [spread, list_opened (break_blank indent (level + 1)) light inside]
      cases depth with
      | zero => exact ⟨fun within => (List.cons_ne_nil v more within).elim, fun _ => ⟨_, rfl⟩⟩
      | succ depth =>
          have read := @elements_read indent (level + 1) depth _ rest (break_blank indent level)
            more v [] fuel each (by omega)
          rw [opens, List.cons_append] at read
          exact read

theorem map_back {entries : List (Scalar × Value)} (named : ∀ e ∈ entries, ∃ n, e.1 = .text n)
    (distinct : (entries.map Prod.fst).Nodup)
    (each : ∀ e ∈ entries, e.2.IsJson ∧ ComesBack indent e.2) : ComesBack indent (.map entries) := by
  intro level depth fuel rest enough ended
  obtain ⟨fuel, rfl⟩ : ∃ n, fuel = n + 1 := ⟨fuel - 1, by
    cases entries <;> simp [Style.write] at enough <;> omega⟩
  cases entries with
  | nil => exact ⟨fun _ => rfl, fun deep => absurd (by cases depth <;> simp [Value.FitsIn]) deep⟩
  | cons entry more =>
      obtain ⟨key, v⟩ := entry
      obtain ⟨name, rfl⟩ : ∃ n, key = .text n := named (key, v) (by simp)
      obtain ⟨json, -⟩ : v.IsJson ∧ ComesBack indent v := each (.text name, v) (by simp)
      obtain ⟨c, tail, opens, light, -⟩ := write_head indent json (level + 1)
      simp only [Style.write, Style.name, Style.canonical_ascii, List.cons_append,
        List.length_cons, List.length_append] at enough
      have quoted : Json.string false name =
          '"' :: (name.toList.flatMap (escapeChar false) ++ ['"']) := rfl
      have spread : (Style.canonical indent).write level (.map ((.text name, v) :: more)) ++ rest =
          '\x7b' :: ((Style.canonical indent).break (level + 1) ++
            '"' :: ((name.toList.flatMap (escapeChar false) ++ ['"']) ++
              ((Style.canonical indent).colon.toList ++
                ((Style.canonical indent).write (level + 1) v ++
                  ((Style.canonical indent).writeMembers (level + 1) more ++
                    ((Style.canonical indent).break level ++ '\x7d' :: rest)))))) := by
        simp [Style.write, Style.name, quoted]
      rw [spread, map_opened (break_blank indent (level + 1)) rfl (by decide)]
      cases depth with
      | zero =>
          have head := name_read indent name (fuel + 1) (tail ++ ((Style.canonical indent).writeMembers (level + 1) more ++
              ((Style.canonical indent).break level ++ '\x7d' :: rest))) light (by omega)
          refine ⟨fun within => (List.cons_ne_nil _ more within).elim, fun _ => ?_⟩
          rw [quoted, List.cons_append] at head
          rw [if_pos rfl, opens, List.cons_append]
          exact too_deep head
      | succ depth =>
          have read := @members_read indent (level + 1) depth _ rest (break_blank indent level)
            more name v [] fuel named distinct each (by omega)
          rw [quoted, List.cons_append] at read
          exact read

theorem comes_back (indent : Option Nat) {v : Value} (json : v.IsJson) : ComesBack indent v := by
  induction json with
  | scalar plain => exact scalar_back plain
  | list each back => exact list_back fun v member => ⟨each v member, back v member⟩
  | map named distinct each back =>
      exact map_back named distinct fun e member => ⟨each e member, back e member⟩

theorem render_read (indent : Option Nat) {v : Value} (json : v.IsJson) :
    (v.FitsIn 200 → Strict.read ((Style.canonical indent).render v).toList = .ok v) ∧
      (¬ v.FitsIn 200 → ∃ message,
        Strict.read ((Style.canonical indent).render v).toList = .error message) := by
  rw [Style.render, String.toList_ofList]
  obtain ⟨c, tail, opens, light, -⟩ := write_head indent json 0
  have start : Strict.skip ((Style.canonical indent).write 0 v) = (Style.canonical indent).write 0 v := by
    rw [opens]
    exact skip_light light
  obtain ⟨fits, deep⟩ := comes_back indent json 0 200
    (2 * ((Style.canonical indent).write 0 v).length + 2) [] (by omega) (fun c first => by cases first)
  rw [List.append_nil] at fits deep
  refine ⟨fun within => ?_, fun beyond => ?_⟩
  · rw [Strict.read, Strict.readRest, start, fits within]
    rfl
  · obtain ⟨failure, failed⟩ := deep beyond
    rw [Strict.read, Strict.readRest, start, failed]
    exact ⟨_, rfl⟩

def Clean (text : List Char) : Prop := ∀ c ∈ text, Text.isSurrogate c = false

instance (text : List Char) : Decidable (Clean text) :=
  List.decidableBAll (fun c => Text.isSurrogate c = false) text

@[simp] theorem clean_nil : Clean [] := nofun

@[simp] theorem clean_cons {c : Char} {text : List Char} :
    Clean (c :: text) ↔ Text.isSurrogate c = false ∧ Clean text := List.forall_mem_cons

@[simp] theorem clean_append {text more : List Char} : Clean (text ++ more) ↔ Clean text ∧ Clean more :=
  List.forall_mem_append

theorem encodable_clean {s : String} : Text.isEncodable s = true ↔ Clean s.toList := by
  simp [Text.isEncodable, Clean]

theorem clean_digits {text : List Char} (each : ∀ c ∈ text, c.isDigit = true) : Clean text := by
  have known : decimalDigits.all (fun c => !Text.isSurrogate c) = true := by decide
  intro c member
  simpa using List.all_eq_true.mp known c (digit_listed (each c member))

theorem clean_repeated {c : Char} (clean : Text.isSurrogate c = false) (n : Nat) :
    Clean (List.replicate n c) := by
  intro d member
  rw [(List.mem_replicate.mp member).2, clean]

theorem clean_number (n : Nat) : Clean (Nat.toDigits 10 n) := clean_digits (digits_of_number n).1

theorem clean_decimal (d : Decimal) : Clean (FloatStyle.shortExponent.renderDecimal d) := by
  have digits := clean_number d.digits
  have zeros (n : Nat) := clean_repeated (c := '0') rfl n
  have zero : Text.isSurrogate '0' = false := rfl
  have point : Text.isSurrogate '.' = false := rfl
  have front (n : Nat) : Clean ((Nat.toDigits 10 d.digits).take n) :=
    fun c member => digits c (List.mem_of_mem_take member)
  have back (n : Nat) : Clean ((Nat.toDigits 10 d.digits).drop n) :=
    fun c member => digits c (List.mem_of_mem_drop member)
  unfold FloatStyle.renderDecimal FloatStyle.digitChars FloatStyle.padLeft
  simp only
  split
  · decide
  split
  · split
    · simp [digits, zeros, point, zero]
    split
    · simp [front, back, point]
    · simp [digits, zeros, point, zero]
  · simp only [clean_append, zeros, clean_number, and_true]
    constructor
    · split
      next only same => rwa [same] at digits
      next first rest same =>
        rw [same, clean_cons] at digits
        simpa [point] using digits
      · exact clean_nil
    · split <;> decide

theorem clean_float {x : Binary64} (back : x.ReadsBack) : Clean ((Style.canonical indent).float x) := by
  obtain ⟨negative, significand, exponent, shape⟩ := finite_shape (reads_back_iff.mp back)
  have body := clean_decimal (.shortest significand exponent)
  have minus : Text.isSurrogate '-' = false := rfl
  simp only [Style.float, Style.canonical, FloatStyle.render?, shape, String.toList_ofList]
  split
  · simpa [minus] using body
  · exact body

theorem clean_escape {c : Char} (clean : Text.isSurrogate c = false) : Clean (escapeChar false c) := by
  obtain ⟨d, written, _, back⟩ | ⟨small, written⟩ | ⟨written, -⟩ := escape_cases c
  · rw [written]
    unfold simpleEscape? at back
    split at back <;> cases back <;> decide
  · have units : ∀ n < 32, Clean (unitEscape n) := by decide
    rw [written]
    exact units _ small
  · rw [written]
    simpa using clean

theorem clean_string {s : String} (clean : Clean s.toList) : Clean (Json.string false s) := by
  have quote : Text.isSurrogate '"' = false := rfl
  simp only [Json.string, clean_cons, clean_append, quote, clean_nil, true_and, and_true]
  intro c member
  obtain ⟨d, listed, made⟩ := List.mem_flatMap.mp member
  exact clean_escape (clean d listed) c made

theorem clean_scalar {s : Scalar} (json : s.IsJson) (encodes : s.Encodes) :
    Clean ((Style.canonical indent).scalar s) := by
  cases s with
  | null => exact (by decide : Clean "null".toList)
  | bool b => cases b <;> simp only [Style.scalar] <;> decide
  | int n =>
      have minus : Text.isSurrogate '-' = false := rfl
      simp only [Style.scalar, decimal_text]
      split
      · simpa [minus] using clean_number n.natAbs
      · exact clean_number n.natAbs
  | float x => exact clean_float json
  | text s => exact clean_string (encodable_clean.mp encodes)
  | bytes | date | moment => exact json.elim

theorem clean_break (level : Nat) : Clean ((Style.canonical indent).break level) := by
  cases indent with
  | none => exact clean_nil
  | some width => exact clean_cons.mpr ⟨rfl, clean_repeated rfl _⟩

theorem clean_separator (level : Nat) : Clean ((Style.canonical indent).separator level) := by
  rw [separator_comma]
  exact clean_cons.mpr ⟨rfl, clean_break level⟩

theorem clean_colon : Clean (Style.canonical indent).colon.toList := by
  cases indent with
  | none => exact (by decide : Clean ":".toList)
  | some width => exact (by decide : Clean ": ".toList)

theorem clean_items {level : Nat} {items : List Value}
    (each : ∀ v ∈ items, Clean ((Style.canonical indent).write level v)) :
    Clean ((Style.canonical indent).writeRest level items) := by
  induction items with
  | nil => exact clean_nil
  | cons v rest ih =>
      simp only [Style.writeRest, clean_append]
      exact ⟨⟨clean_separator level, each v (by simp)⟩, ih fun w member => each w (by simp [member])⟩

theorem clean_members {level : Nat} {entries : List (Scalar × Value)}
    (named : ∀ e ∈ entries, Clean ((Style.canonical indent).name e.1))
    (each : ∀ e ∈ entries, Clean ((Style.canonical indent).write level e.2)) :
    Clean ((Style.canonical indent).writeMembers level entries) := by
  induction entries with
  | nil => exact clean_nil
  | cons e rest ih =>
      simp only [Style.writeMembers, clean_append]
      exact ⟨⟨⟨⟨clean_separator level, named e (by simp)⟩, clean_colon⟩, each e (by simp)⟩,
        ih (fun f member => named f (by simp [member])) fun f member => each f (by simp [member])⟩

theorem clean_written {v : Value} (json : v.IsJson) (encodes : ∀ s ∈ v.scalars, s.Encodes) (level : Nat) :
    Clean ((Style.canonical indent).write level v) := by
  induction json generalizing level with
  | @scalar s json => exact clean_scalar json (encodes s (List.mem_singleton_self s))
  | @list items _ ih =>
      have written (level : Nat) := clean_items fun v member =>
        ih v member (fun s there => encodes s (scalar_of_item member s there)) level
      cases items with
      | nil => exact (by decide : Clean ['[', ']'])
      | cons v rest =>
          have opening : Text.isSurrogate '[' = false := rfl
          have closing : Text.isSurrogate ']' = false := rfl
          have inside := written (level + 1)
          rw [Style.writeRest, clean_append, clean_append] at inside
          simp [Style.write, clean_break, opening, closing, inside]
  | @map entries named _ _ ih =>
      have names : ∀ e ∈ entries, Clean ((Style.canonical indent).name e.1) := by
        intro e member
        obtain ⟨name, same⟩ := named e member
        have encodes := encodes e.1 (scalar_of_entry member).1
        rw [same] at encodes ⊢
        exact clean_string (encodable_clean.mp encodes)
      have written (level : Nat) := clean_members names fun e member =>
        ih e member (fun s there => encodes s ((scalar_of_entry member).2 s there)) level
      cases entries with
      | nil => exact (by decide : Clean ['\x7b', '\x7d'])
      | cons e rest =>
          have opening : Text.isSurrogate '\x7b' = false := rfl
          have closing : Text.isSurrogate '\x7d' = false := rfl
          have inside := written (level + 1)
          rw [Style.writeMembers, clean_append, clean_append, clean_append, clean_append] at inside
          simp [Style.write, clean_break, opening, closing, inside]

theorem render_clean {v : Value} :
    Text.isEncodable ((Style.canonical indent).render v) = true ↔ Clean ((Style.canonical indent).write 0 v) := by
  rw [encodable_clean, Style.render, String.toList_ofList]

end Json

end ApiSchema
