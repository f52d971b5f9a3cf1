import ApiSchema.Proofs.Check.Record
import ApiSchema.Schema.Decode

namespace ApiSchema

namespace Check

def Checked.Explained {α : Type} (c : Checked α) : Prop := c ≠ .bad []

def Explains {α : Type} (check : Check α) : Prop := ∀ v, (check v).Explained

variable {α β : Type}

namespace Checked

@[simp] theorem ok_explained (a : α) : (Checked.ok a).Explained := by simp [Explained]

@[simp] theorem fail_explained (cause : Cause) : (Checked.fail cause : Checked α).Explained := by
  simp [Explained, fail]

@[simp] theorem map_explained {f : α → β} {c : Checked α} : (f <$> c).Explained ↔ c.Explained := by
  change (c.map f).Explained ↔ _
  cases c <;> simp [Explained, map]

@[simp] theorem map_method_explained {f : α → β} {c : Checked α} :
    (c.map f).Explained ↔ c.Explained := map_explained

theorem seq_explained {f : Checked (α → β)} {c : Checked α} (first : f.Explained)
    (second : c.Explained) : (f <*> c).Explained := by
  change (f.seq fun _ => c).Explained
  cases f <;> cases c <;> simp_all [Explained, seq]

@[simp] theorem within_explained {c : Checked α} {step : Step} :
    (c.within step).Explained ↔ c.Explained := by
  cases c <;> simp [Explained, within]

theorem and_then_explained {c : Checked α} {next : α → Checked β} (first : c.Explained)
    (later : ∀ a, c = .ok a → (next a).Explained) : (c.andThen next).Explained := by
  cases c with
  | ok a => exact later a rfl
  | bad issues => simpa [Explained, andThen] using first

end Checked

section Scalars

@[simp] theorem text_of_bytes_explained (bytes : List UInt8) : (textOfBytes bytes).Explained := by
  unfold textOfBytes
  split <;> simp

@[simp] theorem text_explains : Explains text := by
  intro v
  unfold text
  split <;> simp

@[simp] theorem integer_of_text_explained (s : String) : (integerOfText s).Explained := by
  unfold integerOfText
  repeat' split
  all_goals simp

@[simp] theorem integer_explains : Explains integer := by
  intro v
  unfold integer integerOfFloat
  repeat' split
  all_goals simp

@[simp] theorem flag_of_int_explained (n : Int) : (flagOfInt n).Explained := by
  unfold flagOfInt
  repeat' split
  all_goals simp

@[simp] theorem flag_of_text_explained (s : String) : (flagOfText s).Explained := by
  unfold flagOfText
  extract_lets word
  repeat' split
  all_goals simp

@[simp] theorem flag_explains : Explains flag := by
  intro v
  unfold flag
  repeat' split
  all_goals simp

@[simp] theorem constant_explains (options : List String) : Explains (constant options) := by
  intro v
  unfold constant
  repeat' split
  all_goals simp

end Scalars

section Parts

variable {check : Check α}

theorem each_explained (explains : Explains check) (items : List Value) (position : Nat) :
    (eachFrom check position items).Explained := by
  induction items generalizing position with
  | nil => simp [eachFrom]
  | cons v rest ih => exact Checked.seq_explained (by simp [explains v]) (ih _)

@[simp] theorem list_explains (explains : Explains check) : Explains (list check) := by
  intro v
  unfold list
  split
  · exact each_explained explains _ 0
  · simp

@[simp] theorem nullable_explains (explains : Explains check) : Explains (nullable check) := by
  intro v
  unfold nullable
  split <;> simp [explains _]

-- Every member has refused the value, and the first of them says why.
theorem union_explains {first : Member α} {rest : List (Member α)} (explains : Explains first.check) :
    Explains (union (first :: rest)) := by
  intro v
  unfold union
  extract_lets found
  split
  · simp
  · simp
  · simp
  next none =>
    cases outcome : first.check v with
    | ok a => simp [found, readings_passed outcome] at none
    | bad issues =>
        have said := explains v
        simp_all [Checked.Explained, Checked.within]

theorem entries_explained (explains : Explains check) (pairs : List (Scalar × Value)) :
    (entries check pairs).Explained := by
  induction pairs with
  | nil => simp [entries]
  | cons pair rest ih =>
      unfold entries
      extract_lets step named
      have name : named.Explained := by simp [named, text_explains _]
      exact Checked.seq_explained (Checked.seq_explained (by simp [name]) (by simp [explains _])) ih

@[simp] theorem map_explains (explains : Explains check) : Explains (map check) := by
  intro v
  unfold map
  split
  · simp [entries_explained explains _]
  · simp

@[simp] theorem required_explained (explains : Explains check) (pairs : List (Scalar × Value))
    (names : List String) : (required pairs names check).Explained := by
  unfold required
  split <;> simp [explains _]

@[simp] theorem with_default_explained (explains : Explains check) (pairs : List (Scalar × Value))
    (names : List String) (default : α) : (withDefault pairs names default check).Explained := by
  unfold withDefault
  split <;> simp [explains _]

@[simp] theorem optional_explained (explains : Explains check) (pairs : List (Scalar × Value))
    (names : List String) : (optional pairs names check).Explained :=
  with_default_explained (nullable_explains explains) pairs names none

@[simp] theorem text_keys_explained (pairs : List (Scalar × Value)) : (textKeys pairs).Explained := by
  induction pairs with
  | nil => simp [textKeys]
  | cons pair rest ih =>
      have key : (textKeys.named pair.1).Explained := by
        unfold textKeys.named
        split <;> simp
      exact Checked.seq_explained (by simp [key]) ih

end Parts

@[simp] theorem free_form_explains : Explains freeForm := map_explains fun v => by simp [anything]

@[simp] theorem literal_explains : Explains literal := union_explains fun v => by simp [text_explains v]

end Check

end ApiSchema
