import ApiSchema.Document.Graph
import ApiSchema.Number.Reading

/-!
Pointers into a document: steps joined by slashes.

In a step, `~1` stands for a slash and `~0` for a tilde. A step into a list is an integer, and a
negative one counts from the end.
-/

namespace ApiSchema.Pointer

def replaceTilde (digit by_ : Char) : List Char → List Char
  | '~' :: c :: rest => if c == digit then by_ :: replaceTilde digit by_ rest
    else '~' :: replaceTilde digit by_ (c :: rest)
  | c :: rest => c :: replaceTilde digit by_ rest
  | [] => []

def unescape (step : List Char) : List Char :=
  replaceTilde '0' '~' (replaceTilde '1' '/' step)

def escape (name : List Char) : List Char :=
  name.flatMap fun c => if c == '~' then ['~', '0'] else if c == '/' then ['~', '1'] else [c]

theorem replaceTilde_of_ne (digit by_ : Char) {c : Char} (rest : List Char) (different : c ≠ '~') :
    replaceTilde digit by_ (c :: rest) = c :: replaceTilde digit by_ rest := by
  rw [replaceTilde]
  intro d r same
  simp_all

def escapeTilde (name : List Char) : List Char :=
  name.flatMap fun c => if c == '~' then ['~', '0'] else [c]

theorem replaceTilde_escape (name : List Char) :
    replaceTilde '1' '/' (escape name) = escapeTilde name := by
  induction name with
  | nil => rfl
  | cons c rest ih =>
    by_cases tilde : c = '~'
    · subst tilde
      simpa [escape, escapeTilde, replaceTilde] using ih
    · by_cases slash : c = '/'
      · subst slash
        simpa [escape, escapeTilde, replaceTilde] using ih
      · have step := replaceTilde_of_ne '1' '/' (escape rest) tilde
        rw [ih] at step
        simpa [escape, escapeTilde, tilde, slash] using step

theorem replaceTilde_escapeTilde (name : List Char) :
    replaceTilde '0' '~' (escapeTilde name) = name := by
  induction name with
  | nil => rfl
  | cons c rest ih =>
    by_cases tilde : c = '~'
    · subst tilde
      simpa [escapeTilde, replaceTilde] using ih
    · have step := replaceTilde_of_ne '0' '~' (escapeTilde rest) tilde
      rw [ih] at step
      simpa [escapeTilde, tilde] using step

theorem unescape_escape (name : List Char) : unescape (escape name) = name := by
  rw [unescape, replaceTilde_escape, replaceTilde_escapeTilde]

/-- The steps of a pointer. Slashes in front are dropped together. -/
def steps (pointer : List Char) : List (List Char) :=
  Text.splitOn '/' (pointer.dropWhile (· == '/'))

def position? (length : Nat) (step : List Char) : Option Nat :=
  (integerOf? step).bind fun n =>
    let at_ := if n < 0 then n + length else n
    if 0 ≤ at_ && at_ < length then some at_.toNat else none

def follow? (g : Graph) (item : Item) (step : List Char) : Option Item :=
  let step := unescape step
  match g.of? item with
  | some (.map entries) => lookup? entries (.text (String.ofList step))
  | some (.list items) => (position? items.length step).bind (items[·]?)
  | _ => none

def resolve? (g : Graph) (item : Item) (pointer : String) : Option Item :=
  if pointer.isEmpty || pointer == "/" then some item
  else (steps pointer.toList).foldlM (follow? g) item

def lastName (reference : String) : String :=
  let last := (reference.toList.reverse.takeWhile (· != '/')).reverse
  let name := unescape last
  if name.isEmpty then reference else String.ofList name

end ApiSchema.Pointer
