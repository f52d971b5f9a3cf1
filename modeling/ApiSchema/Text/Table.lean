namespace ApiSchema.Text

def isHexDigit (c : Char) : Bool := c.isDigit || ('a' ≤ c.toLower && c.toLower ≤ 'f')

def hexDigit (c : Char) : Nat :=
  if c.isDigit then c.toNat - '0'.toNat else c.toLower.toNat - 'a'.toNat + 10

def hexNumber (digits : List Char) : Nat := digits.foldl (fun n c => 16 * n + hexDigit c) 0

/-- The character of a code. A surrogate alone is no character; it is held as the unassigned one
with the same lower bits in the fourth plane. -/
def ofCode (n : Nat) : Char :=
  if 0xd800 ≤ n && n < 0xe000 then Char.ofNat (0x40000 + n) else Char.ofNat n

def isSurrogate (c : Char) : Bool := 0x4d800 ≤ c.toNat && c.toNat < 0x4e000

def codeOf (c : Char) : Nat := if isSurrogate c then c.toNat - 0x40000 else c.toNat

/-- Whether a text can be written as bytes. -/
def isEncodable (text : String) : Bool := !text.toList.any isSurrogate

def splitOnChars (isBreak : Char → Bool) : List Char → List (List Char)
  | [] => []
  | c :: rest =>
    if isBreak c then splitOnChars isBreak rest
    else
      match rest with
      | [] => [[c]]
      | d :: _ =>
        if isBreak d then [c] :: splitOnChars isBreak rest
        else
          match splitOnChars isBreak rest with
          | piece :: pieces => (c :: piece) :: pieces
          | [] => [[c]]

def items (text : String) : List (List Char) :=
  splitOnChars (fun c => c == ' ' || c == '\n') text.toList

def cutAt (mark : Char) (text : List Char) : List Char × List Char :=
  (text.takeWhile (· != mark), (text.dropWhile (· != mark)).drop 1)

def splitOn (mark : Char) : List Char → List (List Char)
  | [] => [[]]
  | c :: rest =>
    match splitOn mark rest with
    | piece :: pieces => if c == mark then [] :: piece :: pieces else (c :: piece) :: pieces
    | [] => [[c]]

def lastAtMost {α : Type} (key : α → Nat) (entries : Array α) (x : Nat) : Option α :=
  go 0 entries.size (Nat.le_refl _)
where
  go (low high : Nat) (bound : high ≤ entries.size) : Option α :=
    if below : low < high then
      let middle := (low + high) / 2
      have inside : middle < entries.size := by omega
      if key entries[middle] ≤ x then go (middle + 1) high bound
      else go low middle (by omega)
    else if low = 0 then none else entries[low - 1]?
  termination_by high - low

structure Ranges where
  entries : Array (Nat × Nat)

namespace Ranges

def parse (text : String) : Ranges :=
  ⟨((items text).map fun item =>
    let (first, last) := cutAt '-' item
    (hexNumber first, hexNumber (if last.isEmpty then first else last))).toArray⟩

def contains (ranges : Ranges) (c : Char) : Bool :=
  match lastAtMost Prod.fst ranges.entries c.toNat with
  | some (_, last) => c.toNat ≤ last
  | none => false

end Ranges

/-- Every `step`-th code point from `first` to `last` goes to the one as far from `target` as it
is from `first`. -/
structure Run where
  first : Nat
  last : Nat
  step : Nat
  target : Nat

structure Mapping where
  runs : Array Run
  sequences : Array (Nat × List Char)

namespace Mapping

def parseRun (item : List Char) : Run :=
  let (source, target) := cutAt '=' item
  let (range, step) := cutAt '/' source
  let (first, last) := cutAt '-' range
  { first := hexNumber first
    last := hexNumber (if last.isEmpty then first else last)
    step := if step.isEmpty then 1 else hexNumber step
    target := hexNumber target }

def parseSequence (item : List Char) : Nat × List Char :=
  let (source, target) := cutAt '=' item
  (hexNumber source, (splitOnChars (· == '.') target).map fun t => Char.ofNat (hexNumber t))

def parse (runs sequences : String) : Mapping :=
  ⟨((items runs).map parseRun).toArray, ((items sequences).map parseSequence).toArray⟩

def image? (mapping : Mapping) (c : Char) : Option (List Char) :=
  let code := c.toNat
  match lastAtMost Run.first mapping.runs code with
  | some run =>
    if code ≤ run.last ∧ (code - run.first) % run.step = 0 then
      some [Char.ofNat (run.target + (code - run.first))]
    else sequence? code
  | none => sequence? code
where
  sequence? (code : Nat) : Option (List Char) :=
    match lastAtMost Prod.fst mapping.sequences code with
    | some (source, target) => if source = code then some target else none
    | none => none

end Mapping

end ApiSchema.Text
