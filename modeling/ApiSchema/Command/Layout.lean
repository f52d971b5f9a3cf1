import ApiSchema.Text.Property
import ApiSchema.Text.Table

namespace ApiSchema.Command.Layout

def width (text : List Char) : Nat := text.foldl (fun n c => n + Text.columns c) 0

def trimRight (text : List Char) : List Char := (text.reverse.dropWhile Text.isBlank).reverse

def takeWord (text : List Char) : List Char × List Char :=
  let front := text.takeWhile Text.isBlank
  let rest := text.drop front.length
  let word := rest.takeWhile (!Text.isBlank ·)
  let rest := rest.drop word.length
  let back := rest.takeWhile Text.isBlank
  (front ++ word ++ back, rest.drop back.length)

def words : Nat → List Char → List (List Char)
  | 0, _ => []
  | fuel + 1, text =>
    if text.all Text.isBlank then []
    else
      let (word, rest) := takeWord text
      word :: words fuel rest

def chop (limit : Nat) (piece : List Char) : List Char → List (List Char)
  | [] => [piece]
  | c :: rest =>
    if limit < width piece + Text.columns c then piece :: chop limit [c] rest
    else chop limit (piece ++ [c]) rest

def fillLines (limit : Nat) (line : List Char) : List (List Char) → List (List Char)
  | [] => [line]
  | word :: rest =>
    let size := width (trimRight word)
    if width line + size ≤ limit then fillLines limit (line ++ word) rest
    else if limit < size then
      let pieces := chop limit [] word
      let front := if line.isEmpty then pieces.dropLast else line :: pieces.dropLast
      front ++ fillLines limit (pieces.getLast?.getD []) rest
    else if line.isEmpty then fillLines limit word rest
    else line :: fillLines limit word rest

def wrap (limit : Nat) (text : List Char) : List (List Char) :=
  (Text.splitOn '\n' text).flatMap fun line =>
    if width line ≤ limit then [line] else fillLines limit [] (words line.length line)

def centred (limit : Nat) (line : List Char) : List Char :=
  let line := trimRight line
  List.replicate ((limit - width line) / 2) ' ' ++ line

def repeated (c : Char) (n : Nat) : List Char := List.replicate n c

structure Rule where
  left : Char
  line : Char
  joint : Char
  right : Char

def topRule : Rule := ⟨'┏', '━', '┳', '┓'⟩

def headRule : Rule := ⟨'┡', '━', '╇', '┩'⟩

def footRule : Rule := ⟨'└', '─', '┴', '┘'⟩

def Rule.draw (r : Rule) (widths : List Nat) : List Char :=
  let parts := widths.map fun w => repeated r.line (w + 2)
  r.left :: List.intercalate [r.joint] parts ++ [r.right]

def drawCells (bar : Char) (widths : List Nat) (cells : List (List Char)) : List Char :=
  let parts := (widths.zip cells).map fun (w, cell) =>
    ' ' :: cell ++ repeated ' ' (w - width cell) ++ [' ']
  bar :: List.intercalate [bar] parts ++ [bar]

def drawRow (bar : Char) (widths : List Nat) (cells : List (List Char)) : List (List Char) :=
  let columns := cells.map (Text.splitOn '\n')
  let height := columns.foldl (fun most lines => max most lines.length) 1
  (List.range height).map fun n => drawCells bar widths (columns.map fun lines => lines.getD n [])

def columnWidth (rows : List (List (List Char))) (column : Nat) : Nat :=
  rows.foldl (fun most row =>
    ((row.getD column []) |> Text.splitOn '\n').foldl (fun most line => max most (width line)) most) 0

def table (title : List Char) (header : List (List Char)) (rows : List (List (List Char))) :
    List (List Char) :=
  let widths := (List.range header.length).map (columnWidth (header :: rows))
  let total := widths.foldl (· + ·) 0 + 3 * widths.length + 1
  (wrap total title).map (centred total) ++ [topRule.draw widths] ++ drawRow '┃' widths header ++
    [headRule.draw widths] ++ rows.flatMap (drawRow '│' widths) ++ [footRule.draw widths]

end ApiSchema.Command.Layout
