import ApiSchema.Fault
import ApiSchema.Text.Case

/-!
Lines with tags in brackets that set their style. Without styles the tags vanish.

A bracket opens a tag if a small letter or one of `#`, `/` and `@` follows it. A backslash in
front of a tag makes it text, two stand for one.
-/

namespace ApiSchema.Command.Markup

def startsTag (c : Char) : Bool := c.isLower || c == '#' || c == '/' || c == '@'

def tagInside? (text : List Char) : Option (List Char × List Char) :=
  match text with
  | c :: rest =>
    let body := rest.takeWhile fun d => d != ']' && d != '['
    match rest.drop body.length with
    | ']' :: after => if startsTag c then some (c :: body, after) else none
    | _ => none
  | [] => none

def tagAt? (text : List Char) : Option (Nat × List Char × List Char) :=
  let slashes := (text.takeWhile (· == '\\')).length
  match text.drop slashes with
  | '[' :: rest => (tagInside? rest).map fun (inside, after) => (slashes, inside, after)
  | _ => none

def tagName (inside : List Char) : List Char := (Text.cutAt '=' inside).1

def styleName (name : List Char) : List Char := Text.lower (Text.trim name)

def afterTag (styles : List (List Char)) (inside : List Char) : Except Fault (List (List Char)) :=
  match tagName inside with
  | '/' :: closed =>
    let name := styleName closed
    if name.isEmpty then
      if styles.isEmpty then .error (.markup (String.ofList inside)) else .ok styles.tail
    else if styles.contains name then .ok (styles.erase name)
    else .error (.markup (String.ofList inside))
  | name => .ok (styleName name :: styles)

/-- A bracket may be escaped also where it opens no tag. -/
def unescape : List Char → List Char
  | '\\' :: '[' :: rest => '[' :: unescape rest
  | c :: rest => c :: unescape rest
  | [] => []

def render : Nat → List (List Char) → List Char → List Char → Except Fault (List Char)
  | 0, _, plain, text => .ok (unescape (plain.reverse ++ text))
  | fuel + 1, styles, plain, text =>
    match tagAt? text with
    | some (slashes, inside, after) => do
      let front := unescape plain.reverse ++ List.replicate (slashes / 2) '\\'
      if slashes % 2 = 1 then
        return front ++ '[' :: inside ++ ']' :: (← render fuel styles [] after)
      else return front ++ (← render fuel (← afterTag styles inside) [] after)
    | none =>
      match text with
      | [] => .ok (unescape plain.reverse)
      | c :: rest => render fuel styles (c :: plain) rest

def plain (text : String) : Except Fault String :=
  let chars := text.toList
  if chars.contains '[' then String.ofList <$> render (chars.length + 1) [] [] chars else .ok text

end ApiSchema.Command.Markup
