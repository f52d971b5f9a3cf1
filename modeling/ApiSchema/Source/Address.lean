import ApiSchema.Text.Case
import ApiSchema.Text.Decomposition

namespace ApiSchema

structure Address where
  scheme : List Char
  authority : List Char
  path : List Char
  parameters : List Char
  query : List Char
  fragment : List Char

namespace Address

open Text

def isSchemeChar (c : Char) : Bool := c.isAlpha || c.isDigit || c == '+' || c == '-' || c == '.'

def splitScheme (text : List Char) : Option (List Char) × List Char :=
  let name := text.takeWhile (· != ':')
  match name, text.dropWhile (· != ':') with
  | first :: _, ':' :: rest =>
    if first.isAlpha && name.all isSchemeChar then (some (name.map Char.toLower), rest)
    else (none, text)
  | _, _ => (none, text)

def isHexGroup (group : List Char) : Bool :=
  !group.isEmpty && group.length ≤ 4 &&
    group.all isHexDigit

def isOctet (digits : List Char) : Bool :=
  !digits.isEmpty && digits.length ≤ 3 && digits.all Char.isDigit &&
    (digits.length = 1 || digits.head? != some '0') &&
    digits.foldl (fun n c => 10 * n + (c.toNat - '0'.toNat)) 0 ≤ 255

def isDottedQuad (text : List Char) : Bool :=
  let octets := splitOn '.' text
  octets.length = 4 && octets.all isOctet

/-- How many groups a colon-separated run has, if all are groups; a last dotted quad counts two. -/
def groupCount? (lastRun : Bool) (groups : List (List Char)) : Option Nat :=
  match groups with
  | [] => some 0
  | [last] =>
    if isHexGroup last then some 1
    else if lastRun && isDottedQuad last then some 2
    else none
  | group :: rest => if isHexGroup group then (groupCount? lastRun rest).map (· + 1) else none

def cutDoubleColon (text : List Char) : Option (List Char × List Char) :=
  match text with
  | ':' :: ':' :: rest => some ([], rest)
  | c :: rest => (cutDoubleColon rest).map fun (a, b) => (c :: a, b)
  | [] => none

def run (text : List Char) : List (List Char) := if text.isEmpty then [] else splitOn ':' text

/-- Eight groups, or fewer around one pair of colons; a zone may follow a percent sign. -/
def isHexAddress (text : List Char) : Bool :=
  let (body, zone) := (text.takeWhile (· != '%'), text.dropWhile (· != '%'))
  let zoneSound := zone.isEmpty || (zone.length ≠ 1 && !(zone.drop 1).contains '%')
  zoneSound &&
    match cutDoubleColon body with
    | none => groupCount? true (run body) == some 8
    | some (front, back) =>
      match groupCount? false (run front), groupCount? true (run back) with
      | some m, some n => m + n ≤ 7
      | _, _ => false

def isFutureAddress (text : List Char) : Bool :=
  match text with
  | 'v' :: rest =>
    let version := rest.takeWhile (· != '.')
    let tail := (rest.dropWhile (· != '.')).drop 1
    !version.isEmpty && version.all (fun c => isHexGroup [c]) && !tail.isEmpty && !tail.contains '\n'
  | _ => false

def bracketsSound (authority : List Char) : Bool :=
  if authority.contains '[' || authority.contains ']' then
    authority.contains '[' && authority.contains ']' &&
      (let host := (cutAt '[' authority).2.takeWhile (· != ']')
       if host.head? == some 'v' then isFutureAddress host else isHexAddress host)
  else true

def delimiters : List Char := ['/', '?', '#', '@', ':']

def formsSound (authority : List Char) : Bool :=
  authority.all fun c => c.toNat < 128 || (decompose c).all (!delimiters.contains ·)

def authoritySound (authority : List Char) : Bool :=
  bracketsSound authority && formsSound authority

def isControlOrSpace (c : Char) : Bool := c ≤ ' '

def withoutBreaks (text : List Char) : List Char :=
  text.filter fun c => c != '\t' && c != '\r' && c != '\n'

def relativeSchemes : List String :=
  ["", "ftp", "http", "gopher", "nntp", "imap", "wais", "file", "https", "shttp", "mms",
    "prospero", "rtsp", "rtsps", "rtspu", "sftp", "svn", "svn+ssh", "ws", "wss"]

def parameterSchemes : List String :=
  ["", "ftp", "hdl", "prospero", "http", "imap", "https", "shttp", "rtsp", "rtsps", "rtspu",
    "sip", "sips", "mms", "sftp", "tel"]

def splitParameters (path : List Char) : List Char × List Char :=
  let last := (path.reverse.takeWhile (· != '/')).reverse
  if last.contains ';' then
    let (kept, parameters) := cutAt ';' last
    (path.take (path.length - last.length) ++ kept, parameters)
  else (path, [])

def parse? (text : String) (scheme : List Char) : Option Address :=
  let text := withoutBreaks (text.toList.dropWhile isControlOrSpace)
  let (named, rest) := splitScheme text
  let scheme := named.getD scheme
  let isDelimiter (c : Char) : Bool := c == '/' || c == '?' || c == '#'
  let (authority, rest) :=
    match rest with
    | '/' :: '/' :: more =>
      (more.takeWhile (!isDelimiter ·), more.dropWhile (!isDelimiter ·))
    | _ => ([], rest)
  if !authoritySound authority then none
  else
    let (rest, fragment) := cutAt '#' rest
    let (path, query) := cutAt '?' rest
    let (path, parameters) :=
      if parameterSchemes.contains (String.ofList scheme) then splitParameters path else (path, [])
    some ⟨scheme, authority, path, parameters, query, fragment⟩

def isWeb (text : String) : Bool :=
  match parse? text [] with
  | some a => (a.scheme == "http".toList || a.scheme == "https".toList) && !a.authority.isEmpty
  | none => false

def render (a : Address) : String :=
  let path := a.path ++ (if a.parameters.isEmpty then [] else ';' :: a.parameters)
  let rooted := if !path.isEmpty && path.head? != some '/' then '/' :: path else path
  String.ofList (a.scheme ++ ':' :: '/' :: '/' :: a.authority ++ rooted ++
    (if a.query.isEmpty then [] else '?' :: a.query) ++
    (if a.fragment.isEmpty then [] else '#' :: a.fragment))

def settle (segments : List (List Char)) : List (List Char) :=
  segments.foldl (fun done s =>
    if s == ['.', '.'] then done.dropLast else if s == ['.'] then done else done ++ [s]) []

def dropInnerEmpty (segments : List (List Char)) : List (List Char) :=
  match segments with
  | [] => []
  | first :: rest =>
    match rest.getLast? with
    | none => [first]
    | some last => first :: rest.dropLast.filter (!·.isEmpty) ++ [last]

def joinPath (base path : List Char) : List Char :=
  let baseSegments := splitOn '/' base
  let baseSegments := if baseSegments.getLast? == some [] then baseSegments else baseSegments.dropLast
  let segments :=
    if path.head? == some '/' then splitOn '/' path
    else dropInnerEmpty (baseSegments ++ splitOn '/' path)
  let settled := settle segments
  let last := segments.getLast?
  let settled := if last == some ['.'] || last == some ['.', '.'] then settled ++ [[]] else settled
  let joined := List.intercalate ['/'] settled
  if joined.isEmpty then ['/'] else joined

/-- The address that `text` names in a document at the web address `base`; nothing when one of
the two is malformed. -/
def join? (base text : String) : Option String :=
  if text.isEmpty then some base
  else do
    let b ← parse? base []
    let a ← parse? text b.scheme
    if a.scheme != b.scheme || !relativeSchemes.contains (String.ofList a.scheme) then return text
    else if !a.authority.isEmpty then return a.render
    else if a.path.isEmpty && a.parameters.isEmpty then
      return { a with
        authority := b.authority, path := b.path, parameters := b.parameters
        query := if a.query.isEmpty then b.query else a.query }.render
    else return { a with authority := b.authority, path := joinPath b.path a.path }.render

end Address

end ApiSchema
