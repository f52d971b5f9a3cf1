import ApiSchema.Fault
import ApiSchema.Source.Address

namespace ApiSchema

structure Page where
  status : Int := 200
  contentType : String := ""
  body : String := ""
  location : Option String := none
  misuse : Option Misuse := none

abbrev Web := List (String × Page)

inductive WebFault where
  | net (fault : NetFault)
  | misuse (misuse : Misuse)

namespace Page

def isSuccess (p : Page) : Bool := 200 ≤ p.status && p.status < 300

def forward? (p : Page) : Option String :=
  if [301, 302, 303, 307, 308].contains p.status then p.location else none

def answer (p : Page) : Except WebFault Page :=
  if p.isSuccess then .ok p else .error (.net (.status p.status))

end Page

namespace Web

def redirectLimit : Nat := 20

def ask (w : Web) (address : String) : Except WebFault Page :=
  match w.lookup address with
  | none => .error (.net .connect)
  | some page =>
    match page.misuse with
    | some misuse => .error (.misuse misuse)
    | none => .ok page

def follow (w : Web) : Nat → String → Except WebFault Page
  | left, address => do
    let page ← w.ask address
    match page.forward? with
    | none => page.answer
    | some target =>
      match left with
      | 0 => .error (.net .redirects)
      | left + 1 => follow w left ((Address.join? address target).getD target)

def get (w : Web) (followsRedirects : Bool) (address : String) : Except WebFault Page :=
  if followsRedirects then follow w redirectLimit address
  else do (← w.ask address).answer

end Web

end ApiSchema
