import PostSearch.Libraries.Database.Address
import PostSearch.Unicode.Digit

/-! # Several hosts

The options of an address may name several hosts, of which the first that answers is taken, and the
numbers of the services on them. They do so in one of two forms, which must not be mixed: each host
with its number in an option of its own, or all hosts in one option and all numbers in another, with
commas between them. `checkHosts` says what is wrong with them. -/

namespace PostSearch.Database

open Text

/-- Numbers of services as the options give them; some hosts may have none. -/
abbrev ServiceTexts := List (Option String)

/-- Why hosts and numbers make no sense. -/
inductive HostFault where
  /-- Every host has more than a number after it. -/
  | tooManyParts
  /-- The two forms are mixed. -/
  | mixed
  | numerals (texts : ServiceTexts)
  | counts
deriving DecidableEq, Repr

def ServiceTexts.shown (texts : ServiceTexts) : String :=
  let items := texts.map fun
    | none => "None"
    | some s => String.ofList (quote s.toList)
  match items with
  | [item] => "(" ++ item ++ ",)"
  | items => "(" ++ joinWith ", " items ++ ")"

def HostFault.message : HostFault → String
  | .tooManyParts => "too many values to unpack (expected 2)"
  | .mixed => "Can't mix 'multihost' formats together; " ++
    "use \"host=h1,h2,h3&port=p1,p2,p3\" or \"host=h1:p1&host=h2:p2&host=h3:p3\" separately"
  | .numerals texts => "Received non-integer port arguments: " ++ texts.shown
  | .counts => "number of hosts and ports don't match"

/-! ### Reading the options -/

/-- What the options say on hosts. -/
structure Hosts where
  /-- How many hosts there are; nothing is said if there are none. -/
  count : Nat
  services : ServiceTexts
  /-- The numbers were given with the hosts. -/
  joined : Bool

/-- The pieces of a text between commas. -/
def listedTexts (s : String) : List String :=
  (splitAt ',' s.toList).map String.ofList

/-- Hosts in options of their own, each with a number after a colon, or without one. -/
def ownHosts (hosts : List String) : Except HostFault Hosts :=
  let parts := hosts.map fun host => splitAt ':' host.toList
  if parts.all (2 < ·.length) then .error .tooManyParts
  else .ok ⟨hosts.length, parts.map fun p => p[1]?.map String.ofList, true⟩

/-- The number after the only host, which must be a plain name. -/
def plainService? (host : List Char) : Option (List Char) :=
  let isHostChar (c : Char) : Bool := c.isAlphanum || c == '-' || c == '.'
  match (dropFinalNewline host).dropWhile isHostChar with
  | ':' :: digits =>
    if digits.all fun c => (Unicode.digitValue? c).isSome then some digits else none
  | _ => none

/-- Hosts that one option names. -/
def commaHosts (hosts : String) (areServicesGiven : Bool) : Hosts :=
  match listedTexts hosts, plainService? hosts.toList with
  | [_], some digits =>
    if areServicesGiven then ⟨1, [], false⟩
    else ⟨1, [if digits = [] then none else some (String.ofList digits)], true⟩
  | listed, _ => ⟨listed.length, [], false⟩

/-- What the option for hosts says. -/
def readHosts (hosts services : List String) : Except HostFault Hosts :=
  match hosts with
  | [] => .ok ⟨0, [], false⟩
  | [host] => .ok (commaHosts host (!services.isEmpty))
  | hosts => ownHosts hosts

/-- The numbers of the services, wherever they are given. -/
def readServices (hosts : Hosts) (services : List String) : Except HostFault ServiceTexts :=
  match services with
  | [] => .ok hosts.services
  | services =>
    if hosts.joined then .error .mixed
    else match services with
      | [service] => .ok ((listedTexts service).map some)
      | services => .ok (services.map some)

/-! ### Checking them -/

/-- The text is a numeral; no text is one as well. -/
def isServiceText (text : Option String) : Bool :=
  match text with
  | none | some "" => true
  | some s => match Numeral.readInt 10 s.toList with
    | .ok _ => true
    | .error _ => false

/-- What is wrong with the hosts and numbers in the options of an address. -/
def checkHosts (a : Address) : Except HostFault Unit := do
  let given := a.option "port"
  let hosts ← readHosts (a.option "host") given
  let services ← readServices hosts given
  if !services.all isServiceText then .error (.numerals services)
  else if hosts.count ≠ services.length ∧ services ≠ [] ∧
      (1 < hosts.count ∨ 1 < services.length) then .error .counts
  else .ok ()

end PostSearch.Database
