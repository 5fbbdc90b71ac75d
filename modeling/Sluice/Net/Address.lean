import Sluice.Number.Reading
import Sluice.Url.Address

/-!
# Addresses of connections

An address is written as a host and a port with a colon between them.

* `Address.read` takes such a text apart; what comes after the last colon is the port;
* `Address.isNumeric` says whether the host is a number that needs no looking up;
* `Address.find` asks a directory about every other host.
-/

namespace Sluice

/-- A host and a port. -/
structure Address where
  /-- The host. -/
  host : String
  /-- The port. -/
  port : UInt16
  deriving DecidableEq, Repr

namespace Address

/-- Why a text is no address. -/
inductive Fault where
  /-- There is no colon. -/
  | noPort
  /-- What comes after the last colon is no port. -/
  | port
  /-- Nobody knows the host. -/
  | host
  deriving DecidableEq, Repr

/-- The text for people. -/
def Fault.message : Fault → String
  | noPort => "invalid socket address"
  | port => "invalid port value"
  | host => "failed to lookup address information: Name or service not known"

/-- What comes before the last colon and what comes after it. -/
def splitLast (cs : List Char) : Option (List Char × List Char) :=
  let after := cs.reverse.takeWhile (· != ':')
  match cs.reverse.drop after.length with
  | [] => none
  | _ :: before => some (before.reverse, after.reverse)

/-- The address in a text. -/
def read (s : String) : Except Fault Address :=
  match splitLast s.toList with
  | none => .error .noPort
  | some (host, port) =>
    match Number.uint16? (String.ofList port) with
    | none => .error .port
    | some n => .ok ⟨String.ofList host, n⟩

/-- A host in brackets without the brackets. -/
def unbracketed (cs : List Char) : List Char :=
  match cs with
  | '[' :: r => if r.getLast? = some ']' then r.dropLast else cs
  | _ => cs

/-- The host is a number that needs no looking up. -/
def isNumeric (a : Address) : Bool :=
  let cs := a.host.toList
  (Url.isIpv4 cs && cs.getLast? != some '.') || Url.isIpv6 (unbracketed cs)

/-- The address in a text, if its host is a number or in a directory. -/
def find (isKnown : String → Bool) (s : String) : Except Fault Address :=
  match read s with
  | .error f => .error f
  | .ok a => if a.isNumeric || isKnown a.host then .ok a else .error .host

end Address

end Sluice
