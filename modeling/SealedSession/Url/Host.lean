import SealedSession.Text.Utf8
import SealedSession.Url.Domain
import SealedSession.Url.Error
import SealedSession.Url.Ipv6
import SealedSession.Url.Percent

/-! # Hosts

A host of a special scheme is an address or a domain name; a name may be percent-encoded and is put
into its ASCII form. A host of any other scheme is an address in brackets or a text that is kept.
-/

namespace SealedSession

/-- The host of a URL. -/
inductive Host where
  /-- A domain name, or the kept text of a scheme that is not special. -/
  | named (text : String)
  | ipv4 (address : UInt32)
  | ipv6 (groups : List Nat)
deriving DecidableEq, Repr, Inhabited

namespace Host

def text : Host → String
  | .named text => text
  | .ipv4 a => Ipv4.text a
  | .ipv6 groups => "[" ++ Ipv6.text groups ++ "]"

/-- The host that is present but empty. -/
def empty : Host := .named ""

/-- Characters that no host has. -/
def isForbidden (c : Char) : Bool :=
  c ∈ ['\x00', '\t', '\n', '\r', ' ', '#', '/', ':', '<', '>', '?', '@', '[', '\\', ']', '^', '|']

/-- Characters that no domain has. -/
def isForbiddenInDomain (c : Char) : Bool :=
  isForbidden c || c.toNat < 0x20 || c = '%' || c = '\x7F'

/-- An address in brackets, when the host begins with one. -/
def bracketed? : List Char → Option (Except UrlError Host)
  | '[' :: rest =>
    some <| match rest.getLast?, Ipv6.parse? rest.dropLast with
      | some ']', some groups => .ok (.ipv6 groups)
      | _, _ => .error .invalidIpv6
  | _ => none

/-- A domain name or an address that looks like one. -/
def ofDomain (name : List Char) : Except UrlError Host :=
  match Domain.toAscii? name with
  | none => .error .invalidDomain
  | some name =>
    if name.any isForbiddenInDomain then .error .invalidDomain
    else if name = [] then .error .emptyHost
    else if Ipv4.endsInNumber name then
      match Ipv4.parse? name with
      | some a => .ok (.ipv4 a)
      | none => .error .invalidIpv4
    else .ok (.named (String.ofList name))

/-- Reads the host of a special scheme. -/
def parse (text : List Char) : Except UrlError Host :=
  match bracketed? text with
  | some r => r
  | none =>
    match Utf8.decode? (Percent.decode text) with
    | some name => ofDomain name
    | none => .error .invalidDomain

/-- Reads the host of a scheme that is not special. -/
def parseVerbatim (text : List Char) : Except UrlError Host :=
  match bracketed? text with
  | some r => r
  | none =>
    if text.any isForbidden then .error .invalidHost
    else .ok (.named (String.ofList (Percent.encode Percent.control text)))

end Host

end SealedSession
