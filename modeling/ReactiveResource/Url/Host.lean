import ReactiveResource.Text.Octets
import ReactiveResource.Url.Address
import ReactiveResource.Url.Domain

/-!
# Hosts

The host of a URL is a name or an address. In special schemes the name is a domain name, which is
brought into its ASCII form; a domain that ends in a number is an address of version 4. In other
schemes the name is taken as it is.

* `UrlError`: what can be wrong with a URL;
* `Host`, `Host.print`: a host and its text;
* `Host.ofDomain?`, `Host.ofName?`: the host that a text stands for, in special and in other
  schemes.
-/

namespace ReactiveResource

/-- What can be wrong with a URL. -/
inductive UrlError where
  | relativeWithoutBase
  | baseIsNoBase
  | emptyHost
  | invalidDomain
  | invalidHostCharacter
  | invalidIpv4
  | invalidIpv6
  | invalidPort
  deriving DecidableEq, Repr, Inhabited

/-- The text of an error. -/
def UrlError.message : UrlError → String
  | .relativeWithoutBase => "relative URL without a base"
  | .baseIsNoBase => "relative URL with a cannot-be-a-base base"
  | .emptyHost => "empty host"
  | .invalidDomain => "invalid international domain name"
  | .invalidHostCharacter => "invalid domain character"
  | .invalidIpv4 => "invalid IPv4 address"
  | .invalidIpv6 => "invalid IPv6 address"
  | .invalidPort => "invalid port number"

/-- The host of a URL. -/
inductive Host where
  | name (text : String)
  | ipv4 (address : Nat)
  | ipv6 (pieces : List Nat)
  deriving DecidableEq, Repr, Inhabited

namespace Host

/-- The text of a host. -/
def print : Host → String
  | .name text => text
  | .ipv4 address => Url.Address.printIpv4 address
  | .ipv6 pieces => "[" ++ Url.Address.printIpv6 pieces ++ "]"

/-- Whether a host is empty. -/
def isEmpty : Host → Bool
  | .name text => text.isEmpty
  | _ => false

/-- The address of version 6 between brackets, for a text that begins with one. -/
def ofBrackets? (inner : List Char) : Except UrlError Host :=
  if inner.getLast? = some ']' then
    match Url.Address.ipv6? inner.dropLast with
    | some pieces => .ok (.ipv6 pieces)
    | none => .error .invalidIpv6
  else .error .invalidIpv6

/-- The host of a text in a special scheme. -/
def ofDomain? : List Char → Except UrlError Host
  | '[' :: rest => ofBrackets? rest
  | cs =>
    match Url.Domain.toAscii? (Text.decodeLossy (Url.Percent.decode cs)).toList with
    | none => .error .invalidDomain
    | some domain =>
      if domain.isEmpty then .error .emptyHost
      else if Url.Address.endsInNumber domain then
        match Url.Address.ipv4? domain with
        | some address => .ok (.ipv4 address)
        | none => .error .invalidIpv4
      else .ok (.name (String.ofList domain))

/-- Characters that may not stand in a name that is taken as it is. -/
def forbidden : List Char :=
  ['\x00', '\t', '\n', '\r', ' ', '#', '/', ':', '<', '>', '?', '@', '[', '\\', ']', '^', '|']

/-- The host of a text in a scheme that is not special. -/
def ofName? : List Char → Except UrlError Host
  | '[' :: rest => ofBrackets? rest
  | cs =>
    if cs.any forbidden.contains then .error .invalidHostCharacter
    else .ok (.name (String.ofList (Url.Percent.encode Url.Percent.isControl cs)))

end Host

end ReactiveResource
