import Routing.Error
import Routing.Text.Percent
import Routing.Url.Domain.Basic
import Routing.Url.Ipv4
import Routing.Url.Ipv6
import Routing.Url.Scheme

/-!
# Hosts

The host of a URL is an address or a name. Names of web hosts are domain names; the hosts of other
schemes are taken as they are as long as nothing in them has a meaning of its own.
-/

namespace Routing.Url

/-- The host of a URL. -/
inductive Host where
  /-- There is none. -/
  | empty
  /-- An IPv4 or IPv6 address. -/
  | address
  /-- A name. -/
  | name (cs : List Char)
  deriving Repr, DecidableEq

namespace Host

/-- Reads an IPv6 address in brackets. -/
def ofBracketed (text : List Char) : Except UrlDefect Host :=
  if text.getLast? = some ']' && Ipv6.isAddress text.tail.dropLast then .ok address
  else .error .invalidIpv6

/-- Reads a host whose name is a domain name. -/
def ofDomain (text : List Char) : Except UrlDefect Host :=
  if text.head? = some '[' then ofBracketed text
  else
    let decoded := Text.Utf8.decode (Text.Percent.decode (Text.Utf8.encode text))
    match Domain.normalize? decoded with
    | none => .error .invalidDomain
    | some [] => .error .emptyHost
    | some domain =>
      if !Ipv4.endsInNumber domain then .ok (.name domain)
      else if Ipv4.isAddress domain then .ok address
      else .error .invalidIpv4

/-- The characters with a meaning of their own, which no host may hold. -/
def reserved : List Char :=
  ['\x00', '\t', '\n', '\r', ' ', '#', '/', ':', '<', '>', '?', '@', '[', '\\', ']', '^', '|']

/-- Reads a host that is taken as it is. -/
def ofPlain (text : List Char) : Except UrlDefect Host :=
  if text.head? = some '[' then ofBracketed text
  else if text.any reserved.contains then .error .invalidHostCharacter
  else if text.isEmpty then .ok empty
  else .ok (.name text)

end Host

end Routing.Url
