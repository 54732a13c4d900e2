/-
This file defines the proxies that requests go through. There is one for each of the
two schemes; hosts may be exempt, by their numbers or by their names. A proxy that
cannot be understood is none.
-/

import Fixity.Http.Credentials
import Fixity.Http.Uri
import Fixity.Text.Blank

namespace Fixity.Http

/-! ### Proxies -/

/-- A proxy. It is clear when it is spoken to without encryption; the fields identify the sender to
it. -/
structure Proxy where
  isClear : Bool
  host : Host
  port : Nat
  login : Fields := []
deriving Repr, DecidableEq

namespace Proxy

/-- A byte in decimal digits between dots, four of them: a host by its number. -/
def four? (text : List Char) : Option Host := do
  let bytes ← (Text.splitAll '.' text).mapM Host.byte?
  if bytes.length = 4 then
    return .four (bytes.foldl (fun number byte => 256 * number + byte) 0)
  else none

/-- A host by its number. -/
def number? (text : List Char) : Option Host :=
  (four? text).or ((Host.eight? text).map .eight)

/-- The host of an authority without credentials. -/
def hostOf (authority : List Char) : Host :=
  let name := match authority with
    | '[' :: rest => rest.takeWhile (· != ']')
    | _ => authority.takeWhile (· != ':')
  (number? name).getD (.name (String.ofList name))

/-- The port of an authority, where one can be read after the last colon. -/
def port? (authority : List Char) : Option Nat := do
  let (_, digits) ← Text.splitLast? ':' authority
  let port ← (Text.readInteger .unsigned16 digits).toOption
  return port.toNat

/-- The schemes of proxies that carry any traffic. -/
def carriers : List String := ["socks4", "socks4a", "socks5", "socks5h"]

/-- The scheme by which a proxy is spoken to; it is plain where none is given. -/
def scheme? : Option (List Char) → Option String
  | none => some "http"
  | some scheme =>
    let lowered := String.ofList (Text.lowerAscii scheme)
    if lowered = "http" ∨ lowered = "https" then some lowered
    else if carriers.contains (String.ofList scheme) then some lowered
    else none

/-- The field that identifies the sender by the text before an at sign. -/
def loginOf (text : List Char) : Field :=
  let part := fun text => Text.Utf8.decodeLenient (Text.Percent.decode text)
  match Text.splitFirst? ':' text with
  | some (name, password) => Credentials.field "proxy-authorization" (part name) (some (part password))
  | none => Credentials.field "proxy-authorization" (part text) none

/-- Reads a proxy. -/
def ofText? (text : String) : Option Proxy := do
  let uri ← Uri.ofText? text.toList
  let scheme ← scheme? uri.scheme
  let (login, place) := match Text.splitFirst? '@' uri.authority with
    | some (login, place) => ([loginOf login], place)
    | none => ([], uri.authority)
  if place.isEmpty || !Uri.isAuthority place then none
  else
    let shown := ((Text.splitLast? '@' place).map Prod.snd).getD place
    let usual := if scheme = "https" then 443 else 80
    return { isClear := scheme == "http", host := hostOf shown, port := (port? place).getD usual, login }

end Proxy

/-! ### Exemptions -/

/-- Hosts that are reached without a proxy: those whose numbers of the given width agree in the
first bits with a number, or those of a domain. -/
inductive Exemption where
  | network (width number kept : Nat)
  | domain (name : List Char)
deriving Repr, DecidableEq

namespace Exemption

/-- The number of a host and its width in bits. -/
def bits? : Host → Option (Nat × Nat)
  | .four number => some (32, number)
  | .eight groups => some (128, groups.foldl (fun number group => 65536 * number + group) 0)
  | .name _ | .uninterpreted _ => none

/-- The hosts of a network, or a single host by its number. -/
def network? (text : List Char) : Option Exemption := do
  let (address, length) := match Text.splitFirst? '/' text with
    | some (address, length) => (address, some length)
    | none => (text, none)
  let (width, number) ← bits? (← Proxy.number? address)
  match length with
  | none => return .network width number width
  | some digits =>
    let kept ← if digits.isEmpty ∨ 3 < digits.length then none else Host.digitsIn 10 digits
    if kept ≤ width then return .network width number kept else none

/-- Reads an exemption. -/
def ofText (text : List Char) : Exemption :=
  (network? text).getD (.domain (Text.lowerAscii text))

/-- The host's name is that of the domain or ends in it after a dot. An asterisk is every domain. -/
def domainCovers (domain name : List Char) : Bool :=
  if domain = name ∨ domain = '.' :: name then true
  else if domain.isSuffixOf name then
    domain.head? == some '.' || ('.' :: domain).isSuffixOf name
  else domain == ['*']

/-- The exemption holds for a host. -/
def covers (exemption : Exemption) (host : Host) : Bool :=
  match exemption, host with
  | .network width number kept, host =>
    (bits? host).any fun (width', number') =>
      width' == width && number' >>> (width - kept) == number >>> (width - kept)
  | .domain whole, .name name => domainCovers whole name.toList
  | .domain _, _ => false

end Exemption

/-! ### Choosing -/

/-- The proxies for requests in the clear and for others, and the exemptions. -/
structure Proxies where
  clear : Option Proxy := none
  encrypted : Option Proxy := none
  exemptions : List Exemption := []
deriving Repr, DecidableEq

namespace Proxies

/-- Proxies from the texts that name them; one for all stands in where there is none. Exemptions
are separated by commas. -/
def ofTexts (all clear encrypted exempt : String) : Proxies :=
  let everywhere := Proxy.ofText? all
  let parts := (Text.splitAll ',' exempt.toList).map Text.trim
  { clear := (Proxy.ofText? clear).or everywhere
    encrypted := (Proxy.ofText? encrypted).or everywhere
    exemptions := (parts.filter fun part => !part.isEmpty).map Exemption.ofText }

/-- The proxy that a request to an address goes through. -/
def proxyFor? (proxies : Proxies) (url : Url) : Option Proxy :=
  if url.host.any fun host => proxies.exemptions.any (·.covers host) then none
  else if url.scheme = "http" then proxies.clear
  else if url.scheme = "https" then proxies.encrypted
  else none

end Proxies

end Fixity.Http
