import RedisBridge.Fallible
import RedisBridge.IpAddress

/-!
The client address of a request: the forwarding headers in their order of
precedence, and the configured proxies whose headers are believed. A peer
outside every configured network is its own client address.
-/
namespace RedisBridge.ClientAddress

open Fallible IpAddress RustText

/-- The first value of each header, under its lower-case name. -/
abbrev HeaderMap := String → Option (List UInt8)

/-- `HeaderValue::to_str`: visible ASCII, space and tab only. -/
def toStr (value : List UInt8) : Option String :=
  if value.all (fun b => (32 ≤ b && b < 127) || b == 9) then
    some (String.ofList (value.map (fun b => Char.ofNat b.toNat)))
  else none

/-! `client/parse.rs`. -/

def parseIpCandidate (raw : String) : Option IpAddr :=
  let value := trimMatches (· == '"') (trim raw)
  if value = "" ∨ eqIgnoreAsciiCase value "unknown" = true then none
  else
    match parseIpAddr value with
    | some ip => some ip
    | none =>
        match parseSocketAddrIp value with
        | some ip => some ip
        | none =>
            match value.toList with
            | '[' :: rest =>
                (splitOnce (· == ']') (String.ofList rest)).bind (fun parts => parseIpAddr parts.1)
            | chars =>
                if chars.count ':' = 1 then
                  (rsplitOnce (· == ':') value).bind (fun parts => parseIpAddr parts.1)
                else none

def prefixMaskV4 (prefixLen : UInt8) : BitVec 32 :=
  if prefixLen = 0 then 0 else BitVec.allOnes 32 <<< (32 - prefixLen).toNat

def prefixMaskV6 (prefixLen : UInt8) : BitVec 128 :=
  if prefixLen = 0 then 0 else BitVec.allOnes 128 <<< (128 - prefixLen).toNat

/-! `client/headers.rs`. -/

def headerIp (headers : HeaderMap) (name : String) : Option IpAddr :=
  ((headers name).bind toStr).bind parseIpCandidate

def xForwardedForIp (headers : HeaderMap) : Option IpAddr :=
  ((headers "x-forwarded-for").bind toStr).bind
    (fun value => (split ',' value).findSome? parseIpCandidate)

def forwardedPartIp (part : String) : Option IpAddr :=
  (splitOnce (· == '=') (trim part)).bind (fun pair =>
    if eqIgnoreAsciiCase (trim pair.1) "for" = true then parseIpCandidate pair.2 else none)

def forwardedHeaderIp (headers : HeaderMap) : Option IpAddr :=
  ((headers "forwarded").bind toStr).bind (fun value =>
    (split ',' value).findSome? (fun entry => (split ';' entry).findSome? forwardedPartIp))

def forwardedIp (headers : HeaderMap) : Option IpAddr :=
  (headerIp headers "cf-connecting-ip").or <|
    (headerIp headers "true-client-ip").or <|
      (xForwardedForIp headers).or <|
        (headerIp headers "x-real-ip").or <|
          forwardedHeaderIp headers

/-! `client/trusted.rs`. -/

structure TrustedProxy where
  network : IpAddr
  prefixLen : UInt8
  deriving DecidableEq

structure TrustedProxies where
  entries : List TrustedProxy
  deriving DecidableEq

namespace TrustedProxy

def checkPrefix (network : IpAddr) (prefixLen : UInt8) (value : String) : Except String Unit :=
  match network with
  | .v4 _ => bailIf (32 < prefixLen) s!"Invalid IPv4 trusted proxy CIDR: {value}"
  | .v6 _ => bailIf (128 < prefixLen) s!"Invalid IPv6 trusted proxy CIDR: {value}"

def parse (value : String) : Except String TrustedProxy :=
  match splitOnce (· == '/') value with
  | none => do
      let ip ← okOr (parseIpAddr value) s!"Invalid trusted proxy IP: {value}"
      pure ⟨ip, match ip with | .v4 _ => 32 | .v6 _ => 128⟩
  | some (ip, prefixText) => do
      let network ← okOr (parseIpAddr ip) s!"Invalid trusted proxy CIDR address: {value}"
      let bits ← okOr (parseUnsigned 256 prefixText)
        s!"Invalid trusted proxy CIDR prefix: {value}"
      checkPrefix network (UInt8.ofFin bits) value
      pure ⟨network, UInt8.ofFin bits⟩

def contains (proxy : TrustedProxy) (ip : IpAddr) : Bool :=
  match proxy.network, ip with
  | .v4 network, .v4 ip =>
      network &&& prefixMaskV4 proxy.prefixLen == ip &&& prefixMaskV4 proxy.prefixLen
  | .v6 network, .v6 ip =>
      network &&& prefixMaskV6 proxy.prefixLen == ip &&& prefixMaskV6 proxy.prefixLen
  | _, _ => false

end TrustedProxy

namespace TrustedProxies

/-- No proxy is trusted by default. -/
def noneTrusted : TrustedProxies := ⟨[]⟩

def parse (value : String) : Except String TrustedProxies := do
  let entries ← (((split ',' value).map trim).filter (· ≠ "")).mapM TrustedProxy.parse
  pure ⟨entries⟩

def isTrusted (proxies : TrustedProxies) (ip : IpAddr) : Bool :=
  proxies.entries.any (fun entry => entry.contains ip)

def resolve (proxies : TrustedProxies) (headers : HeaderMap) (peerIp : IpAddr) : IpAddr :=
  if proxies.isTrusted peerIp = false then peerIp else (forwardedIp headers).getD peerIp

example : (TrustedProxies.parse " 10.0.0.0/8,, ::1").map TrustedProxies.entries =
    .ok [⟨.v4 0x0A000000, 8⟩, ⟨.v6 1, 128⟩] := by decide

end TrustedProxies

end RedisBridge.ClientAddress
