import RedisBridge.RustText
import Mathlib.Data.BitVec

/-!
IP addresses and the address parser of the standard library, which reads a text
from the front: a reader returns the value and the unread characters, and a
reader that fails leaves the caller where it was. An IPv6 text may compress one
run of zero groups and may end in an embedded IPv4 address.
-/
namespace RedisBridge.IpAddress

open RustText

inductive IpAddr
  | v4 (bits : BitVec 32)
  | v6 (bits : BitVec 128)
  deriving DecidableEq, Repr

abbrev Reader (α : Type) := List Char → Option (α × List Char)

def readGivenChar (target : Char) : Reader Unit
  | c :: rest => if c = target then some ((), rest) else none
  | [] => none

/-- The separator stands before every element but the first. -/
def readSeparator {α : Type} (sep : Char) (index : ℕ) (inner : Reader α) : Reader α := fun cs =>
  if 0 < index then (readGivenChar sep cs).bind (fun r => inner r.2) else inner cs

def spanDigits (radix : ℕ) : List Char → List ℕ × List Char
  | [] => ([], [])
  | c :: rest =>
      match toDigit radix c with
      | none => ([], c :: rest)
      | some d => (d :: (spanDigits radix rest).1, (spanDigits radix rest).2)

/-- All digits at the front are read; too many of them, a forbidden leading
zero or a value outside the type make the reader fail. -/
def readNumber (radix : ℕ) (maxDigits : Option ℕ) (allowZeroPrefix : Bool) (bound : ℕ) :
    Reader (Fin bound) := fun cs =>
  let digits := (spanDigits radix cs).1
  if digits = [] then none
  else if maxDigits.any (fun most => most < digits.length) then none
  else if !allowZeroPrefix && digits.head? == some 0 && 1 < digits.length then none
  else if h : digitsValue radix digits < bound then
    some (⟨digitsValue radix digits, h⟩, (spanDigits radix cs).2)
  else none

def readOctet (index : ℕ) : Reader (BitVec 8) := fun cs =>
  (readSeparator '.' index (readNumber 10 (some 3) false 256) cs).map
    (fun r => (BitVec.ofFin r.1, r.2))

def readIpv4Addr : Reader (BitVec 32) := fun cs => do
  let (a, cs) ← readOctet 0 cs
  let (b, cs) ← readOctet 1 cs
  let (c, cs) ← readOctet 2 cs
  let (d, cs) ← readOctet 3 cs
  pure ((a ++ b ++ c ++ d).cast rfl, cs)

def readGroup (index : ℕ) : Reader (BitVec 16) := fun cs =>
  (readSeparator ':' index (readNumber 16 (some 4) true (2 ^ 16)) cs).map
    (fun r => (BitVec.ofFin r.1, r.2))

/-- Colon-separated groups, at most as many as are wanted; the flag tells that
the last two came from an embedded IPv4 address. -/
def readGroups : (wanted index : ℕ) → List Char → List (BitVec 16) × Bool × List Char
  | 0, _, cs => ([], false, cs)
  | wanted + 1, index, cs =>
      let embedded := if 0 < wanted then readSeparator ':' index readIpv4Addr cs else none
      match embedded with
      | some (v4, rest) => ([v4.extractLsb' 16 16, v4.extractLsb' 0 16], true, rest)
      | none =>
          match readGroup index cs with
          | some (group, rest) =>
              let more := readGroups wanted (index + 1) rest
              (group :: more.1, more.2)
          | none => ([], false, cs)

/-- Eight groups, the first the most significant. -/
def ipv6OfGroups (groups : List (BitVec 16)) : BitVec 128 :=
  groups.foldl (fun acc g => (acc <<< 16) ||| g.setWidth 128) 0

def readIpv6Addr : Reader (BitVec 128) := fun cs =>
  let (head, headIpv4, rest) := readGroups 8 0 cs
  if head.length = 8 then some (ipv6OfGroups head, rest)
  else if headIpv4 then none
  else do
    let (_, rest) ← readGivenChar ':' rest
    let (_, rest) ← readGivenChar ':' rest
    let (tail, _, rest) := readGroups (8 - (head.length + 1)) 0 rest
    let zeros := List.replicate (8 - head.length - tail.length) 0
    pure (ipv6OfGroups (head ++ zeros ++ tail), rest)

def readIpAddr : Reader IpAddr := fun cs =>
  match readIpv4Addr cs with
  | some (bits, rest) => some (.v4 bits, rest)
  | none => (readIpv6Addr cs).map (fun r => (.v6 r.1, r.2))

/-- A parse succeeds when the reader uses up the whole text. -/
def parseWith {α : Type} (reader : Reader α) (s : String) : Option α :=
  match reader s.toList with
  | some (value, []) => some value
  | _ => none

/-- `IpAddr::from_str`. -/
def parseIpAddr (s : String) : Option IpAddr := parseWith readIpAddr s

def readPort : Reader (Fin (2 ^ 16)) := fun cs =>
  (readGivenChar ':' cs).bind (fun r => readNumber 10 none true (2 ^ 16) r.2)

def readScopeId : Reader (Fin (2 ^ 32)) := fun cs =>
  (readGivenChar '%' cs).bind (fun r => readNumber 10 none true (2 ^ 32) r.2)

/-- A socket address read for its IP address; port and scope are only checked. -/
def readSocketAddr : Reader IpAddr := fun cs =>
  let v4 : Option (IpAddr × List Char) := do
    let (ip, cs) ← readIpv4Addr cs
    let (_, cs) ← readPort cs
    pure (.v4 ip, cs)
  match v4 with
  | some r => some r
  | none => do
      let (_, cs) ← readGivenChar '[' cs
      let (ip, cs) ← readIpv6Addr cs
      let cs := ((readScopeId cs).map Prod.snd).getD cs
      let (_, cs) ← readGivenChar ']' cs
      let (_, cs) ← readPort cs
      pure (.v6 ip, cs)

/-- `SocketAddr::from_str` followed by `ip()`. -/
def parseSocketAddrIp (s : String) : Option IpAddr := parseWith readSocketAddr s

example : parseIpAddr "203.0.113.10" = some (.v4 0xCB00710A) := by decide

example : parseIpAddr "2001:db8::1" = some (.v6 0x20010DB8000000000000000000000001) := by decide

end RedisBridge.IpAddress
