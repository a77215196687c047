import TrafficMap.Identity.Basic

/-!
# Identities made up from the address

An address that nothing else can name gets an identity from its seed: the last two octets of an
IPv4 address, or 16 bits of a hash of any other text.
-/

namespace TrafficMap.Identity

/-- One octet of a dotted address: one to three digits without a leading zero, at most 255. -/
def octet? (cs : List Char) : Option Nat :=
  let value := cs.foldl (fun n c => 10 * n + (c.toNat - '0'.toNat)) 0
  if cs.isEmpty || 3 < cs.length || !cs.all Char.isDigit then none
  else if 1 < cs.length && cs.head? = some '0' then none
  else if 255 < value then none
  else some value

/-- The four octets of a dotted IPv4 address. -/
def ipv4? (cs : List Char) : Option (Nat × Nat × Nat × Nat) :=
  match Text.pieces (· = '.') cs with
  | [a, b, c, d] => do pure (← octet? a, ← octet? b, ← octet? c, ← octet? d)
  | _ => none

/-- A 32-bit hash of the bytes of a text. -/
def byteHash (text : String) : UInt32 :=
  (Text.bytes text).foldl (fun h b => h * 31 + b.toUInt32) 0

/-- The seed of an address, below 2^16. -/
def seed (ip : String) : Nat :=
  match ipv4? (Text.trim ip.toList) with
  | some (_, _, third, fourth) => third * 256 + fourth
  | none => (byteHash ip).toNat % 65536

/-- The kind that the last octet of an address stands for. -/
def kindOfOctet (octet : Nat) : ClientKind :=
  if octet < 50 then .desktop
  else if octet < 100 then .laptop
  else if octet < 150 then .phone
  else if octet < 200 then .tablet
  else if octet < 230 then .tv
  else .iot

/-- The names that devices of a kind go by. -/
def namesOf : ClientKind → List String
  | .desktop => ["Desktop PC", "Workstation", "iMac"]
  | .laptop => ["MacBook Pro", "ThinkPad", "Laptop"]
  | .phone => ["iPhone", "Android Phone", "Pixel"]
  | .tablet => ["iPad Air", "Galaxy Tab"]
  | .tv => ["Smart TV", "Apple TV", "Chromecast"]
  | .console => ["Gaming Console", "PlayStation", "Xbox"]
  | .iot => ["Smart Speaker", "Thermostat", "Camera", "Smart Plug"]

/-- Two decimal digits of a number below one hundred. -/
def twoDigits (n : Nat) : String :=
  String.ofList [Nat.digitChar (n / 10 % 10), Nat.digitChar (n % 10)]

/-- The name of a device of a kind with a seed: one of the names of the kind, and the seed's last
two digits. -/
def nameOfSeed (kind : ClientKind) (seed : Nat) : String :=
  let names := namesOf kind
  names.getD (seed % names.length) "" ++ " " ++ twoDigits (seed % 100)

/-- The identity made up from an address. -/
def fallback (ip : String) : Identity :=
  let s := seed ip
  let kind := kindOfOctet (s % 256)
  { name := nameOfSeed kind s, kind, source := .fallback }

end TrafficMap.Identity
