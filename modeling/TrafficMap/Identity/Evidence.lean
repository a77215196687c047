import TrafficMap.Appliance.Report
import TrafficMap.Identity.Fallback
import TrafficMap.Identity.Keyword
import TrafficMap.Text.Uppercase

/-!
# Identities from what the appliance knows

A host name that is not the address itself decides the name of a client; otherwise a fingerprint
with a name or a type does; otherwise the address itself does. `Identity.identify` joins the three
steps.
-/

namespace TrafficMap.Identity

open Text (trim pieces)

/-- The characters that separate the words of a host name. -/
def isSeparator (c : Char) : Bool :=
  c = '-' || c = '_' || c = ' '

/-- Turns the first character of a word into upper case. -/
def capitalize : List Char → List Char
  | [] => []
  | c :: cs => Text.uppercase c ++ cs

/-- The words of the first label of a host name. -/
def hostnameWords (hostname : List Char) : List (List Char) :=
  Text.runs isSeparator ((trim hostname).takeWhile (· ≠ '.'))

/-- The words of the first label of a host name, capitalized and separated by single blanks. -/
def normalizeHostname (hostname : List Char) : Option (List Char) :=
  match hostnameWords hostname with
  | [] => none
  | ws => some (Text.join [' '] (ws.map capitalize))

/-- The identity that a host name gives to an address, unless the name is blank or the address. -/
def ofHostname (ip hostname : String) : Option Identity :=
  let host := trim hostname.toList
  if host.isEmpty || host = ip.toList then none
  else
    (normalizeHostname host).map fun name =>
      { name := String.ofList name
        kind := (Keyword.kind? host).getD (fallback ip).kind
        source := .hostname }

/-- A text without the blanks around it, if anything remains. -/
def present (text : Option String) : Option (List Char) :=
  (text.map fun t => trim t.toList).filter fun t => !t.isEmpty

/-- The kind that an explicit device type names or hints at. -/
def ofDeviceType (text : List Char) : Option ClientKind :=
  (ClientKind.ofKey? (trim text)).or (Keyword.kind? text)

/-- The texts of a fingerprint that hint at a kind, separated by blanks. -/
def hints (info : DeviceInfo) : List Char :=
  Text.join [' '] ([info.userAgent, info.vendor, info.os].filterMap fun t => t.map String.toList)

/-- The identity that a fingerprint gives to an address, if it has a name or a type. -/
def ofDeviceInfo (ip : String) (info : DeviceInfo) : Option Identity :=
  let name := present info.name
  let explicit := present info.deviceType
  if name.isNone && explicit.isNone then none
  else
    let kind := ((explicit.bind ofDeviceType).or (Keyword.kind? (hints info))).getD
      (fallback ip).kind
    some
      { name := (name.map String.ofList).getD (fallback ip).name
        kind
        source := .deviceInfo }

/-- The identity of an address, from the first step that gives one. -/
def identify (ip : String) (hostname : Option String) (info : Option DeviceInfo) : Identity :=
  ((hostname.bind (ofHostname ip)).or (info.bind (ofDeviceInfo ip))).getD (fallback ip)

end TrafficMap.Identity
