import TrafficMap.Number.Decimal
import TrafficMap.Web.DomainName
import TrafficMap.Web.Percent

/-!
# Hosts

The host of a URL is a domain name or an address. An address of four bytes may be written with fewer
parts and in base eight or sixteen; it is always shown with four decimal parts. An address of eight
words is shown with its longest run of zeros left out.
-/

namespace TrafficMap.Web

/-- Why a text is no URL. -/
inductive UrlError where
  | emptyHost
  | invalidPort
  | invalidIpv4
  | invalidIpv6
  | invalidHostCharacter
  | invalidInternationalName
  | relativeWithoutBase
  /-- A page was asked for of a URL that has no pages. -/
  | relativeWithoutPath
  deriving DecidableEq, Repr

/-- What is wrong with a text that is no URL. -/
def UrlError.message : UrlError → String
  | emptyHost => "empty host"
  | invalidPort => "invalid port number"
  | invalidIpv4 => "invalid IPv4 address"
  | invalidIpv6 => "invalid IPv6 address"
  | invalidHostCharacter => "invalid domain character"
  | invalidInternationalName => "invalid international domain name"
  | relativeWithoutBase => "relative URL without a base"
  | relativeWithoutPath => "relative URL with a cannot-be-a-base base"

/-- A host as it is shown. -/
inductive Host where
  | domain (name : String)
  | ipv4 (address : Nat)
  | ipv6 (words : List Nat)
  deriving DecidableEq, Repr

namespace Host

/-! ## Addresses of four bytes -/

/-- A part of an address: decimal, base eight after a zero, or base sixteen after `0x`. Nothing
after the mark is zero. -/
def ipv4Part? (cs : List Char) : Option Nat :=
  let (base, digits) : Nat × List Char := match cs with
    | '0' :: 'x' :: rest => (16, rest)
    | '0' :: 'X' :: rest => (16, rest)
    | '0' :: d :: rest => (8, d :: rest)
    | _ => (10, cs)
  if cs.isEmpty then none
  else
    let values := digits.map fun c => (Percent.hexValue? c).getD 16
    if values.all (· < base) then some (values.foldl (fun n d => base * n + d) 0) else none

/-- Whether the last label of a name is a number, so that the name must be an address. -/
def endsInNumber (name : List Char) : Bool :=
  let labels := (Text.pieces (· = '.') name).reverse
  let last := match labels with
    | [] :: label :: _ => some label
    | [] :: [] => none
    | label :: _ => some label
    | [] => none
  match last with
  | none => false
  | some label => (!label.isEmpty && label.all Char.isDigit) || (ipv4Part? label).isSome

/-- Reads an address of four bytes. The last part fills the bytes that the others leave. -/
def ipv4? (name : List Char) : Option Nat :=
  let labels := Text.pieces (· = '.') name
  let labels := if labels.getLast? = some [] then labels.dropLast else labels
  if 4 < labels.length then none
  else
    match labels.mapM ipv4Part? with
    | none => none
    | some numbers =>
      match numbers.getLast? with
      | none => none
      | some last =>
        let bytes := numbers.dropLast
        if bytes.all (· < 256) && last < Nat.pow 256 (4 - bytes.length) then
          some (last + bytes.zipIdx.foldl (fun n (b, i) => n + b * Nat.pow 256 (3 - i)) 0)
        else none

/-- An address of four bytes as text. -/
def ipv4Text (address : Nat) : String :=
  ".".intercalate ((List.range 4).map fun i => toString (address / Nat.pow 256 (3 - i) % 256))

/-! ## Addresses of eight words -/

/-- A word in base sixteen: one to four digits. -/
def hexWord? (cs : List Char) : Option Nat :=
  if cs.isEmpty || 4 < cs.length then none
  else (cs.mapM Percent.hexValue?).map (·.foldl (fun n d => 16 * n + d) 0)

/-- A decimal byte without leading zeros. -/
def decimalByte? (cs : List Char) : Option Nat :=
  if cs.isEmpty || !cs.all Char.isDigit || (1 < cs.length && cs.head? = some '0') then none
  else
    let n := Decimal.ofDigits cs
    if n < 256 then some n else none

/-- The words of colon-separated pieces; the last piece may be four decimal bytes. -/
def words? : List (List Char) → Option (List Nat)
  | [] => some []
  | [piece] =>
    if piece.contains '.' then
      match (Text.pieces (· = '.') piece).mapM decimalByte? with
      | some [a, b, c, d] => some [256 * a + b, 256 * c + d]
      | _ => none
    else (hexWord? piece).map ([·])
  | piece :: rest => do pure ((← hexWord? piece) :: (← words? rest))

/-- The words of one side of the run of zeros that was left out. -/
def side? (cs : List Char) : Option (List Nat) :=
  if cs.isEmpty then some [] else words? (Text.pieces (· = ':') cs)

/-- Cuts a text at its first double colon. -/
def cutAtRun : List Char → Option (List Char × List Char)
  | ':' :: ':' :: rest => some ([], rest)
  | c :: rest => (cutAtRun rest).map fun (before, after) => (c :: before, after)
  | [] => none

/-- Reads an address of eight words. -/
def ipv6? (cs : List Char) : Option (List Nat) :=
  match cutAtRun cs with
  | none => (side? cs).bind fun ws => if ws.length = 8 then some ws else none
  | some (before, after) =>
    if before.contains '.' then none
    else
      match side? before, side? after with
      | some front, some back =>
        if front.length + back.length < 8 then
          some (front ++ List.replicate (8 - front.length - back.length) 0 ++ back)
        else none
      | _, _ => none

/-- The length of the run of zeros at the start of a list. -/
def zeros (ws : List Nat) : Nat :=
  (ws.takeWhile (· = 0)).length

/-- The place and length of the first longest run of at least two zeros. -/
def longestRun (ws : List Nat) : Option (Nat × Nat) :=
  let runs := (List.range ws.length).map fun i => (i, zeros (ws.drop i))
  let best := runs.foldl (fun (best : Nat × Nat) run => if best.2 < run.2 then run else best) (0, 0)
  if 2 ≤ best.2 then some best else none

/-- A word in base sixteen. -/
def hexText (n : Nat) : String :=
  String.ofList (Nat.toDigits 16 n)

/-- An address of eight words as text. -/
def ipv6Text (ws : List Nat) : String :=
  match longestRun ws with
  | none => ":".intercalate (ws.map hexText)
  | some (start, count) =>
    ":".intercalate ((ws.take start).map hexText) ++ "::" ++
      ":".intercalate ((ws.drop (start + count)).map hexText)

/-! ## Hosts -/

/-- A domain name, given as bytes. -/
def domainName? (bytes : List UInt8) : Option (List Char) :=
  (String.fromUTF8? ⟨bytes.toArray⟩).bind fun name => DomainName.ofText? name.toList

/-- An address in brackets, if the text begins with one. -/
def bracketed? (cs : List Char) : Option (Except UrlError Host) :=
  match cs with
  | '[' :: rest =>
    some <| if rest.getLast? = some ']' then
      match ipv6? rest.dropLast with
      | some ws => .ok (.ipv6 ws)
      | none => .error .invalidIpv6
    else .error .invalidIpv6
  | _ => none

/-- Reads the host of a URL of a scheme that has servers. -/
def parse? (cs : List Char) : Except UrlError Host :=
  match bracketed? cs with
  | some result => result
  | none =>
    match domainName? (Percent.decode cs) with
    | none => .error .invalidInternationalName
    | some name =>
      if name.isEmpty then .error .emptyHost
      else if endsInNumber name then
        match ipv4? name with
        | some address => .ok (.ipv4 address)
        | none => .error .invalidIpv4
      else .ok (.domain (String.ofList name))

/-- Whether a character cannot stand in the host of a scheme without servers. -/
def isForbiddenElsewhere (c : Char) : Bool :=
  c = Char.ofNat 0 ||
    ['\t', '\n', '\r', ' ', '#', '/', ':', '<', '>', '?', '@', '[', '\\', ']', '^', '|'].contains c

/-- Reads the host of a URL of any other scheme, which is left as it is. -/
def parseElsewhere? (cs : List Char) : Except UrlError Host :=
  match bracketed? cs with
  | some result => result
  | none =>
    if cs.any isForbiddenElsewhere then .error .invalidHostCharacter
    else .ok (.domain (String.ofList (Percent.encode Percent.isControl cs)))

/-- A host as text. -/
def text : Host → String
  | domain name => name
  | ipv4 address => ipv4Text address
  | ipv6 ws => "[" ++ ipv6Text ws ++ "]"

/-- Whether a host is an address. -/
def isAddress : Host → Bool
  | domain _ => false
  | _ => true

end Host

end TrafficMap.Web
