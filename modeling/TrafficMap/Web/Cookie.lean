import TrafficMap.Web.Url

/-!
# Cookies

A server sets cookies, and they are sent back with every request that their domain and their path
match. A cookie is known by its domain, its path and its name; setting it again replaces it, and
setting it with an age of zero or a date that has passed removes it.
-/

namespace TrafficMap.Web

/-- A cookie. Without a domain attribute it belongs to one host alone. -/
structure Cookie where
  name : String
  value : String
  domain : String
  hostOnly : Bool
  path : String
  secure : Bool
  deriving DecidableEq, Repr

/-- A cookie as a server sets it. -/
structure CookieSetting where
  name : String
  value : String
  domain : Option String := none
  path : Option String := none
  secure : Bool := false
  /-- Whether the cookie is to be kept; the last age given decides, else the last date. -/
  age : Option Nat := none
  date : Option Nat := none
  deriving DecidableEq, Repr

namespace CookieSetting

/-- The names of the months. -/
def months : List String :=
  ["jan", "feb", "mar", "apr", "may", "jun", "jul", "aug", "sep", "oct", "nov", "dec"]

/-- The days before a date of the common calendar, counted from the year 0. -/
def dayNumber (year month day : Nat) : Nat :=
  -- years begin in March, so that a leap day is the last day of its year
  let y := if month ≤ 2 then year - 1 else year
  let m := (month + 9) % 12
  365 * y + y / 4 - y / 100 + y / 400 + (153 * m + 2) / 5 + (day - 1)

/-- The seconds from 1970 to a date with a time. -/
def seconds (year month day hour minute second : Nat) : Nat :=
  (dayNumber year month day - dayNumber 1970 1 1) * 86400 + hour * 3600 + minute * 60 + second

/-- A year; of two digits it belongs to the present century. -/
def fullYear (digits : List Char) : Nat :=
  let n := Decimal.ofDigits digits
  if digits.length = 2 then 2000 + n else n

/-- Reads a date such as `Wed, 21 Oct 2015 07:28:00 GMT`, as seconds from 1970. -/
def date? (cs : List Char) : Option Nat :=
  let words := Text.runs (fun c => c = ' ' || c = ',' || c = '-' || c = ':') cs
  match words with
  | [_, day, month, year, hour, minute, second, zone] =>
    let month := String.ofList (Text.asciiLower month)
    let numbers := [day, year, hour, minute, second]
    match months.findIdx? (· = month) with
    | some m =>
      if zone = ['G', 'M', 'T'] && numbers.all (·.all Char.isDigit) then
        some (seconds (fullYear year) (m + 1) (Decimal.ofDigits day) (Decimal.ofDigits hour)
          (Decimal.ofDigits minute) (Decimal.ofDigits second))
      else none
    | none => none
  | _ => none

/-- Reads an age in seconds; a negative one is zero. -/
def age? (cs : List Char) : Option Nat :=
  match cs with
  | '-' :: digits => if digits.all Char.isDigit then some 0 else none
  | digits =>
    if !digits.all Char.isDigit then none
    else some (if digits.isEmpty then Nat.pow 2 63 - 1 else Decimal.ofDigits digits)

/-- Adds an attribute; unknown ones and those without a sensible value change nothing. -/
def withAttribute (s : CookieSetting) (cs : List Char) : CookieSetting :=
  let (name, value) := Url.cutAt '=' cs
  let value := value.map Text.trim
  match String.ofList (Text.asciiLower (Text.trim name)), value with
  | "secure", _ => { s with secure := true }
  | "max-age", some v => match age? v with
    | some age => { s with age := some age }
    | none => s
  | "expires", some v => match date? v with
    | some date => { s with date := some date }
    | none => s
  | "domain", some v => if v.isEmpty then s else { s with domain := some (String.ofList v) }
  | "path", some v => { s with path := some (String.ofList v) }
  | _, _ => s

/-- Reads what a server sets. -/
def parse? (text : String) : Option CookieSetting :=
  match Text.pieces (· = ';') text.toList with
  | [] => none
  | pair :: attributes =>
    match Url.cutAt '=' pair with
    | (_, none) => none
    | (name, some value) =>
      let name := String.ofList (Text.trim name)
      if name.isEmpty then none
      else
        let start : CookieSetting := { name, value := String.ofList (Text.trim value) }
        some (attributes.foldl withAttribute start)

/-- Whether a cookie that is set at a time, in seconds from 1970, is gone at once. -/
def isExpired (s : CookieSetting) (now : Nat) : Bool :=
  match s.age, s.date with
  | some age, _ => age = 0
  | none, some date => date ≤ now
  | none, none => false

end CookieSetting

namespace Cookie

/-- Whether a cookie's domain matches a host. -/
def matchesHost (c : Cookie) (host : Host) : Bool :=
  let text := host.text
  text = c.domain ||
    (!c.hostOnly && !host.isAddress && ("." ++ c.domain).toList.isSuffixOf text.toList)

/-- Whether a cookie's path matches a path: it is the same or leads to it at a slash. -/
def matchesPath (c : Cookie) (path : String) : Bool :=
  let below := if c.path.toList.getLast? = some '/' then c.path else c.path ++ "/"
  path = c.path || below.toList.isPrefixOf path.toList

/-- Whether a cookie is sent with a request for a page. -/
def isSent (c : Cookie) (page : Url) : Bool :=
  (page.host?.map (matchesHost c)).getD false && matchesPath c page.pathText &&
    (!c.secure || page.scheme = "https")

/-- The path that a cookie gets if it is set without one: that of the page up to its last slash. -/
def defaultPath (page : Url) : String :=
  let path := page.pathText.toList
  let above := (path.reverse.dropWhile (· ≠ '/')).reverse.dropLast
  if above.isEmpty then "/" else String.ofList above

/-- The cookie that a page sets, unless it is meant for another host. -/
def ofSetting? (page : Url) (s : CookieSetting) : Option Cookie :=
  match page.host? with
  | none => none
  | some host =>
    let path := match s.path with
      | some p => if p.toList.head? = some '/' then p else defaultPath page
      | none => defaultPath page
    let domain := s.domain.map fun d =>
      let d := Text.asciiLower (Text.trim d.toList)
      String.ofList (if d.head? = some '.' then d.drop 1 else d)
    let cookie : Cookie :=
      { name := s.name, value := s.value, domain := domain.getD host.text
        hostOnly := domain.isNone, path, secure := s.secure }
    if cookie.domain.isEmpty || !cookie.matchesHost host then none else some cookie

/-- Whether two cookies have the same domain, path and name. -/
def sameKey (c d : Cookie) : Bool :=
  c.domain = d.domain && c.path = d.path && c.name = d.name

end Cookie

/-- The cookies that were set. -/
abbrev CookieJar := List Cookie

namespace CookieJar

/-- Sets a cookie, or removes it if it has expired. -/
def set (jar : CookieJar) (now : Nat) (page : Url) (text : String) : CookieJar :=
  match CookieSetting.parse? text with
  | none => jar
  | some s =>
    match Cookie.ofSetting? page s with
    | none => jar
    | some cookie =>
      let others := jar.filter fun c => !c.sameKey cookie
      if s.isExpired now then others else others ++ [cookie]

/-- The cookies that are sent with a request for a page. -/
def sent (jar : CookieJar) (page : Url) : List Cookie :=
  jar.filter fun c => c.isSent page

end CookieJar

end TrafficMap.Web
