import TrafficMap.Web.Host

/-!
# URLs

A URL is read leniently: blanks around it and line breaks inside it are dropped, backslashes count
as slashes where the scheme has servers, and characters that cannot stand in a part are escaped.
What is read is shown in one form.
-/

namespace TrafficMap.Web

/-- The server of a URL. -/
structure Authority where
  username : String := ""
  password : String := ""
  host : Host
  /-- The port, unless it is the usual one of the scheme. -/
  port : Option Nat := none
  deriving DecidableEq, Repr

/-- The path of a URL: the names between its slashes, or a text that does not begin with a slash. -/
inductive UrlPath where
  | segments (names : List String)
  | rootless (text : String)
  deriving DecidableEq, Repr

/-- The address of a page. -/
structure Url where
  scheme : String
  authority : Option Authority
  path : UrlPath
  query : Option String := none
  fragment : Option String := none
  deriving DecidableEq, Repr

namespace Url

/-- The schemes that have servers, with their usual ports. -/
def serverSchemes : List (String × Nat) :=
  [("http", 80), ("https", 443), ("ws", 80), ("wss", 443), ("ftp", 21)]

/-- Whether backslashes count as slashes. -/
def isSpecial (scheme : String) : Bool :=
  (serverSchemes.lookup scheme).isSome || scheme = "file"

/-- Whether a character is a slash in a URL. -/
def isSlash (special : Bool) (c : Char) : Bool :=
  c = '/' || (special && c = '\\')

/-! ## Reading -/

/-- Drops the blanks and control characters at both ends, and all line breaks and tabs. -/
def cleaned (cs : List Char) : List Char :=
  (Text.dropEnd (· ≤ ' ') (cs.dropWhile (· ≤ ' '))).filter fun c =>
    !(c = '\t' || c = '\n' || c = '\r')

/-- The scheme of a text, in lower case, and what follows its colon. -/
def scheme? (cs : List Char) : Option (String × List Char) :=
  let name := cs.takeWhile fun c => c.isAlphanum || c = '+' || c = '-' || c = '.'
  match name, cs.drop name.length with
  | c :: _, ':' :: rest =>
    if c.isAlpha then some (String.ofList (Text.asciiLower name), rest) else none
  | _, _ => none

/-- Cuts a text at the last character that is an at sign. -/
def cutAtLast (cs : List Char) : Option (List Char × List Char) :=
  if cs.contains '@' then
    let after := (cs.reverse.takeWhile (· ≠ '@')).reverse
    some ((cs.take (cs.length - after.length)).dropLast, after)
  else none

/-- The length of the host at the start of a text: it ends at a colon that is not in brackets. -/
def hostLength : Bool → List Char → Nat
  | _, [] => 0
  | inside, c :: rest =>
    if c = ':' && !inside then 0
    else 1 + hostLength ((inside || c = '[') && c ≠ ']') rest

/-- Reads a port; the usual one of the scheme and none at all are left out. -/
def port? (scheme : String) (digits : List Char) : Except UrlError (Option Nat) :=
  if !digits.all Char.isDigit then .error .invalidPort
  else
    let n := Decimal.ofDigits digits
    if 65535 < n then .error .invalidPort
    else if digits.isEmpty || serverSchemes.lookup scheme = some n then .ok none
    else .ok (some n)

/-- A user name and a password, escaped. -/
def userInfo (cs : List Char) : String × String :=
  let name := cs.takeWhile (· ≠ ':')
  let escaped (cs : List Char) := String.ofList (Percent.encode Percent.inUserInfo cs)
  (escaped name, escaped (cs.drop (name.length + 1)))

/-- Reads the part of a URL between the slashes and the path. -/
def authority? (scheme : String) (cs : List Char) : Except UrlError Authority :=
  let special := (serverSchemes.lookup scheme).isSome
  let (user, server) := (cutAtLast cs).getD ([], cs)
  let name := server.take (hostLength false server)
  let after := server.drop name.length
  let (username, password) := userInfo user
  if name.isEmpty && (special || !after.isEmpty || !username.isEmpty || !password.isEmpty) then
    .error .emptyHost
  else do
    let host ← if special then Host.parse? name else Host.parseElsewhere? name
    let port ← port? scheme (after.drop 1)
    .ok { username, password, host, port }

/-- Whether a name stands for the same directory. -/
def isSingleDot (name : List Char) : Bool :=
  [['.'], ['%', '2', 'e']].contains (Text.asciiLower name)

/-- Whether a name stands for the directory above. -/
def isDoubleDot (name : List Char) : Bool :=
  let dot := ['.']
  let escape := ['%', '2', 'e']
  [dot ++ dot, dot ++ escape, escape ++ dot, escape ++ escape].contains (Text.asciiLower name)

/-- Adds the names of a path to those before it, following the dots. -/
def walk : List String → List (List Char) → List String
  | above, [] => above
  | above, name :: rest =>
    let last := rest.isEmpty
    if isDoubleDot name then walk (above.dropLast ++ if last then [""] else []) rest
    else if isSingleDot name then walk (above ++ if last then [""] else []) rest
    else walk (above ++ [String.ofList (Percent.encode Percent.inPath name)]) rest

/-- The names of a path, which begins with a slash or is empty. -/
def names (special : Bool) (cs : List Char) : List String :=
  if cs.isEmpty then (if special then [""] else [])
  else
    walk [] (Text.pieces (isSlash special)
      (if isSlash special (cs.headD ' ') then cs.drop 1 else cs))

/-- Cuts a text at the first character of a kind, which is dropped. -/
def cutAt (mark : Char) (cs : List Char) : List Char × Option (List Char) :=
  let before := cs.takeWhile (· ≠ mark)
  (before, if before.length < cs.length then some (cs.drop (before.length + 1)) else none)

/-- The part before the query and the fragment, and those two, escaped. -/
def tail (special : Bool) (cs : List Char) : List Char × Option String × Option String :=
  let (rest, fragment) := cutAt '#' cs
  let (path, query) := cutAt '?' rest
  (path,
    query.map fun q =>
      String.ofList
        (Percent.encode (if special then Percent.inSpecialQuery else Percent.inQuery) q),
    fragment.map fun f => String.ofList (Percent.encode Percent.inFragment f))

/-- Reads the host of a file; this computer and no host are the same. -/
def fileHost? (cs : List Char) : Except UrlError Authority :=
  if cs.isEmpty then .ok { host := .domain "" }
  else do
    let host ← Host.parse? cs
    .ok { host := if host = .domain "localhost" then .domain "" else host }

/-- Reads a URL. -/
def parse? (text : String) : Except UrlError Url :=
  match scheme? (cleaned text.toList) with
  | none => .error .relativeWithoutBase
  | some (scheme, rest) =>
    let special := isSpecial scheme
    let (body, query, fragment) := tail special rest
    let slashes := (body.takeWhile (isSlash special)).length
    if (serverSchemes.lookup scheme).isSome then do
      let body := body.drop slashes
      let server := body.takeWhile fun c => !isSlash special c
      let authority ← authority? scheme server
      let path := UrlPath.segments (names special (body.drop server.length))
      .ok { scheme, authority := some authority, path, query, fragment }
    else if scheme = "file" then do
      let body := if 2 ≤ slashes then body.drop 2 else body
      let server := if 2 ≤ slashes then body.takeWhile fun c => !isSlash special c else []
      let authority ← fileHost? server
      let path := UrlPath.segments (names special (body.drop server.length))
      .ok { scheme, authority := some authority, path, query, fragment }
    else if 2 ≤ slashes then do
      let body := body.drop 2
      let server := body.takeWhile fun c => !isSlash special c
      let authority ← authority? scheme server
      let path := UrlPath.segments (names special (body.drop server.length))
      .ok { scheme, authority := some authority, path, query, fragment }
    else if slashes = 1 then
      .ok { scheme, authority := none, path := .segments (names special body), query, fragment }
    else
      let path := UrlPath.rootless (String.ofList (Percent.encode Percent.isControl body))
      .ok { scheme, authority := none, path, query, fragment }

/-! ## Showing -/

/-- The path as text. -/
def pathText (u : Url) : String :=
  match u.path with
  | .segments names => String.join (names.map ("/" ++ ·))
  | .rootless text => text

/-- The server as text. -/
def authorityText (a : Authority) : String :=
  let password := if a.password.isEmpty then "" else ":" ++ a.password
  let user := if a.username.isEmpty && a.password.isEmpty then "" else a.username ++ password ++ "@"
  let port := match a.port with
    | some n => ":" ++ toString n
    | none => ""
  user ++ a.host.text ++ port

/-- A part of a URL with the mark before it. -/
def marked (mark : String) : Option String → String
  | some text => mark ++ text
  | none => ""

/-- What is asked for at the server: the path and the query. -/
def target (u : Url) : String :=
  u.pathText ++ marked "?" u.query

/-- A URL as text. -/
def text (u : Url) : String :=
  let server := match u.authority with
    | some a => "//" ++ authorityText a
    | none => if "//".isPrefixOf u.pathText then "/." else ""
  u.scheme ++ ":" ++ server ++ u.target ++ marked "#" u.fragment

/-! ## Pages of a server -/

/-- The page of the same server with the given names as its path. -/
def page (u : Url) (names : List String) : Except UrlError Url :=
  match u.path with
  | .rootless _ => .error .relativeWithoutPath
  | .segments _ => .ok { u with path := .segments names, query := none, fragment := none }

/-- The name of the host, if there is one. -/
def host? (u : Url) : Option Host :=
  u.authority.map (·.host)

/-- A URL without its user name and password. -/
def withoutUser (u : Url) : Url :=
  { u with authority := u.authority.map fun a => { a with username := "", password := "" } }

end Url

end TrafficMap.Web
