import TrafficMap.Web.Url

/-!
# References

A reference names a page relative to another one, as redirects do. Unlike a URL it is read strictly:
a text with a character that has no place in it is no reference.
-/

namespace TrafficMap.Web

/-- The parts of a reference, as they were written. -/
structure Reference where
  scheme : Option (List Char)
  authority : Option (List Char)
  path : List Char
  query : Option (List Char)
  fragment : Option (List Char)
  deriving DecidableEq, Repr

namespace Reference

/-- Letters, digits and the marks that never need an escape. -/
def isUnreserved (c : Char) : Bool :=
  c.isAlphanum || ['-', '.', '_', '~'].contains c

/-- The marks that may separate the pieces of a part. -/
def isDelimiter (c : Char) : Bool :=
  ['!', '$', '&', '\'', '(', ')', '*', '+', ',', ';', '='].contains c

/-- Whether a text holds nothing but escapes, unreserved characters, delimiters and some other
characters. -/
def allowed (others : List Char) : List Char → Bool
  | [] => true
  | '%' :: a :: b :: rest =>
    (Percent.hexValue? a).isSome && (Percent.hexValue? b).isSome && allowed others rest
  | c :: rest => (isUnreserved c || isDelimiter c || others.contains c) && allowed others rest

/-- Whether a text can be the scheme of a reference. -/
def isScheme : List Char → Bool
  | [] => false
  | c :: rest => c.isAlpha && rest.all fun c => c.isAlphanum || c = '+' || c = '-' || c = '.'

/-- Whether a text can be the server of a reference. -/
def isAuthority (cs : List Char) : Bool :=
  let (user, server) := (Url.cutAtLast cs).getD ([], cs)
  let name := server.take (Url.hostLength false server)
  let port := server.drop name.length
  allowed [':'] user && (port.drop 1).all Char.isDigit &&
    match name with
    | '[' :: rest => rest.getLast? = some ']' && (Host.ipv6? rest.dropLast).isSome
    | _ => allowed [] name

/-- Reads a reference. -/
def parse? (cs : List Char) : Option Reference :=
  let (rest, fragment) := Url.cutAt '#' cs
  let (rest, query) := Url.cutAt '?' rest
  let head := rest.takeWhile fun c => !(c = ':' || c = '/')
  let named := rest[head.length]? = some ':'
  if named && !isScheme head then none
  else
    let rest := if named then rest.drop (head.length + 1) else rest
    let served := ['/', '/'].isPrefixOf rest
    let server := (rest.drop 2).takeWhile (· ≠ '/')
    let path := if served then rest.drop (2 + server.length) else rest
    let inPath := [':', '@', '/']
    if (!served || isAuthority server) && allowed inPath path &&
        allowed ('?' :: inPath) (query.getD []) && allowed ('?' :: inPath) (fragment.getD []) then
      some
        { scheme := if named then some head else none
          authority := if served then some server else none
          path, query, fragment }
    else none

/-- Follows the dots of a path: the names before, in reverse, and those to come. -/
def walk : List (List Char) → List (List Char) → List (List Char)
  | above, [] => above.reverse
  | above, name :: rest =>
    let above' :=
      if name = ['.', '.'] then above.drop 1 else if name = ['.'] then above else name :: above
    let dots := name = ['.', '.'] || name = ['.']
    walk (if dots && rest.isEmpty then [] :: above' else above') rest

/-- A path without dots. -/
def withoutDots (path : List Char) : List Char :=
  match path with
  | '/' :: rest => '/' :: Text.join ['/'] (walk [] (Text.pieces (· = '/') rest))
  | _ => Text.join ['/'] (walk [] (Text.pieces (· = '/') path))

/-- The path of a reference relative to a page. -/
def merged (base : Reference) (path : List Char) : List Char :=
  if base.authority.isSome && base.path.isEmpty then '/' :: path
  else (base.path.reverse.dropWhile (· ≠ '/')).reverse ++ path

/-- What a reference stands for on a page. -/
def resolve (base r : Reference) : Reference :=
  if r.scheme.isSome then { r with path := withoutDots r.path }
  else if r.authority.isSome then { r with scheme := base.scheme, path := withoutDots r.path }
  else if r.path.isEmpty then
    { r with
      scheme := base.scheme
      authority := base.authority
      path := base.path
      query := r.query <|> base.query }
  else
    let path := if r.path.head? = some '/' then r.path else merged base r.path
    { r with scheme := base.scheme, authority := base.authority, path := withoutDots path }

/-- A part with the mark before it. -/
def marked (mark : List Char) : Option (List Char) → List Char
  | some cs => mark ++ cs
  | none => []

/-- A reference without its fragment as text. -/
def text (r : Reference) : String :=
  let scheme := match r.scheme with
    | some s => s ++ [':']
    | none => []
  String.ofList
    (scheme ++ marked ['/', '/'] r.authority ++ r.path ++ marked ['?'] r.query)

/-- What is asked for at the server: the path and the query. -/
def target (r : Reference) : String :=
  String.ofList ((if r.path.isEmpty then ['/'] else r.path) ++ marked ['?'] r.query)

/-- The page that a reference on a page leads to, without the place on it. A reference without a
server leads nowhere. -/
def follow? (base : Reference) (reference : String) : Option Reference :=
  match parse? reference.toList with
  | none => none
  | some r =>
    let r := resolve base r
    if r.authority.isSome then some { r with fragment := none } else none

end Reference

end TrafficMap.Web
