import JobConsole.Http.Url.Path

/-!
# Addresses

An address is read as browsers do.  Blanks at its ends and line breaks inside it
are dropped; the scheme and the host lose their case; a backslash is a slash for
the schemes of the web; the dots of a path are resolved; what may not stand for
itself is percent-encoded.  A percent sign is left alone, whatever follows it.

An address without a scheme is relative, and there is nothing it could be
relative to.
-/

namespace JobConsole.Http

open JobConsole.Text

/-- A user and a password, percent-encoded.  An empty one is none. -/
structure Credentials where
  user : List Char
  password : List Char
deriving DecidableEq

/-- The part of an address before its path. -/
structure Authority where
  credentials : Credentials
  host : List Char
  portNumber : Option Nat
deriving DecidableEq

/-- An address.  An address without an authority may have an opaque path. -/
structure Url where
  scheme : List Char
  authority : Option Authority
  path : List Char
  query : Option (List Char)
  fragment : Option (List Char)
deriving DecidableEq

/-- Splits a text at the first occurrence of a character. -/
def splitFirst (mark : Char) : List Char → List Char × Option (List Char)
  | [] => ([], none)
  | c :: rest =>
      if c = mark then ([], some rest)
      else (c :: (splitFirst mark rest).1, (splitFirst mark rest).2)

/-- A part of an address behind its mark, if there is one. -/
def markedChars (mark : Char) : Option (List Char) → List Char
  | none => []
  | some part => mark :: part

/-- A text is its part before the first occurrence of a character, and what is
behind it. -/
theorem splitFirst_append (mark : Char) (text : List Char) :
    (splitFirst mark text).1 ++ markedChars mark (splitFirst mark text).2 = text := by
  induction text with
  | nil => rfl
  | cons c rest ih =>
      unfold splitFirst
      split
      · rename_i same
        simp [markedChars, same]
      · simp [ih]

namespace Credentials

/-- No user and no password. -/
def absent : Credentials :=
  ⟨[], []⟩

/-- The characters that may stand in a user and in a password. -/
def mayStand (c : Char) : Bool :=
  Url.mayStandInPath c && c ∉ ['/', ':', ';', '=', '@', '[', '\\', ']', '^', '|']

/-- Reads a user, and a password behind a colon. -/
def read (text : List Char) : Credentials :=
  let (user, password) := splitFirst ':' text
  ⟨encode mayStand user, encode mayStand (password.getD [])⟩

/-- Whether a percent-encoded part is there and is a text. -/
def isText (part : List Char) : Bool :=
  !part.isEmpty && isUtf8 (Host.decodedBytes part)

/-- Whether a login can be made of credentials: the user is a text or is empty, and
one of both parts is a text. -/
def isLogin (credentials : Credentials) : Bool :=
  isText credentials.user || (credentials.user.isEmpty && isText credentials.password)

/-- The bytes of the login that can be made of credentials: the user, a colon, and the
password if it is a text. -/
def login? (credentials : Credentials) : Option (List UInt8) :=
  if credentials.isLogin then
    let password := if isText credentials.password then credentials.password else []
    some (Host.decodedBytes credentials.user ++ encodeUtf8 [':'] ++ Host.decodedBytes password)
  else none

/-- Credentials before a host. -/
def chars (credentials : Credentials) : List Char :=
  if credentials = absent then []
  else if credentials.password.isEmpty then credentials.user ++ ['@']
  else credentials.user ++ ':' :: credentials.password ++ ['@']

end Credentials

namespace Url

/-- Whether a character is a control character or a space. -/
def isControlOrSpace (c : Char) : Bool :=
  c.toNat ≤ 0x20

/-- Whether a character is dropped wherever it stands. -/
def isDropped (c : Char) : Bool :=
  c == '\t' || c == '\n' || c == '\r'

/-- The characters of an address that count. -/
def significant (text : List Char) : List Char :=
  let start := text.dropWhile isControlOrSpace
  (start.reverse.dropWhile isControlOrSpace).reverse.filter fun c => !isDropped c

/-- The characters that may stand in a query; for the schemes of the web an
apostrophe may not. -/
def mayStandInQuery (web : Bool) (c : Char) : Bool :=
  isVisibleAscii c && c ∉ ['\"', '#', '<', '>'] && !(web && c == '\'')

/-- The characters that may stand in an opaque path. -/
def mayStandInOpaquePath (c : Char) : Bool :=
  c == ' ' || isVisibleAscii c

/-- The schemes of the web, with their standard port numbers. -/
def webSchemes : List (List Char × Option Nat) := [
  ("http".toList, some 80), ("https".toList, some 443), ("ws".toList, some 80),
  ("wss".toList, some 443), ("ftp".toList, some 21), ("file".toList, none)]

/-- Whether a scheme is one of the web. -/
def isWebScheme (scheme : List Char) : Bool :=
  (webSchemes.lookup scheme).isSome

/-- Whether a character may stand in a scheme behind the first one. -/
def isSchemeChar (c : Char) : Bool :=
  c.isAlphanum || c == '+' || c == '-' || c == '.'

/-- Splits a text at its first colon into a scheme, in small letters, and the
rest. -/
def splitScheme? (text : List Char) : Option (List Char × List Char) :=
  match text.span isSchemeChar with
  | (first :: more, ':' :: rest) =>
      if first.isAlpha then some ((first :: more).map Char.toLower, rest) else none
  | _ => none

/-- Splits the credentials from an authority, at its last `@`. -/
def splitCredentials (text : List Char) : Option (List Char) × List Char :=
  match text.reverse.span (· != '@') with
  | (host, _ :: before) => (some before.reverse, host.reverse)
  | (host, []) => (none, host.reverse)

/-- Splits a host from the port number behind it, with the colon dropped.  A
colon in brackets belongs to the host. -/
def splitPort (inBrackets : Bool) : List Char → List Char × Option (List Char)
  | [] => ([], none)
  | c :: rest =>
      if c == ':' && !inBrackets then ([], some rest)
      else
        let (host, number) := splitPort (c == '[' || (inBrackets && c != ']')) rest
        (c :: host, number)

/-- Reads a port number; the standard one for a scheme is left out. -/
def readPort (scheme digits : List Char) : Except UrlError (Option Nat) :=
  if digits.isEmpty then .ok none
  else if !digits.all isDigit || 65535 < readDigits digits then .error .invalidPort
  else if webSchemes.lookup scheme = some (some (readDigits digits)) then .ok none
  else .ok (some (readDigits digits))

/-- Reads an authority, and yields what belongs to the path already: a backslash
ends the port number, also where it is no slash.  Without a host there are no
credentials, no port number and no `@` that stands alone. -/
def readAuthority (scheme text : List Char) : Except UrlError (Authority × List Char) := do
  let (before, text) := splitCredentials text
  if before == some [] && text.isEmpty then throw .emptyHost
  let credentials := (before.map Credentials.read).getD .absent
  let (host, behind) := splitPort false text
  if host.isEmpty && behind.isSome then throw .emptyHost
  let host ← Host.read (isWebScheme scheme) host
  let (digits, rest) := (behind.getD []).span (· != '\\')
  let portNumber ← readPort scheme digits
  if host.isEmpty && credentials ≠ .absent then throw .emptyHost
  pure (⟨credentials, host, portNumber⟩, rest)

/-- An authority that is a host and nothing else. -/
def plainAuthority (host : List Char) : Authority :=
  ⟨.absent, host, none⟩

/-- Reads the host of a file, which is left out when it is the machine itself. -/
def readFileHost (text : List Char) : Except UrlError (List Char) :=
  if text.isEmpty then .ok []
  else (Host.read true text).map fun host => if host == "localhost".toList then [] else host

/-- Reads what stands between the scheme of a file and a query.  Behind two slashes
there is a host, unless a drive stands in its place.  A host does not count when the
path begins with a drive. -/
def readFileBody (text : List Char) : Except UrlError (Authority × List Char) := do
  let slashes := (text.takeWhile (isSlash true)).length
  if slashes < 2 then
    pure (plainAuthority [], filePath (segments true true (withoutSlash true text)))
  else
    let (host, path) := (text.drop 2).span fun c => !isSlash true c
    if isDrive host then
      pure (plainAuthority [], filePath (segments true true (text.drop 2)))
    else
      let host ← readFileHost host
      let path := segments true true (if host.isEmpty then path else withoutSlash true path)
      pure (plainAuthority (if isDrive (path.headD []) then [] else host), filePath path)

/-- Reads what stands between a scheme and a query: for the schemes of the web
always an authority, however many slashes there are before it; for other schemes
an authority behind two slashes, a path of segments behind one slash, and an
opaque path otherwise. -/
def readBody (scheme text : List Char) :
    Except UrlError (Option Authority × List Char) := do
  let web := isWebScheme scheme
  let slashes := (text.takeWhile (isSlash web)).length
  if scheme == "file".toList then
    let (authority, path) ← readFileBody text
    pure (some authority, path)
  else if web || 2 ≤ slashes then
    let (authority, path) :=
      (text.drop (if web then slashes else 2)).span fun c => !isSlash web c
    let (authority, rest) ← readAuthority scheme authority
    pure (some authority, readPath web (rest ++ path))
  else if slashes = 1 then pure (none, readPath false text)
  else pure (none, encode mayStandInOpaquePath text)

/-- Reads the part of an address behind its scheme. -/
def readRest (scheme text : List Char) : Except UrlError Url := do
  let (text, fragment) := splitFirst '#' text
  let (text, query) := splitFirst '?' text
  let (authority, path) ← readBody scheme text
  pure {
    scheme := scheme
    authority := authority
    path := path
    query := query.map (encode (mayStandInQuery (isWebScheme scheme)))
    fragment := fragment.map (encode mayStandInFragment)
  }

/-- Reads an address. -/
def read (text : String) : Except UrlError Url :=
  match splitScheme? (significant text.toList) with
  | none => .error .relative
  | some (scheme, rest) => readRest scheme rest

/-- The text of an authority. -/
def authorityChars (authority : Authority) : List Char :=
  '/' :: '/' :: authority.credentials.chars ++ authority.host ++
    markedChars ':' (authority.portNumber.map digits)

/-- What stands before the path of an address.  Without an authority, two slashes at
the start of a path are kept from being read as the start of one. -/
def charsBeforePath (url : Url) : List Char :=
  match url.authority with
  | some authority => authorityChars authority
  | none => if ['/', '/'].isPrefixOf url.path then ['/', '.'] else []

/-- The text of an address. -/
def text (url : Url) : String :=
  String.ofList (url.scheme ++ ':' :: url.charsBeforePath ++ url.path ++
    markedChars '?' url.query ++ markedChars '#' url.fragment)

/-- What a request to an address asks its host for: the path and the query. -/
def target (url : Url) : String :=
  String.ofList (url.path ++ markedChars '?' url.query)

/-- The credentials in an address. -/
def credentials (url : Url) : Credentials :=
  (url.authority.map Authority.credentials).getD .absent

/-- An address without the credentials in it, if a login can be made of them. -/
def withoutLogin (url : Url) : Url :=
  if url.credentials.isLogin then
    { url with authority := url.authority.map fun a => { a with credentials := .absent } }
  else url

/-- Whether requests can be sent to an address. -/
def isHttp (url : Url) : Bool :=
  (url.scheme == "http".toList || url.scheme == "https".toList) && url.authority.isSome

/-- The greatest number of bytes of an address that a request can have. -/
def greatestSize : Nat := 65534

/-- The characters that may stand in a name, but not in the host of a request. -/
def isForbiddenInRequest (c : Char) : Bool :=
  ['\"', '`', '\x7b', '\x7d'].contains c

/-- Whether an address can be put into a request. -/
def isRequestable (url : Url) : Bool :=
  url.text.utf8ByteSize ≤ greatestSize &&
    !((url.authority.map Authority.host).getD []).any isForbiddenInRequest

/-- Whether two addresses belong to one server: they agree in the scheme, the host
and the port number. -/
def isBeside (url other : Url) : Bool :=
  url.scheme == other.scheme &&
    url.authority.map (fun a => (a.host, a.portNumber)) ==
      other.authority.map (fun a => (a.host, a.portNumber))

end Url

end JobConsole.Http
