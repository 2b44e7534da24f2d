import JobConsole.Http.EventStream
import JobConsole.Http.Exchange
import JobConsole.Text.Base64

/-!
# Messages on a connection

A request is written as its head.  A response is read from the bytes received so
far: its head, and a body that is chunked, has a known length, or ends with the
connection.  As long as the response is not complete there is no settlement,
except that a stream of events is as good as complete when it holds a first
event.
-/

namespace JobConsole.Http

open JobConsole.Text

/-- The port number that an address names or its scheme stands for. -/
def Url.portNumber (url : Url) : Nat :=
  match url.authority.bind Authority.portNumber with
  | some number => number
  | none => if url.scheme == "https".toList then 443 else 80

/-- The host of an address. -/
def Url.hostName (url : Url) : String :=
  match url.authority with
  | some authority => String.ofList authority.host
  | none => ""

/-- The host of an address, with its port number if that is not the standard one. -/
def Url.hostField (url : Url) : String :=
  match url.authority.bind Authority.portNumber with
  | some number => url.hostName ++ ":" ++ natText number
  | none => url.hostName

/-- The lines of the head of a request with a login. -/
def Request.loginLines (request : Request) : List String :=
  match request.login with
  | none => []
  | some bytes => ["Authorization: Basic " ++ String.ofList (Base64.encode bytes)]

/-- The lines of the head of a request. -/
def Request.headLines (request : Request) : List String :=
  [request.line ++ " HTTP/1.1", "Host: " ++ request.url.hostField] ++ request.loginLines ++
    ["Accept: " ++ request.accept, "User-Agent: " ++ Request.agent, "Connection: close", "", ""]

/-- A request as bytes. -/
def Request.bytes (request : Request) : List UInt8 :=
  encodeUtf8 (String.intercalate "\r\n" request.headLines).toList

/-- Splits bytes at the first occurrence of a line break. -/
def splitLine? : List UInt8 → Option (List UInt8 × List UInt8)
  | 13 :: 10 :: rest => some ([], rest)
  | byte :: rest => (splitLine? rest).map fun (line, after) => (byte :: line, after)
  | [] => none

/-- What follows a line is shorter than the bytes before the split. -/
theorem length_of_splitLine? {bytes line rest : List UInt8}
    (split : splitLine? bytes = some (line, rest)) : rest.length < bytes.length := by
  fun_induction splitLine? bytes generalizing line with
  | case1 rest =>
      cases split
      simp only [List.length_cons]
      omega
  | case2 byte more _ ih =>
      obtain ⟨⟨found, after⟩, inner, same⟩ := Option.map_eq_some_iff.mp split
      cases same
      have shorter := ih inner
      simp only [List.length_cons]
      omega
  | case3 => contradiction

/-- The lines up to the first empty one, and the bytes behind it. -/
def splitHead? (bytes : List UInt8) : Option (List (List UInt8) × List UInt8) :=
  match _ : splitLine? bytes with
  | none => none
  | some ([], rest) => some ([], rest)
  | some (line, rest) => (splitHead? rest).map fun (lines, after) => (line :: lines, after)
termination_by bytes.length
decreasing_by exact length_of_splitLine? ‹_›

/-- What follows a head is shorter than the bytes before the split. -/
theorem length_of_splitHead? {bytes rest : List UInt8} {lines : List (List UInt8)}
    (split : splitHead? bytes = some (lines, rest)) : rest.length < bytes.length := by
  fun_induction splitHead? bytes generalizing lines with
  | case1 => contradiction
  | case2 bytes after found =>
      cases split
      exact length_of_splitLine? found
  | case3 bytes line after _ found ih =>
      obtain ⟨⟨others, last⟩, inner, same⟩ := Option.map_eq_some_iff.mp split
      cases same
      exact Nat.lt_trans (ih inner) (length_of_splitLine? found)

/-- The characters of a line. -/
def lineChars (line : List UInt8) : List Char :=
  line.map fun byte => Char.ofNat byte.toNat

/-- The status in the first line of a response. -/
def readStatus? (line : List UInt8) : Option Nat :=
  match (lineChars line).splitOn ' ' with
  | _ :: code :: _ => if code.length = 3 && code.all isDigit then some (readDigits code) else none
  | _ => none

/-- The name, in small letters, and the value in a line of a head. -/
def readField (line : List UInt8) : List Char × List Char :=
  let text := lineChars line
  let isBlank (c : Char) : Bool := c == ' ' || c == '\t'
  let value := (text.dropWhile (· ≠ ':')).drop 1
  ((text.takeWhile (· ≠ ':')).map Char.toLower,
    ((value.dropWhile isBlank).reverse.dropWhile isBlank).reverse)

/-- How the end of a body is found. -/
inductive Framing where
  | chunked
  | sized (length : Nat)
  | untilClosed
deriving DecidableEq

/-- How the end of the body is found, given the fields of the head. -/
def Framing.ofFields (status : Nat) (fields : List (List Char × List Char)) : Framing :=
  if isBodiless status then .sized 0
  else if fields.any fun (name, value) =>
      name == "transfer-encoding".toList && value.map Char.toLower == "chunked".toList then
    .chunked
  else
    match fields.lookup "content-length".toList with
    | some length => .sized (readDigits length)
    | none => .untilClosed

/-- The size of a chunk in the line before it. -/
def readChunkSize? (line : List UInt8) : Option Nat :=
  let digits := (lineChars line).takeWhile fun c => c ≠ ';' && c ≠ ' '
  if digits.isEmpty then none else Host.readBase? 16 0 digits

/-- The chunks of a body that have been received, and whether the last of them
has been. -/
def readChunks : Nat → List UInt8 → List (List UInt8) × Bool
  | 0, _ => ([], false)
  | fuel + 1, bytes =>
      match splitLine? bytes with
      | none => ([], false)
      | some (line, rest) =>
          match readChunkSize? line with
          | none => ([], false)
          | some 0 => ([], true)
          | some size =>
              if rest.length < size then ([rest], false)
              else
                let (chunks, ended) := readChunks fuel (rest.drop (size + 2))
                (rest.take size :: chunks, ended)

/-- The pieces of a body that have been received, and whether the body has
ended. -/
def readPieces (framing : Framing) (closed : Bool) (bytes : List UInt8) :
    List (List UInt8) × Bool :=
  match framing with
  | .chunked => readChunks (bytes.length + 1) bytes
  | .sized length => ([bytes.take length], length ≤ bytes.length)
  | .untilClosed => ([bytes], closed)

/-- Whether what has been received of a body is enough for a request. -/
def Request.isSatisfied (request : Request) (pieces : List (List UInt8)) : Bool :=
  request.accept == "text/event-stream" && (EventStream.receive [] pieces).isSome

/-- How a request settles with the bytes received so far, if it does.  Heads with
a status that is not final are passed over. -/
def Request.settled? (request : Request) (closed : Bool) (bytes : List UInt8) :
    Option Settlement :=
  match _ : splitHead? bytes with
  | some (first :: fields, rest) =>
      match readStatus? first with
      | none => some .broken
      | some status =>
          if isFinalStatus status then
            let (pieces, ended) := readPieces (.ofFields status (fields.map readField)) closed rest
            if ended || request.isSatisfied pieces then some (.answered ⟨status, pieces⟩)
            else if closed then some .broken
            else none
          else if status < 100 then some .broken
          else settled? request closed rest
  | some ([], _) => some .broken
  | none => if closed then some .broken else none
termination_by bytes.length
decreasing_by exact length_of_splitHead? ‹_›

end JobConsole.Http
