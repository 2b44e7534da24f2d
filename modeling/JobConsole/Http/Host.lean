import JobConsole.Http.HostName
import JobConsole.Text.Decimal
import JobConsole.Text.Utf8

/-!
# Hosts

A host is a name or an address.  For the schemes of the web a name has its
percent-encoded bytes decoded and is written in ASCII; when its last label is then a
number, it is an address of four bytes, of which the last number may fill several.
An address in brackets has eight groups of sixteen bits, of which the longest run of
zeros is left out when it is written.
-/

namespace JobConsole.Http

open JobConsole.Text

/-- Why a text is no address of a resource. -/
inductive UrlError where
  | relative
  | emptyHost
  | invalidPort
  | invalidIpv4
  | invalidIpv6
  | invalidHost
  | invalidName
deriving DecidableEq

namespace UrlError

/-- What an error is called. -/
def message : UrlError → String
  | .relative => "relative URL without a base"
  | .emptyHost => "empty host"
  | .invalidPort => "invalid port number"
  | .invalidIpv4 => "invalid IPv4 address"
  | .invalidIpv6 => "invalid IPv6 address"
  | .invalidHost => "invalid domain character"
  | .invalidName => "invalid international domain name"

end UrlError

/-- The capital digit in base sixteen for a number below sixteen. -/
def capitalHexDigit (n : Nat) : Char :=
  n.digitChar.toUpper

/-- The percent-encoded form of a byte. -/
def percentByte (byte : UInt8) : List Char :=
  ['%', capitalHexDigit (byte.toNat / 16), capitalHexDigit (byte.toNat % 16)]

/-- A character that may stand for itself, or its percent-encoded bytes. -/
def encodeChar (mayStand : Char → Bool) (c : Char) : List Char :=
  if mayStand c then [c] else (utf8Bytes c).flatMap percentByte

/-- A text with every character encoded that may not stand for itself. -/
def encode (mayStand : Char → Bool) (text : List Char) : List Char :=
  text.flatMap (encodeChar mayStand)

namespace Host

/-- The value of a digit in base sixteen. -/
def hexDigit? (c : Char) : Option Nat :=
  if isDigit c then some (digitValue c)
  else if 'a' ≤ c ∧ c ≤ 'f' then some (c.toNat - 'a'.toNat + 10)
  else if 'A' ≤ c ∧ c ≤ 'F' then some (c.toNat - 'A'.toNat + 10)
  else none

/-- The number that digits stand for in a base, read from the left onto a
start. -/
def readBase? (base start : Nat) : List Char → Option Nat
  | [] => some start
  | c :: rest =>
      match hexDigit? c with
      | some value => if value < base then readBase? base (start * base + value) rest else none
      | none => none

/-- The bytes of a name, with percent-encoded bytes decoded. -/
def decodedBytes : List Char → List UInt8
  | '%' :: high :: low :: rest =>
      match hexDigit? high, hexDigit? low with
      | some high, some low => UInt8.ofNat (16 * high + low) :: decodedBytes rest
      | _, _ => encodeUtf8 ['%'] ++ decodedBytes (high :: low :: rest)
  | c :: rest => utf8Bytes c ++ decodedBytes rest
  | [] => []

/-- Whether a character may not stand in an opaque host. -/
def isForbidden (c : Char) : Bool :=
  ['\x00', '\t', '\n', '\r', ' ', '#', '/', ':', '<', '>', '?', '@', '[', '\\', ']', '^',
    '|'].contains c

/-- Whether a character may not stand in a name. -/
def isForbiddenInName (c : Char) : Bool :=
  isForbidden c || c == '%' || c.toNat ≤ 0x20 || c.toNat == 0x7f

/-- A number of an address of four bytes, in base ten, eight or sixteen. -/
def readIpv4Number? : List Char → Option Nat
  | [] => none
  | ['0', 'x'] => some 0
  | ['0', 'X'] => some 0
  | '0' :: 'x' :: digits => readBase? 16 0 digits
  | '0' :: 'X' :: digits => readBase? 16 0 digits
  | ['0'] => some 0
  | '0' :: digits => readBase? 8 0 digits
  | digits => readBase? 10 0 digits

/-- The parts of a name between its dots; a dot at the end does not count. -/
def labels (name : List Char) : List (List Char) :=
  let all := name.splitOn '.'
  if all.getLast? = some [] then all.dropLast else all

/-- Whether the last part of a name is a number. -/
def endsInNumber (name : List Char) : Bool :=
  match (labels name).getLast? with
  | none => false
  | some [] => false
  | some last => last.all isDigit || (readIpv4Number? last).isSome

/-- The number that four bytes with the given numbers stand for; the last number
fills the bytes that are left. -/
def joinIpv4? (numbers : List Nat) : Option Nat :=
  match numbers.reverse with
  | [] => none
  | last :: before =>
      let count := before.length
      if 3 < count || before.any (255 < ·) || Nat.pow 256 (4 - count) ≤ last then none
      else
        some (before.reverse.zipIdx.foldl
          (fun total (n, i) => total + n * Nat.pow 256 (3 - i)) last)

/-- The text of an address of four bytes. -/
def ipv4Chars (address : Nat) : List Char :=
  digits (address / 16777216 % 256) ++ '.' :: digits (address / 65536 % 256) ++
    '.' :: digits (address / 256 % 256) ++ '.' :: digits (address % 256)

/-- Reads an address of four bytes. -/
def readIpv4 (name : List Char) : Except UrlError (List Char) :=
  match ((labels name).mapM readIpv4Number?).bind joinIpv4? with
  | some address => .ok (ipv4Chars address)
  | none => .error .invalidIpv4

/-- Reads a name or an address of four bytes, for a scheme of the web. -/
def readName (text : List Char) : Except UrlError (List Char) :=
  match HostName.ascii? isForbiddenInName (decodeLossy (decodedBytes text)) with
  | none => .error .invalidName
  | some [] => .error .emptyHost
  | some name => if endsInNumber name then readIpv4 name else .ok name

/-- A group of an address of eight groups. -/
def readGroup? (text : List Char) : Option Nat :=
  if text.isEmpty || 4 < text.length then none else readBase? 16 0 text

/-- A byte of an address of four bytes inside one of eight groups. -/
def readByte? (text : List Char) : Option Nat :=
  match text with
  | [] => none
  | ['0'] => some 0
  | '0' :: _ => none
  | text => if text.all isDigit && readDigits text ≤ 255 then some (readDigits text) else none

/-- The two groups that four bytes in decimal form stand for. -/
def readTwoGroups? (text : List Char) : Option (List Nat) := do
  match ← (text.splitOn '.').mapM readByte? with
  | [a, b, c, d] => some [256 * a + b, 256 * c + d]
  | _ => none

/-- The groups in a list of texts, of which the last one may be four bytes. -/
def readGroups? (mayEndInBytes : Bool) : List (List Char) → Option (List Nat)
  | [] => some []
  | [last] =>
      if mayEndInBytes && last.contains '.' then readTwoGroups? last
      else (readGroup? last).map ([·])
  | text :: rest => do
      let group ← readGroup? text
      some (group :: (← readGroups? mayEndInBytes rest))

/-- The texts between colons; no text has none. -/
def colonParts (text : List Char) : List (List Char) :=
  if text.isEmpty then [] else text.splitOn ':'

/-- Splits a text at the first pair of colons. -/
def splitAtGap : List Char → List Char × Option (List Char)
  | ':' :: ':' :: rest => ([], some rest)
  | c :: rest =>
      let (before, after) := splitAtGap rest
      (c :: before, after)
  | [] => ([], none)

/-- The eight groups of an address, of which a pair of colons leaves out a run of
zeros. -/
def readIpv6? (text : List Char) : Option (List Nat) :=
  match splitAtGap text with
  | (whole, none) => do
      let groups ← readGroups? true (colonParts whole)
      if groups.length = 8 then some groups else none
  | (before, some after) => do
      let left ← readGroups? false (colonParts before)
      let right ← readGroups? true (colonParts after)
      if left.length + right.length ≤ 7 then
        some (left ++ List.replicate (8 - left.length - right.length) 0 ++ right)
      else none

/-- The number of zeros at the start of a list. -/
def zerosAtStart (groups : List Nat) : Nat :=
  (groups.takeWhile (· == 0)).length

/-- The place and the length of the first longest run of zeros. -/
def longestZeros (place : Nat) : List Nat → Nat × Nat
  | [] => (place, 0)
  | group :: rest =>
      let here := zerosAtStart (group :: rest)
      let (otherPlace, other) := longestZeros (place + 1) rest
      if other ≤ here then (place, here) else (otherPlace, other)

/-- Groups in base sixteen with colons between them. -/
def groupChars (groups : List Nat) : List Char :=
  [':'].intercalate (groups.map (Nat.toDigits 16))

/-- The text of an address of eight groups. -/
def ipv6Chars (groups : List Nat) : List Char :=
  let (place, length) := longestZeros 0 groups
  if length < 2 then groupChars groups
  else groupChars (groups.take place) ++ ':' :: ':' :: groupChars (groups.drop (place + length))

/-- Reads an address in brackets. -/
def readBracketed (text : List Char) : Except UrlError (List Char) :=
  match text.reverse with
  | ']' :: inner =>
      match readIpv6? (inner.reverse.drop 1) with
      | some groups => .ok ('[' :: ipv6Chars groups ++ [']'])
      | none => .error .invalidIpv6
  | _ => .error .invalidIpv6

/-- Whether a character may stand in an opaque host. -/
def mayStandInOpaque (c : Char) : Bool :=
  0x20 ≤ c.toNat && c.toNat < 0x7f

/-- Reads a host, for a scheme of the web or for another one. -/
def read (web : Bool) (text : List Char) : Except UrlError (List Char) :=
  match text with
  | [] => if web then .error .emptyHost else .ok []
  | '[' :: _ => readBracketed text
  | _ =>
      if web then readName text
      else if text.any isForbidden then .error .invalidHost
      else .ok (encode mayStandInOpaque text)

end Host

end JobConsole.Http
