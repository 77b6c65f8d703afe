import Petstore.Text.Ascii
import Petstore.Text.Utf8

/-!
# Request targets

What stands in a request line between the method and the version: a path with an optional query, a
whole URI of which path and query count, an authority alone, or an asterisk. Nothing is decoded,
and a fragment is dropped.
-/

namespace Petstore

/-- Why a text is no request target. -/
inductive TargetFault where
  | empty
  | tooLong
  | schemeTooLong
  | invalidCharacter
  | invalidFormat
  | invalidAuthority
  deriving DecidableEq, Repr

/-- The wording of a fault. -/
def TargetFault.text : TargetFault → String
  | empty => "empty string"
  | tooLong => "uri too long"
  | schemeTooLong => "scheme too long"
  | invalidCharacter => "invalid uri character"
  | invalidFormat => "invalid format"
  | invalidAuthority => "invalid authority"

/-- A request target. -/
inductive Target where
  | path (path : String) (query : Option String)
  | authority
  | asterisk
  deriving DecidableEq, Repr

namespace Target

/-! ## Path and query -/

/-- A byte that may stand in a path. -/
def isPathByte (b : UInt8) : Bool :=
  b == 0x21 || b == 0x22 || (0x24 ≤ b && b ≤ 0x3B) || b == 0x3D || (0x40 ≤ b && b ≤ 0x5F) ||
    (0x61 ≤ b && b ≤ 0x7E) || 0x80 ≤ b

/-- A byte that may stand in a query. -/
def isQueryByte (b : UInt8) : Bool :=
  b == 0x21 || (0x24 ≤ b && b ≤ 0x3B) || b == 0x3D || (0x3F ≤ b && b ≤ 0x7E) || 0x80 ≤ b

/-- The text of bytes that come from a text. -/
def textOf (bytes : Bytes) : String :=
  Utf8.decodeLossy bytes

/-- A path with an optional query; an empty path is the root. -/
def ofPathAndQuery (s : Bytes) : Except TargetFault Target :=
  let s := s.takeWhile (· != 0x23)
  let path := s.takeWhile (· != 0x3F)
  let pathText := if path.isEmpty then "/" else textOf path
  if !path.all isPathByte then .error .invalidCharacter
  else match s.drop path.length with
    | [] => .ok (.path pathText none)
    | _ :: query =>
      if query.all isQueryByte then .ok (.path pathText (some (textOf query)))
      else .error .invalidCharacter

/-! ## Authority -/

/-- A byte that may stand in an authority, or that ends it. -/
def isAuthorityByte (b : UInt8) : Bool :=
  b == 0x21 || b == 0x23 || b == 0x24 || (0x26 ≤ b && b ≤ 0x3B) || b == 0x3D || b == 0x3F ||
    (0x40 ≤ b && b ≤ 0x5B) || b == 0x5D || b == 0x5F || (0x61 ≤ b && b ≤ 0x7A) || b == 0x7E

/-- What has been seen of an authority. -/
structure AuthorityScan where
  colons : Nat := 0
  opened : Bool := false
  closed : Bool := false
  escaped : Bool := false
  last : Option UInt8 := none

/-- One more byte of an authority. Colons and escapes count only outside user information and
bracketed addresses. -/
def AuthorityScan.push (scan : AuthorityScan) (b : UInt8) : Except TargetFault AuthorityScan :=
  let scan := { scan with last := some b }
  if b == 0x3A then
    if 8 ≤ scan.colons then .error .invalidAuthority
    else .ok { scan with colons := scan.colons + 1 }
  else if b == 0x5B then
    if scan.escaped || scan.opened then .error .invalidAuthority
    else .ok { scan with opened := true }
  else if b == 0x5D then
    if !scan.opened || scan.closed then .error .invalidAuthority
    else .ok { scan with closed := true, colons := 0, escaped := false }
  else if b == 0x40 then .ok { scan with colons := 0, escaped := false }
  else if b == 0x25 then .ok { scan with escaped := true }
  else if isAuthorityByte b then .ok scan
  else .error .invalidCharacter

/-- The bytes after the authority at the front. -/
def afterAuthority (s : Bytes) : Except TargetFault Bytes := do
  let authority := s.takeWhile fun b => b != 0x2F && b != 0x3F && b != 0x23
  let scan ← authority.foldlM AuthorityScan.push {}
  if scan.opened != scan.closed || 1 < scan.colons || scan.last == some 0x40 || scan.escaped then
    throw .invalidAuthority
  return s.drop authority.length

/-! ## Whole targets -/

/-- A byte that may stand in a scheme. -/
def isSchemeByte (b : UInt8) : Bool :=
  Ascii.isDigit b || (0x41 ≤ b && b ≤ 0x5A) || (0x61 ≤ b && b ≤ 0x7A) || b == 0x2B || b == 0x2D ||
    b == 0x2E || b == 0x7E

/-- The length of a scheme, and the bytes after it and its two slashes. A colon and two slashes
alone are no scheme. -/
def splitScheme? (s : Bytes) : Option (Nat × Bytes) :=
  match s.dropWhile isSchemeByte with
  | 0x3A :: 0x2F :: 0x2F :: rest =>
    if s.length ≤ 3 then none else some ((s.takeWhile isSchemeByte).length, rest)
  | _ => none

/-- A target that does not begin with a slash: a URI with a scheme, or an authority. Nothing at all
after the scheme counts as an empty text. -/
def ofAbsolute (s : Bytes) : Except TargetFault Target :=
  match splitScheme? s with
  | none => do
    let rest ← afterAuthority s
    if rest.isEmpty then return .authority else throw .invalidFormat
  | some (length, rest) => do
    if 64 < length then throw .schemeTooLong
    if rest.isEmpty then throw .empty
    let pathAndQuery ← afterAuthority rest
    if pathAndQuery.length = rest.length then throw .invalidFormat
    ofPathAndQuery pathAndQuery

/-- The target that a text stands for. -/
def parse (text : String) : Except TargetFault Target :=
  match Utf8.encode text with
  | [] => .error .empty
  | [0x2A] => .ok .asterisk
  | 0x2F :: rest =>
    if 65534 ≤ rest.length then .error .tooLong else ofPathAndQuery (0x2F :: rest)
  | [b] => do
    let rest ← afterAuthority [b]
    if rest.isEmpty then return .authority else throw .invalidCharacter
  | s => if 65534 < s.length then .error .tooLong else ofAbsolute s

end Target

end Petstore
