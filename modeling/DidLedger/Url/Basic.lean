/-
  DidLedger/Url/Basic.lean
  ========================
  **URLs, as the living standard reads them.**

  White space and controls around the text and line breaks inside it do not
  count.  A scheme is required, since there is nothing a URL could be relative
  to.  The schemes of the web have a host; `file` and schemes of their own may
  do without.  In front of a host a user may be named, with a password behind a
  colon.  The fragment is dropped: it is never sent.
-/
import DidLedger.Url.Host
import DidLedger.Url.Path

namespace DidLedger

open DidLedger.Text DidLedger.Url

/-- The user that an address names, with escapes; the name is empty if there is
    none. -/
structure Url.User where
  name : String
  password : Option String
deriving DecidableEq, Repr

structure Url where
  scheme : String
  host : Option Host
  /-- The port, if it is not the one of the scheme. -/
  port : Option Nat
  path : String
  /-- The query as it is sent, if there is one. -/
  query : Option String
  user : Url.User
deriving DecidableEq, Repr

namespace Url

/-! ### Schemes -/

/-- How the part after a scheme is read. -/
inductive SchemeClass where
  /-- A scheme of the web, with its port. -/
  | web (port : Nat)
  | file
  | other
deriving DecidableEq, Repr

def classOf (scheme : String) : SchemeClass :=
  match [("http", 80), ("https", 443), ("ws", 80), ("wss", 443), ("ftp", 21)].lookup scheme with
  | some port => .web port
  | none => if scheme = "file" then .file else .other

/-- The characters that may follow the first one of a scheme. -/
def isSchemeChar (c : Char) : Bool :=
  c.isAlphanum || c == '+' || c == '-' || c == '.'

def scheme? (cs : List Char) : Option (String × List Char) := do
  let (scheme, rest) ← Split.atFirst? (· == ':') cs
  let first ← scheme.head?
  if first.isAlpha && scheme.all isSchemeChar then
    return (String.ofList (scheme.map Char.toLower), rest)
  else none

/-! ### Users -/

/-- The user of an address that names none. -/
def User.nobody : User := ⟨"", none⟩

/-- The octets that are escaped in a name and in a password. -/
def isEscapedInUser (b : UInt8) : Bool :=
  isEscapedInPath b || "/:;=@[\\]^|".toList.contains (Char.ofNat b.toNat)

/-- A name or a password as an address holds it. -/
def userText (cs : List Char) : String :=
  String.ofList (escapeWith isEscapedInUser cs)

/-- Reads a user.  A colon with nothing behind it is no password. -/
def User.parse (cs : List Char) : User :=
  match Split.atFirst? (· == ':') cs with
  | none => ⟨userText cs, none⟩
  | some (name, password) =>
    ⟨userText name, if password.isEmpty then none else some (userText password)⟩

/-- The part of an authority after the last `@`, and whether there was one. -/
def afterUser (cs : List Char) : List Char × Bool :=
  ((cs.reverse.takeWhile (· ≠ '@')).reverse, cs.contains '@')

/-- The user in an authority: what stands before the last `@`. -/
def userIn (cs : List Char) : User :=
  .parse ((cs.reverse.dropWhile (· ≠ '@')).drop 1).reverse

/-! ### Authorities -/

/-- The text up to the first colon outside brackets, and what follows it. -/
def cutPort (inBrackets : Bool) : List Char → List Char × Option (List Char)
  | [] => ([], none)
  | c :: cs =>
    if c = ':' ∧ !inBrackets then ([], some cs)
    else
      let inside := if c = '[' then true else if c = ']' then false else inBrackets
      let (host, port) := cutPort inside cs
      (c :: host, port)

/-- Reads a port; no digits are no port. -/
def port? (cs : List Char) : Except Fault (Option Nat) :=
  if cs.isEmpty then .ok none
  else if cs.all Char.isDigit then
    let n := Nat.ofDigitChars 10 cs 0
    if n < UInt16.size then .ok (some n) else .error .invalidPort
  else .error .invalidPort

/-- Reads the authority of a web address. -/
def webAuthority (idna : Idna) (defaultPort : Nat) (cs : List Char) :
    Except Fault (Host × Option Nat) := do
  let (host, port) := cutPort false (afterUser cs).1
  if host.isEmpty then throw .emptyHost
  let host ← Host.parse idna host
  let port ← port? (port.getD [])
  return (host, port.filter (· != defaultPort))

/-- Reads the authority of a scheme of its own; `more` tells whether something
    follows it. -/
def otherAuthority (more : Bool) (cs : List Char) : Except Fault (Option Host × Option Nat) := do
  let (rest, hasUser) := afterUser cs
  let (host, port) := cutPort false rest
  if host.isEmpty && (port.isSome || (hasUser && (more || cs.length ≠ 1))) then throw .emptyHost
  let host ← if host.isEmpty then pure none else (Host.parseOther host).map some
  let port ← port? ((port.getD []).takeWhile (· ≠ '\\'))
  return (host, port)

/-! ### Whole URLs -/

/-- The text that counts: without controls and blanks around it, and without
    tabs and line breaks. -/
def clean (cs : List Char) : List Char :=
  let isEdge (c : Char) : Bool := decide (c.toNat ≤ 0x20)
  let trimmed := ((cs.dropWhile isEdge).reverse.dropWhile isEdge).reverse
  trimmed.filter fun c => c != '\t' && c != '\n' && c != '\r'

/-- The text before the first `mark`, and the text after it if there is one. -/
def cutAt (mark : Char) (cs : List Char) : List Char × Option (List Char) :=
  match Split.atFirst? (· == mark) cs with
  | some (before, rest) => (before, some rest)
  | none => (cs, none)

/-- A local file may have a host before its path, which a drive letter is not. -/
def fileHost (idna : Idna) (cs : List Char) : Except Fault (Option Host) :=
  let isDrive := match cs with
    | [letter, mark] => letter.isAlpha && (mark == ':' || mark == '|')
    | _ => false
  if cs.isEmpty || isDrive then .ok none else (Host.parse idna cs).map some

/-- Reads what follows a scheme, up to the query. -/
def ofParts (idna : Idna) (scheme : String) (cs : List Char) (query : Option String) :
    Except Fault Url := do
  match classOf scheme with
  | .web port =>
    let rest := cs.dropWhile (isSlash true)
    let authority := rest.takeWhile fun c => !isSlash true c
    let path := rest.dropWhile fun c => !isSlash true c
    let (host, port) ← webAuthority idna port authority
    return ⟨scheme, some host, port, String.ofList (normalizePath true path), query,
      userIn authority⟩
  | .file =>
    match cs with
    | a :: b :: rest =>
      if isSlash true a && isSlash true b then
        let authority := rest.takeWhile fun c => !isSlash true c
        let path := rest.dropWhile fun c => !isSlash true c
        let host ← fileHost idna authority
        return ⟨scheme, host, none, String.ofList (normalizePath true path), query, .nobody⟩
      else return ⟨scheme, none, none, String.ofList (normalizePath true cs), query, .nobody⟩
    | _ => return ⟨scheme, none, none, String.ofList (normalizePath true cs), query, .nobody⟩
  | .other =>
    match cs with
    | '/' :: '/' :: rest =>
      let authority := rest.takeWhile (· ≠ '/')
      let path := rest.dropWhile (· ≠ '/')
      let (host, port) ← otherAuthority (!path.isEmpty || query.isSome) authority
      return ⟨scheme, host, port, String.ofList (normalizePath false path), query,
        userIn authority⟩
    | '/' :: rest =>
      return ⟨scheme, none, none, String.ofList (normalizePath false ('/' :: rest)), query,
        .nobody⟩
    | _ => return ⟨scheme, none, none, String.ofList cs, query, .nobody⟩

def parse (idna : Idna) (s : String) : Except Fault Url := do
  match scheme? (clean s.toList) with
  | none => throw .relative
  | some (scheme, rest) =>
    let (rest, _) := cutAt '#' rest
    let (rest, query) := cutAt '?' rest
    ofParts idna scheme rest (query.map fun q => String.ofList (normalizeQuery q))

/-- What a request line names: the path, and the query if there is one. -/
def target (u : Url) : String :=
  match u.query with
  | some query => u.path ++ "?" ++ query
  | none => u.path

end Url
end DidLedger
