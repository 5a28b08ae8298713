/-
  DidLedger/Url/Host.lean
  =======================
  **Hosts of URLs.**

  The host of a web address is a domain or an address.  In brackets stands an
  IPv6 address: eight groups of hexadecimal digits, of which a run of zeros may
  be written as two colons and the last two as a dotted quad.  Outside brackets
  a name whose last label is a number has to be an IPv4 address, whose parts may
  be decimal, octal or hexadecimal and may be fewer than four.  Every other name
  is a domain.

  A name is brought into ASCII before anything is asked of it.  For a name that is
  in ASCII already this is a matter of lower case, unless a label of it says that
  it is coded.  How other names are coded takes tables of all characters, so it is
  left to a function (`Idna`).
-/
import DidLedger.Text.Percent
import DidLedger.Text.Split

namespace DidLedger.Url

open DidLedger.Text

/-- Why a text is no URL. -/
inductive Fault where
  /-- It has no scheme, and there is nothing it could be relative to. -/
  | relative
  | emptyHost
  /-- The port is no number of 16 bits. -/
  | invalidPort
  /-- The host ends in a number but is no IPv4 address. -/
  | invalidIpv4
  /-- The host in brackets is no IPv6 address. -/
  | invalidIpv6
  /-- The domain holds what no domain may hold. -/
  | invalidDomain
  /-- The host of a scheme of its own holds what no host may hold. -/
  | invalidCharacter
deriving DecidableEq, Repr

def Fault.message : Fault → String
  | .relative => "relative URL without a base"
  | .emptyHost => "empty host"
  | .invalidPort => "invalid port number"
  | .invalidIpv4 => "invalid IPv4 address"
  | .invalidIpv6 => "invalid IPv6 address"
  | .invalidDomain => "invalid international domain name"
  | .invalidCharacter => "invalid domain character"

inductive Host where
  | domain (name : String)
  /-- The address as a number of 32 bits. -/
  | ipv4 (address : Nat)
  | ipv6 (groups : List Nat)
deriving DecidableEq, Repr

/-! ### Numbers of a base -/

/-- The value of digits below `base`, none if some character is no such digit. -/
def number? (base : Nat) (cs : List Char) : Option Nat :=
  cs.foldlM (fun n c => do
    let d ← Hex.digit? c
    if d < base then return n * base + d else none) 0

/-! ### IPv4 -/

/-- A part of an IPv4 address: octal after `0`, hexadecimal after `0x`, and
    nothing after these marks is zero. -/
def ipv4Part? : List Char → Option Nat
  | [] => none
  | '0' :: 'x' :: digits => number? 16 digits
  | '0' :: 'X' :: digits => number? 16 digits
  | '0' :: c :: digits => number? 8 (c :: digits)
  | digits => number? 10 digits

/-- The labels of a name, without the empty one after a final dot. -/
def labels (name : List Char) : List (List Char) :=
  let parts := Split.atEvery (· == '.') name
  if parts.length > 1 ∧ parts.getLast? = some [] then parts.dropLast else parts

/-- Whether a name has to be an IPv4 address. -/
def endsInNumber (name : List Char) : Bool :=
  match (labels name).getLast? with
  | some last => !last.isEmpty && (last.all Char.isDigit || (ipv4Part? last).isSome)
  | none => false

/-- Puts the parts of an address together: all but the last are octets, and the
    last one fills the octets that are left. -/
def ofIpv4Parts? (parts : List Nat) : Option Nat :=
  match parts.reverse with
  | [] => none
  | last :: front =>
    if front.length ≤ 3 ∧ front.all (· < 256) ∧ last < Nat.pow 256 (4 - front.length) then
      some (front.reverse.foldl (fun n part => n * 256 + part) 0 *
        Nat.pow 256 (4 - front.length) + last)
    else none

def ipv4? (name : List Char) : Option Nat := do
  let parts ← (labels name).mapM ipv4Part?
  ofIpv4Parts? parts

/-! ### IPv6 -/

/-- A group of one to four hexadecimal digits. -/
def group? (cs : List Char) : Option Nat :=
  if cs.isEmpty || 4 < cs.length then none else number? 16 cs

/-- An octet in decimal without leading zeros. -/
def octet? (cs : List Char) : Option Nat :=
  if cs.isEmpty || 3 < cs.length || (1 < cs.length && cs.head? == some '0') then none
  else (number? 10 cs).filter (· < 256)

/-- The two groups of a dotted quad. -/
def quad? (cs : List Char) : Option (List Nat) :=
  match (Split.atEvery (· == '.') cs).mapM octet? with
  | some [a, b, c, d] => some [a * 256 + b, c * 256 + d]
  | _ => none

/-- The groups of parts between colons; the last part may be a dotted quad if
    `quadAllowed`. -/
def groups? (quadAllowed : Bool) : List (List Char) → Option (List Nat)
  | [] => some []
  | [part] =>
    match group? part with
    | some g => some [g]
    | none => if quadAllowed then quad? part else none
  | part :: parts => do
    let g ← group? part
    let gs ← groups? quadAllowed parts
    return g :: gs

/-- The parts of one side of two colons. -/
def side (cs : List Char) : List (List Char) :=
  if cs.isEmpty then [] else Split.atEvery (· == ':') cs

/-- Cuts a text at the first two colons in a row. -/
def atDoubleColon? : List Char → Option (List Char × List Char)
  | ':' :: ':' :: rest => some ([], rest)
  | c :: rest => (atDoubleColon? rest).map fun (before, after) => (c :: before, after)
  | [] => none

def ipv6? (cs : List Char) : Option (List Nat) :=
  match atDoubleColon? cs with
  | none => (groups? true (Split.atEvery (· == ':') cs)).filter (·.length = 8)
  | some (before, after) => do
    let front ← groups? false (side before)
    let back ← groups? true (side after)
    if front.length + back.length ≤ 7 then
      return front ++ List.replicate (8 - front.length - back.length) 0 ++ back
    else none

def bracketed (cs : List Char) : Except Fault Host :=
  match cs.reverse with
  | ']' :: inside =>
    match ipv6? inside.reverse with
    | some groups => .ok (.ipv6 groups)
    | none => .error .invalidIpv6
  | _ => .error .invalidIpv6

/-! ### Names -/

/-- The ASCII form of an international name, if it has one. -/
abbrev Idna := String → Option String

/-- What the ASCII form of an international label begins with. -/
def codedMark : List Char := "xn--".toList

/-- Whether a name in lower case is its own ASCII form. -/
def isPlainName (name : List Char) : Bool :=
  name.all (fun c => decide (c.toNat < 0x80)) &&
    (Split.atEvery (· == '.') name).all fun label => !codedMark.isPrefixOf label

/-- The ASCII form of a name, if it has one. -/
def toAscii? (idna : Idna) (name : List Char) : Option (List Char) :=
  let lower := name.map Char.toLower
  if isPlainName lower then some lower else (idna (String.ofList name)).map String.toList

/-- The characters that no host may hold. -/
def isForbidden (c : Char) : Bool :=
  "\x00\t\n\r #/:<>?@[\\]^|".toList.contains c

/-- The characters that no domain may hold. -/
def isForbiddenInDomain (c : Char) : Bool :=
  isForbidden c || c.toNat ≤ 0x1F || c == '%' || c == '\x7f'

/-- The host of a name in ASCII. -/
def Host.ofAscii (name : List Char) : Except Fault Host :=
  if name.any isForbiddenInDomain then .error .invalidDomain
  else if name.isEmpty then .error .emptyHost
  else if endsInNumber name then
    match ipv4? name with
    | some address => .ok (.ipv4 address)
    | none => .error .invalidIpv4
  else .ok (.domain (String.ofList name))

def Host.parse (idna : Idna) : List Char → Except Fault Host
  | '[' :: cs => bracketed cs
  | cs =>
    match Utf8.decode? (Percent.decodeChars cs) with
    | .error _ => .error .invalidDomain
    | .ok text =>
      match toAscii? idna text.toList with
      | none => .error .invalidDomain
      | some name => Host.ofAscii name

/-- Reads the host of a scheme of its own. -/
def Host.parseOther : List Char → Except Fault Host
  | '[' :: cs => bracketed cs
  | cs => if cs.any isForbidden then .error .invalidCharacter else .ok (.domain (String.ofList cs))

end DidLedger.Url
