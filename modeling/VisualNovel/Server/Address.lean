import VisualNovel.Text.Encoding
import VisualNovel.Text.HexDigit
/-!
Addresses of requests.  Whatever an address says about the way to the server does not matter; its
path is straightened, and then the bytes in it are decoded.
-/

namespace VisualNovel.Address

/-- How long an address may be. -/
def lengthLimit : Nat := 65536

/-- Whether a character may not stand in an address at all. -/
def isForbidden (c : Char) : Bool := c.toNat < 32 || c.toNat = 127

/-- Whether a character can stand in the scheme of an address after its first. -/
def isSchemeChar (c : Char) : Bool := c.isAlphanum || c == '+' || c == '.' || c == '-'

/-- An address without its scheme, and whether there was one. -/
def dropScheme (text : List Char) : Bool × List Char :=
  let scheme := match text with
    | c :: rest => if c.isAlpha then c :: rest.takeWhile isSchemeChar else []
    | [] => []
  match text.drop scheme.length with
  | ':' :: rest => (!scheme.isEmpty, rest)
  | _ => (false, text)

/-- Whether the text before a path names a server; nothing when what follows a colon is no number. -/
def namesServer? (authority : List Char) : Option Bool := do
  let afterUser := match authority.dropWhile (· ≠ '@') with
    | _ :: rest => rest
    | [] => authority
  let host := afterUser.takeWhile (· ≠ ':')
  let number := afterUser.drop (host.length + 1)
  if number.all Char.isDigit then return !authority.isEmpty else none

/-- The path of an address, from its first slash on. -/
def path? (text : List Char) : Option (List Char) := do
  guard (!text.any isForbidden && text.length ≤ lengthLimit)
  let (hasScheme, rest) := dropScheme text
  let (hasServer, rest) ← match rest with
    | '/' :: '/' :: rest => do
      let authority := rest.takeWhile fun c => c ≠ '/' && c ≠ '?' && c ≠ '#'
      pure (← namesServer? authority, rest.drop authority.length)
    | rest => pure (false, rest)
  let path := rest.takeWhile fun c => c ≠ '?' && c ≠ '#'
  guard (hasScheme || hasServer || !(['/', '/'].isPrefixOf path || [':'].isPrefixOf path))
  return if hasScheme && hasServer then path else '/' :: path.dropWhile (· == '/')

/-- The names of a path without those that lead nowhere, and those that lead back. -/
def straighten (names : List (List Char)) : List (List Char) :=
  let step (done : List (List Char)) (name : List Char) : List (List Char) :=
    if name = ['.'] then done
    else if name = ['.', '.'] then
      match done with
      | [[]] => done
      | done => done.drop 1
    else name :: done
  (names.foldl step []).reverse

/-- The bytes of a path, in which a percent sign and two digits stand for one. -/
def bytes : List Char → List UInt8
  | '%' :: a :: b :: rest =>
    match Text.hexValue? a, Text.hexValue? b with
    | some high, some low => (16 * high + low).toUInt8 :: bytes rest
    | _, _ => '%'.toNat.toUInt8 :: bytes (a :: b :: rest)
  | c :: rest => Text.bytesOf c.toString ++ bytes rest
  | [] => []

/-- The names in the path of an address after its first slash, decoded. -/
def names? (address : String) : Option (List String) := do
  let names := straighten ((← path? address.toList).splitOn '/')
  let decoded := Text.decodeLoosely (bytes (names.intersperse ['/']).flatten)
  match decoded.splitOn '/' with
  | [] :: rest => return rest.map String.ofList
  | _ => return []

end VisualNovel.Address
