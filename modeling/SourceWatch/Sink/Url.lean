import SourceWatch.Text.Percent
import SourceWatch.Text.Quoted
import SourceWatch.Text.Search

/-!
# Addresses of a service

A request address joins the base address of a service with a path below it. Characters that may not
stand in a path are encoded, dot segments are resolved, an end of the host that the scheme implies is
left out, and whatever follows a number sign is dropped.

Main definitions:

* `BaseUrl`, `BaseUrl.parse`: base addresses.
* `Url.join`: the address of a path below a base address, or what spoils it.
-/

namespace SourceWatch

open Text

/-- The address of a service: everything up to its host in `origin`, and a path without the slash that
ends it. -/
structure BaseUrl where
  origin : String
  path : List Char
  deriving DecidableEq

namespace BaseUrl

/-- The end of a host that a scheme implies. -/
def impliedEnd : List (String × String) :=
  [("http", ":80"), ("https", ":443"), ("ws", ":80"), ("wss", ":443"), ("ftp", ":21")]

/-- A host in lower case, without a colon that nothing follows and without an end that the scheme
implies. The name of a user before it keeps its case. -/
def normalHost (scheme : String) (host : List Char) : String :=
  let bare := (host.reverse.takeWhile (· ≠ '@')).reverse
  let user := host.take (host.length - bare.length)
  let lowered := bare.map Char.toLower
  let ends := ":" :: (impliedEnd.lookup scheme).toList
  let shortened := match ends.find? fun e => e.toList.isSuffixOf lowered with
    | some e => lowered.take (lowered.length - e.length)
    | none => lowered
  String.ofList (user ++ shortened)

/-- A path without the slash at its end. -/
def dropSlash (path : List Char) : List Char :=
  if path.getLast? = some '/' then path.dropLast else path

/-- What stands before the first colon that two slashes follow, and what stands behind these. -/
def splitScheme? : List Char → Option (List Char × List Char)
  | [] => none
  | ':' :: '/' :: '/' :: behind => some ([], behind)
  | c :: cs => (splitScheme? cs).map fun (scheme, behind) => (c :: scheme, behind)

/-- The base address that a text writes. -/
def parse (s : String) : BaseUrl :=
  match splitScheme? s.toList with
  | some (scheme, behind) =>
    let host := behind.takeWhile fun c => !(c = '/' || c = '?' || c = '#')
    let path := (behind.dropWhile fun c => !(c = '/' || c = '?' || c = '#')).takeWhile
      fun c => !(c = '?' || c = '#')
    let scheme := String.ofList (scheme.map Char.toLower)
    ⟨scheme ++ "://" ++ normalHost scheme host, dropSlash path⟩
  | none => ⟨"", dropSlash s.toList⟩

end BaseUrl

namespace Url

/-- Whether a character stands for itself in a query. -/
def keepsInQuery (c : Char) : Bool :=
  0x20 < c.toNat && c.toNat < 0x7F && !(c = '"' || c = '#' || c = '<' || c = '>')

/-- Whether a character stands for itself in a path. -/
def keepsInPath (c : Char) : Bool :=
  keepsInQuery c && !(c = '?' || c = '\x60' || c = '\x7b' || c = '\x7d')

/-- The segments of a path with dot segments resolved; `done` holds the earlier ones, last first. -/
def resolveDots : List (List Char) → (done : List (List Char)) → List (List Char)
  | [], done => done.reverse
  | segment :: rest, done =>
    if segment = ['.'] then resolveDots rest done
    else if segment = ['.', '.'] then
      resolveDots rest (if done = [] ∨ done = [[]] then done else done.tail)
    else resolveDots rest (segment :: done)

/-- A path with dot segments resolved. -/
def normalPath (path : List Char) : List Char :=
  ['/'].intercalate (resolveDots (splitOn '/' path) [])

/-- Whether a character may not stand in an address at all. -/
def isControl (c : Char) : Bool :=
  c.toNat < 32 || c.toNat = 127

/-- The first control character of a text and its place. -/
def firstControl? (cs : List Char) : Option (Char × Nat) :=
  (cs.zipIdx.find? fun entry => isControl entry.1)

/-- The longest text that is taken for an address. -/
def longest : Nat := 65536

/-- Why a text is no address. -/
inductive Fault where
  | tooLong
  | control (c : Char) (position : Nat)
  | partTooLong (part : String)
  deriving DecidableEq

/-- The wording of a fault. -/
def Fault.message : Fault → String
  | tooLong => "URL too long"
  | control c position =>
    s!"Invalid non-printable ASCII character in URL, {quote (String.singleton c)} at position " ++
      s!"{position}."
  | partTooLong part => s!"URL component '{part}' too long"

/-- The path of a reference: what stands before its question mark or number sign. -/
def pathOf (reference : List Char) : List Char :=
  reference.takeWhile fun c => !(c = '?' || c = '#')

/-- The query of a reference, from its question mark up to a number sign. -/
def queryOf (reference : List Char) : List Char :=
  (reference.dropWhile fun c => !(c = '?' || c = '#')).takeWhile (· ≠ '#')

/-- A path below the path of a base address. -/
def below (base : BaseUrl) (path : List Char) : List Char :=
  base.path ++ '/' :: path.dropWhile (· = '/')

/-- The address of `reference`, a path that begins with a slash, below a base address. The limit of length
holds for the reference and, once they are encoded, for the whole path and for the query. -/
def join (base : BaseUrl) (reference : String) : Except Fault String :=
  let cs := reference.toList
  if longest < cs.length then .error .tooLong
  else match firstControl? cs with
    | some (c, position) => .error (.control c position)
    | none =>
      let path := below base (pathOf cs)
      let query := percentEncode keepsInQuery ((queryOf cs).drop 1)
      if longest < (percentEncode keepsInPath path).length then .error (.partTooLong "path")
      else if longest < query.length then .error (.partTooLong "query")
      else
        .ok (base.origin ++ String.ofList (percentEncode keepsInPath (normalPath path)) ++
          String.ofList ((queryOf cs).take 1 ++ query))

end Url

end SourceWatch
