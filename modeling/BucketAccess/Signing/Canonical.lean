import BucketAccess.Digest.Hmac
import BucketAccess.Encoding.Percent
import BucketAccess.SortedMap
import BucketAccess.Text.Blank
import BucketAccess.Text.LowerCase
import BucketAccess.Text.Order

/-!
# Canonical texts

Requests are signed through texts in which everything that a server may vary has one form. A path is
decoded and escaped again piece by piece; the parameters of a query are sorted; headers have
lower-case names, one line each, and single spaces. The sorted query is the other way round: it
writes a map of parameters.
-/

namespace BucketAccess.Signing

/-- Texts with `separator` between them. -/
def joinWith (separator : Char) (pieces : List (List Char)) : List Char :=
  [separator].intercalate pieces

/-! ## Parameters as a query -/

def escapeForm (s : List Char) : List Char := Percent.encodeForm (Utf8.encode s)

def queryPair (key value : String) : List Char :=
  escapeForm key.toList ++ '=' :: escapeForm value.toList

def sortedQuery (params : SortedMap String) : List Char :=
  joinWith '&' (params.entries.map fun e => queryPair e.1 e.2)

/-- The text that a query signature covers. -/
def queryText (method host path query : List Char) : List Char :=
  method ++ '\n' :: host ++ '\n' :: path ++ '\n' :: query

/-! ## A request in its one form -/

def canonicalSegment (segment : List Char) : List Char :=
  Percent.encode (Utf8.encode (Utf8.lossyChars (Percent.decode segment)))

def canonicalPath (path : List Char) : List Char :=
  if path = [] then ['/'] else joinWith '/' ((path.splitOn '/').map canonicalSegment)

/-- A parameter's key and value, split at the first `=`. -/
def splitParam (param : List Char) : List Char × List Char :=
  (param.takeWhile (· != '='), (param.dropWhile (· != '=')).drop 1)

def paramLE (a b : List Char × List Char) : Bool :=
  if a.1 = b.1 then Text.lexLE a.2 b.2 else Text.lexLE a.1 b.1

/-- The parameters of a query, sorted by key and then by value; empty ones do not count. -/
def sortedParams (query : List Char) : List (List Char × List Char) :=
  (((query.splitOn '&').filter (· ≠ [])).map splitParam).mergeSort paramLE

def canonicalQuery (query : List Char) : List Char :=
  joinWith '&' ((sortedParams query).map fun p => p.1 ++ '=' :: p.2)

abbrev Header := List Char × List Char

/-- What the headers of a name say together, if there are any. -/
def headerValue? (headers : List Header) (name : List Char) : Option (List Char) :=
  match headers.filter (Text.lowerCase ·.1 = name) with
  | [] => none
  | found => some (joinWith ',' (found.map fun h => Text.collapse (Text.trim h.2)))

def sortedNames (names : List (List Char)) : List (List Char) := names.mergeSort Text.lexLE

/-- A line for each name that some header has. -/
def headerLines (headers : List Header) (names : List (List Char)) : List (List Char) :=
  (sortedNames names).filterMap fun name =>
    (headerValue? headers name).map fun value => name ++ ':' :: value

def headerBlock (headers : List Header) (names : List (List Char)) : List Char :=
  joinWith '\n' (headerLines headers names)

def nameList (names : List (List Char)) : List Char := joinWith ';' (sortedNames names)

def canonicalRequest (method path query : List Char) (headers : List Header)
    (names : List (List Char)) (payloadHash : List Char) : List Char :=
  method ++ '\n' :: canonicalPath path ++ '\n' :: canonicalQuery query ++
    '\n' :: headerBlock headers names ++ '\n' :: '\n' :: nameList names ++ '\n' :: payloadHash

end BucketAccess.Signing
