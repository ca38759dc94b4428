import BucketAccess.Program
import BucketAccess.Time.Instant
import BucketAccess.Web.Url

/-!
# Exchanges with a server

A request and what may become of it. A request whose URL has another scheme than http or https, or
that has a control character in a header, is not sent at all.
-/

namespace BucketAccess.Web

structure Request where
  method : String
  url : String
  headers : List (String × String)
  body : Bytes
  deriving DecidableEq, Repr

inductive TransportError where
  | badHeader
  | badScheme (url : String)
  | noAnswer (url : String)
  | brokenBody (url : String)
  deriving DecidableEq, Repr

def TransportError.text : TransportError → String
  | .badHeader => "builder error"
  | .badScheme url => s!"builder error for url ({url})"
  | .noAnswer url => s!"error sending request for url ({url})"
  | .brokenBody url => s!"error decoding response body for url ({url})"

/-- The body is read only when it is asked for, and that may fail. -/
structure Response where
  status : Nat
  headers : List (String × Bytes)
  body : Except TransportError Bytes

/-- The clock, and the network. -/
inductive Call where
  | now
  | send (r : Request)

def Call.Reply : Call → Type
  | .now => Instant
  | .send _ => Except TransportError Response

abbrev http : Signature := ⟨Call, Call.Reply⟩

/-! ## Requests -/

/-- A character that a header can hold. -/
def isHeaderChar (c : Char) : Bool := c = '\t' || (0x20 ≤ c.toNat && c.toNat ≠ 0x7F)

/-- The URL that a request goes to, if it can be sent by the URL standard. The further limits of the
transport, on the length of a URL and on some characters of an authority, are left out. -/
def Request.target (r : Request) : Except TransportError Url :=
  if r.headers.any fun h => h.2.toList.any (!isHeaderChar ·) then .error .badHeader
  else
    match Url.parse r.url with
    | .error _ => .error .badHeader
    | .ok url =>
      if url.scheme = "http" ∨ url.scheme = "https" then .ok url else .error (.badScheme url.text)

/-! ## Responses -/

def Response.isSuccess (r : Response) : Bool := 200 ≤ r.status && r.status < 300

/-- The first header of this name, which is given in lower case, if it is all visible ASCII. -/
def Response.header? (r : Response) (name : String) : Option String :=
  match r.headers.find? fun h => h.1.map Char.toLower == name with
  | some (_, value) =>
    if value.all fun b => b = 0x09 || (0x20 ≤ b && b < 0x7F) then some (Utf8.lossy value) else none
  | none => none

/-- The phrases of the registered statuses. -/
def reasons : List (Nat × String) := [
  (100, "Continue"), (101, "Switching Protocols"), (102, "Processing"), (103, "Early Hints"),
  (200, "OK"), (201, "Created"), (202, "Accepted"), (203, "Non Authoritative Information"),
  (204, "No Content"), (205, "Reset Content"), (206, "Partial Content"), (207, "Multi-Status"),
  (208, "Already Reported"), (226, "IM Used"), (300, "Multiple Choices"),
  (301, "Moved Permanently"), (302, "Found"), (303, "See Other"), (304, "Not Modified"),
  (305, "Use Proxy"), (307, "Temporary Redirect"), (308, "Permanent Redirect"),
  (400, "Bad Request"), (401, "Unauthorized"), (402, "Payment Required"), (403, "Forbidden"),
  (404, "Not Found"), (405, "Method Not Allowed"), (406, "Not Acceptable"),
  (407, "Proxy Authentication Required"), (408, "Request Timeout"), (409, "Conflict"),
  (410, "Gone"), (411, "Length Required"), (412, "Precondition Failed"),
  (413, "Payload Too Large"), (414, "URI Too Long"), (415, "Unsupported Media Type"),
  (416, "Range Not Satisfiable"), (417, "Expectation Failed"), (418, "I'm a teapot"),
  (421, "Misdirected Request"), (422, "Unprocessable Entity"), (423, "Locked"),
  (424, "Failed Dependency"), (425, "Too Early"), (426, "Upgrade Required"),
  (428, "Precondition Required"), (429, "Too Many Requests"),
  (431, "Request Header Fields Too Large"), (451, "Unavailable For Legal Reasons"),
  (500, "Internal Server Error"), (501, "Not Implemented"), (502, "Bad Gateway"),
  (503, "Service Unavailable"), (504, "Gateway Timeout"), (505, "HTTP Version Not Supported"),
  (506, "Variant Also Negotiates"), (507, "Insufficient Storage"), (508, "Loop Detected"),
  (510, "Not Extended"), (511, "Network Authentication Required")]

def reason? (status : Nat) : Option String := reasons.lookup status

end BucketAccess.Web
