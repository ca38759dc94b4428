import BucketAccess.Account.Certificate
import BucketAccess.Encoding.Base64

/-!
# Trust in a server

A client either takes any certificate or only those that a given bundle vouches for. A bundle is a
text with PEM blocks; what stands outside them does not count, so a bundle may hold no certificate
at all. It is refused when the first line of a block is malformed, when a block has no end, when a
block of a known kind is not in base64, and when a certificate cannot be read or is not acceptable.
-/

namespace BucketAccess

inductive Trust where
  | anyone
  | only (bundle : Bytes)
  deriving DecidableEq, Repr

namespace Trust

/-- An empty bundle is as good as none. -/
def ofBundle : Option Bytes → Trust
  | none | some [] => .anyone
  | some bundle => .only bundle

/-! ## Bundles -/

/-- A block whose end has not been seen: its kind, and its lines, the last first. -/
structure Block where
  kind : List Char
  lines : List (List Char)

def opening : List Char := "-----BEGIN ".toList

def certificate : List Char := "CERTIFICATE".toList

/-- The kinds of block, besides certificates, whose content is read. -/
def otherKinds : List (List Char) :=
  ["PUBLIC KEY", "PRIVATE KEY", "RSA PRIVATE KEY", "EC PRIVATE KEY", "X509 CRL",
    "CERTIFICATE REQUEST", "ECHCONFIG"].map String.toList

/-- White space inside a line. -/
def isFiller (c : Char) : Bool := c = ' ' || c = '\t' || c = '\x0b' || c = '\x0c'

/-- The kind of block that a line opens; the line must end with five dashes. -/
def kind? (line : List Char) : Option (List Char) :=
  let tail := line.reverse.takeWhile fun c => c = '-' || c = ' '
  let dashes := (tail.reverse.dropWhile (· ≠ '-')).length
  if tail.count '-' = 5 then some ((line.take (line.length - dashes)).drop opening.length)
  else none

def Block.closing (b : Block) : List Char := "-----END ".toList ++ b.kind ++ "-----".toList

def Block.isSound (b : Block) : Bool :=
  let content := Base64.decode? (b.lines.reverse.flatten.filter fun c => !isFiller c)
  if b.kind = certificate then (content.bind Certificate.ofDer?).any Certificate.isAcceptable
  else !otherKinds.contains b.kind || content.isSome

/-- Reads lines, inside the block that is open. A block that is opened inside another takes over
what the other holds. -/
def acceptsLines : Option Block → List (List Char) → Bool
  | none, [] => true
  | some _, [] => false
  | block, line :: r =>
    if opening.isPrefixOf line then
      match kind? line with
      | some kind => acceptsLines (some ⟨kind, block.elim [] Block.lines⟩) r
      | none => false
    else
      match block with
      | none => acceptsLines none r
      | some b =>
        if b.closing.isPrefixOf line then b.isSound && acceptsLines none r
        else acceptsLines (some { b with lines := line :: b.lines }) r

/-- A line ends at a line feed and at a carriage return. -/
def lines (bundle : Bytes) : List (List Char) :=
  (bundle.map fun b => Char.ofNat b.toNat).splitOnP fun c => c = '\n' || c = '\r'

/-- Whether a client can be built on this trust. -/
def isUsable : Trust → Bool
  | .anyone => true
  | .only bundle => acceptsLines none (lines bundle)

end Trust

end BucketAccess
