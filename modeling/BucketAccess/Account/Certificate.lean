import BucketAccess.Encoding.Der

/-!
# Certificates

An X.509 certificate as far as it says whom to trust: a subject and its public key, and conditions
on their use. Version 3 is read, and version 1 where it is left unsaid, as it must be; version 1
knows no conditions. What a certificate says of its issuer, of its time and of its signature is not
looked at, since nothing vouches for a certificate that is trusted outright.
-/

namespace BucketAccess

open Der

/-- A condition on the use of a certificate. -/
structure Extension where
  id : Bytes
  /-- Whether a reader that does not know the extension must refuse the certificate. -/
  critical : Bool
  value : Bytes
  deriving DecidableEq, Repr

structure Certificate where
  subject : Bytes
  publicKey : Bytes
  extensions : List Extension
  deriving DecidableEq, Repr

namespace Extension

/-- An extension is not critical unless it says so. -/
def ofParts? : List Element → Option Extension
  | [⟨.identifier, id⟩, ⟨.octetString, value⟩] => some ⟨id, false, value⟩
  | [⟨.identifier, id⟩, ⟨.boolean, [critical]⟩, ⟨.octetString, value⟩] =>
    if critical = 0x00 ∨ critical = 0xFF then some ⟨id, critical = 0xFF, value⟩ else none
  | _ => none

def ofElement? : Element → Option Extension
  | ⟨.sequence, content⟩ => (elements? content).bind ofParts?
  | _ => none

def list? (bs : Bytes) : Option (List Extension) := do
  (← elements? (← sequence? bs)).mapM ofElement?

/-- The last number of the identifier of an extension that is known: use of the key, other names of
the subject, basic constraints, constraints on names, places of revocation lists, and extended use
of the key. -/
def known? (e : Extension) : Option UInt8 :=
  match e.id with
  | [0x55, 0x1D, n] => if [15, 17, 19, 30, 31, 37].contains n then some n else none
  | _ => none

/-- Names the subject's key, so that its certificate is found among others. -/
def isKeyName (e : Extension) : Bool := e.id = [0x55, 0x1D, 14]

/-- The name of a key sets no condition and is passed over even if it is critical. The use of a key
is read when the key is used; the other known values are sequences. -/
def isAcceptable (e : Extension) : Bool :=
  match e.known? with
  | none => !e.critical || e.isKeyName
  | some 15 => true
  | some _ => (sequence? e.value).isSome

end Extension

namespace Certificate

/-- The parts of a certificate before its signature. In version 3 they repeat the algorithm of the
signature. -/
def ofParts? (algorithm : Bytes) : List Element → Option Certificate
  | ⟨.part 0, [0x02, 0x01, 0x02]⟩ :: ⟨.integer, _⟩ :: ⟨.sequence, repeated⟩ :: ⟨.sequence, _⟩
      :: ⟨.sequence, _⟩ :: ⟨.sequence, subject⟩ :: ⟨.sequence, publicKey⟩ :: r =>
    if repeated = algorithm then
      match r with
      | [] => some ⟨subject, publicKey, []⟩
      | [⟨.part 3, extensions⟩] => (Extension.list? extensions).map (⟨subject, publicKey, ·⟩)
      | _ => none
    else none
  | [⟨.integer, _⟩, ⟨.sequence, _⟩, ⟨.sequence, _⟩, ⟨.sequence, _⟩, ⟨.sequence, subject⟩,
      ⟨.sequence, publicKey⟩] => some ⟨subject, publicKey, []⟩
  | _ => none

/-- A signature is a whole number of bytes. -/
def ofDer? (bs : Bytes) : Option Certificate := do
  match ← elements? (← sequence? bs) with
  | [⟨.sequence, parts⟩, ⟨.sequence, algorithm⟩, ⟨.bitString, 0 :: _⟩] =>
    ofParts? algorithm (← elements? parts)
  | _ => none

/-- Whether a server may be trusted on it: each extension is acceptable, and none that is known
occurs twice. -/
def isAcceptable (c : Certificate) : Bool :=
  c.extensions.all Extension.isAcceptable && decide (c.extensions.filterMap Extension.known?).Nodup

end Certificate

end BucketAccess
