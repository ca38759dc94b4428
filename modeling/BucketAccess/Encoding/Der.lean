import BucketAccess.Text.Utf8

/-!
# DER

A value as a tag, a length and a content, where the content of a composite value is the values that
it consists of, one after the other. Only short tags are read, and only contents of less than 65535
bytes.
-/

namespace BucketAccess.Der

inductive Tag where
  | boolean
  | integer
  | bitString
  | octetString
  | identifier
  | sequence
  /-- A part of a composite value that is known by its number. -/
  | part (number : Nat)
  | other (code : UInt8)
  deriving DecidableEq, Repr

/-- A code that ends in five ones begins a tag of several bytes. -/
def Tag.ofCode? (code : UInt8) : Option Tag :=
  if code % 32 = 31 then none
  else if code = 0x01 then some .boolean
  else if code = 0x02 then some .integer
  else if code = 0x03 then some .bitString
  else if code = 0x04 then some .octetString
  else if code = 0x06 then some .identifier
  else if code = 0x30 then some .sequence
  else if 0xA0 ≤ code ∧ code < 0xC0 then some (.part (code.toNat - 0xA0))
  else some (.other code)

structure Element where
  tag : Tag
  content : Bytes
  deriving DecidableEq, Repr

/-- The length that the bytes begin with, written in as few bytes as it takes, and what follows. -/
def length? : Bytes → Option (Nat × Bytes)
  | 0x81 :: n :: r => if 0x80 ≤ n then some (n.toNat, r) else none
  | 0x82 :: high :: low :: r =>
    let n := high.toNat * 256 + low.toNat
    if 0x100 ≤ n ∧ n < 0xFFFF then some (n, r) else none
  | n :: r => if n < 0x80 then some (n.toNat, r) else none
  | [] => none

/-- The element whose length and content the bytes begin with, and what follows. -/
def Element.read? (tag : Tag) (bs : Bytes) : Option (Element × Bytes) :=
  match length? bs with
  | none => none
  | some (length, r) =>
    let content := r.take length
    if content.length = length then some (⟨tag, content⟩, r.drop length) else none

theorem length_le_of_length? {bs : Bytes} {n : Nat} {r : Bytes} (h : length? bs = some (n, r)) :
    r.length ≤ bs.length := by
  unfold length? at h
  split at h <;> grind

theorem Element.length_le_of_read? {tag : Tag} {bs r : Bytes} {e : Element}
    (h : read? tag bs = some (e, r)) : r.length ≤ bs.length := by
  unfold read? at h
  split at h
  · simp at h
  · rename_i hlength
    have := length_le_of_length? hlength
    grind

/-- The elements that the bytes consist of. -/
def elements? : Bytes → Option (List Element)
  | [] => some []
  | code :: bs =>
    match Tag.ofCode? code with
    | none => none
    | some tag =>
      match h : Element.read? tag bs with
      | none => none
      | some (e, r) =>
        have : r.length ≤ bs.length := Element.length_le_of_read? h
        (elements? r).map (e :: ·)
termination_by bs => bs.length
decreasing_by simp only [List.length_cons]; omega

/-- The content of the one sequence that the bytes are. -/
def sequence? (bs : Bytes) : Option Bytes :=
  match elements? bs with
  | some [⟨.sequence, content⟩] => some content
  | _ => none

end BucketAccess.Der
