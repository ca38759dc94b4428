/-!
# UTF-8

Text as bytes and bytes as text. `pieces` cuts a byte string into characters and the stretches that
belong to none, each as long as it can be while it still begins a character. The lossy reading
writes U+FFFD for such a stretch; the strict reading refuses the first and says where it begins.
-/

namespace BucketAccess

abbrev Bytes := List UInt8

namespace Utf8

def encode (s : List Char) : Bytes := s.flatMap String.utf8EncodeChar

def bytes (s : String) : Bytes := encode s.toList

/-! ## Reading -/

/-- A character read in part: `seen` bytes so far, `left` after the next one, which lies between
`low` and `high`. -/
structure Pending where
  seen : Nat
  left : Nat
  low : UInt8
  high : UInt8
  value : Nat

inductive Piece where
  | char (c : Char)
  /-- Bytes that no byte can complete. -/
  | invalid (length : Nat)
  /-- The beginning of a character at the end of the bytes. -/
  | cut (length : Nat)

/-- What a byte begins. -/
def lead (b : UInt8) : Piece ⊕ Pending :=
  let n := b.toNat
  if n < 0x80 then .inl (.char (Char.ofNat n))
  else if n < 0xC2 then .inl (.invalid 1)
  else if n < 0xE0 then .inr ⟨1, 0, 0x80, 0xBF, n - 0xC0⟩
  else if n = 0xE0 then .inr ⟨1, 1, 0xA0, 0xBF, 0⟩
  else if n = 0xED then .inr ⟨1, 1, 0x80, 0x9F, 13⟩
  else if n < 0xF0 then .inr ⟨1, 1, 0x80, 0xBF, n - 0xE0⟩
  else if n = 0xF0 then .inr ⟨1, 2, 0x90, 0xBF, 0⟩
  else if n < 0xF4 then .inr ⟨1, 2, 0x80, 0xBF, n - 0xF0⟩
  else if n = 0xF4 then .inr ⟨1, 2, 0x80, 0x8F, 4⟩
  else .inl (.invalid 1)

/-- The character after one more byte of it. -/
def Pending.push (p : Pending) (b : UInt8) : Piece ⊕ Pending :=
  let value := p.value * 64 + (b.toNat - 0x80)
  match p.left with
  | 0 => .inl (.char (Char.ofNat value))
  | left + 1 => .inr ⟨p.seen + 1, left, 0x80, 0xBF, value⟩

def piecesFrom : Option Pending → Bytes → List Piece
  | none, [] => []
  | some p, [] => [.cut p.seen]
  | none, b :: r =>
    match lead b with
    | .inl piece => piece :: piecesFrom none r
    | .inr p => piecesFrom (some p) r
  | some p, b :: r =>
    if p.low ≤ b ∧ b ≤ p.high then
      match p.push b with
      | .inl piece => piece :: piecesFrom none r
      | .inr p => piecesFrom (some p) r
    else
      match lead b with
      | .inl piece => .invalid p.seen :: piece :: piecesFrom none r
      | .inr q => .invalid p.seen :: piecesFrom (some q) r

def pieces (bs : Bytes) : List Piece := piecesFrom none bs

def Piece.lossy : Piece → Char
  | .char c => c
  | .invalid _ | .cut _ => '\uFFFD'

def lossyChars (bs : Bytes) : List Char := (pieces bs).map Piece.lossy

def lossy (bs : Bytes) : String := String.ofList (lossyChars bs)

/-- Where the first stretch that is no character begins, and its length if more bytes could not
complete it. -/
structure Error where
  start : Nat
  length : Option Nat
  deriving DecidableEq, Repr

def Error.message (e : Error) : String :=
  match e.length with
  | some n => s!"invalid utf-8 sequence of {n} bytes from index {e.start}"
  | none => s!"incomplete utf-8 byte sequence from index {e.start}"

/-- The characters of the pieces, the first of which begins at `start`. -/
def strictFrom (start : Nat) : List Piece → Except Error (List Char)
  | [] => .ok []
  | .char c :: r => (strictFrom (start + c.utf8Size) r).map (c :: ·)
  | .invalid n :: _ => .error ⟨start, some n⟩
  | .cut _ :: _ => .error ⟨start, none⟩

def strict (bs : Bytes) : Except Error String := (strictFrom 0 (pieces bs)).map String.ofList

end Utf8

end BucketAccess
