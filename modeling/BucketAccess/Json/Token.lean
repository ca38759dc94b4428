import BucketAccess.Encoding.Hex
import BucketAccess.Json.Draft
import BucketAccess.Json.Literal

/-!
# Tokens of JSON

The marks, strings and other scalars of a text, in order. The last token of a text that breaks off
inside a scalar is the hole that it leaves.
-/

namespace BucketAccess.Json

inductive Token where
  /-- A bracket, a comma, a colon, or a character that begins nothing. -/
  | mark (c : Char)
  | string (d : Draft)
  | scalar (d : Draft)

/-! ## Strings -/

/-- A character of a string, or the number that an escape gives. -/
inductive Piece where
  | char (c : Char)
  | unit (n : Nat)
  deriving DecidableEq, Repr

def isLeading (n : Nat) : Bool := 0xD800 ≤ n && n < 0xDC00

def isTrailing (n : Nat) : Bool := 0xDC00 ≤ n && n < 0xE000

/-- The text of a string, which ends with a quote or breaks off. Halves of surrogate pairs must
stand together. -/
def joinPieces (stop : Option Fault) : List Piece → Except Fault (List Char)
  | [] =>
    match stop with
    | none => .ok []
    | some f => .error f
  | .char c :: r => (joinPieces stop r).map (c :: ·)
  | .unit n :: r =>
    if isTrailing n then .error .syntactic
    else if isLeading n then
      match r with
      | [] => .error (stop.getD .syntactic)
      | .char _ :: _ => .error .syntactic
      | .unit m :: r =>
        if isTrailing m then
          (joinPieces stop r).map (Char.ofNat (0x10000 + (n - 0xD800) * 1024 + (m - 0xDC00)) :: ·)
        else .error .syntactic
    else (joinPieces stop r).map (Char.ofNat n :: ·)

def Draft.ofPieces (pieces : List Piece) : Draft :=
  match joinPieces none pieces with
  | .ok s => .string (String.ofList s)
  | .error _ => .loose

def Draft.ofBrokenPieces (pieces : List Piece) (lax : Fault) : Draft :=
  match joinPieces (some lax) pieces with
  | .ok _ => .hole lax lax
  | .error strict => .hole strict lax

/-- What a character after a backslash stands for, but for `u`. -/
def escaped? : Char → Option Char
  | '"' => some '"'
  | '\\' => some '\\'
  | '/' => some '/'
  | 'b' => some '\x08'
  | 'f' => some '\x0c'
  | 'n' => some '\n'
  | 'r' => some '\r'
  | 't' => some '\t'
  | _ => none

/-! ## Numbers -/

/-- How far a number has been read. -/
inductive Phase where
  | minus
  | zero
  | whole
  | point
  | fraction
  | mark
  | sign
  | exponent
  deriving DecidableEq, Repr

def Phase.complete : Phase → Bool
  | .zero | .whole | .fraction | .exponent => true
  | _ => false

/-- A number in part, its digits last first. -/
structure Partial where
  phase : Phase
  negative : Bool
  whole : List Nat
  fraction : List Nat
  exponentNegative : Bool
  exponent : List Nat

def Partial.literal (p : Partial) : Literal :=
  { negative := p.negative
    whole := p.whole.reverse
    fraction := p.fraction.reverse
    exponent :=
      if p.phase = .exponent then some (p.exponentNegative, p.exponent.reverse) else none }

def digit? (c : Char) : Option Nat := Numeral.digit? 10 c

/-- What a number begins with. -/
def Partial.first? (c : Char) : Option Partial :=
  match digit? c with
  | some 0 => some ⟨.zero, false, [0], [], false, []⟩
  | some d => some ⟨.whole, false, [d], [], false, []⟩
  | none => if c = '-' then some ⟨.minus, true, [], [], false, []⟩ else none

/-- The number with one more character, if that belongs to it. -/
def Partial.next? (p : Partial) (c : Char) : Option Partial :=
  let isMark := c = 'e' || c = 'E'
  match p.phase, digit? c with
  | .minus, some 0 => some { p with phase := .zero, whole := [0] }
  | .minus, some d => some { p with phase := .whole, whole := [d] }
  | .whole, some d => some { p with whole := d :: p.whole }
  | .point, some d | .fraction, some d =>
    some { p with phase := .fraction, fraction := d :: p.fraction }
  | .mark, some d | .sign, some d | .exponent, some d =>
    some { p with phase := .exponent, exponent := d :: p.exponent }
  | .zero, none | .whole, none =>
    if c = '.' then some { p with phase := .point }
    else if isMark then some { p with phase := .mark }
    else none
  | .fraction, none => if isMark then some { p with phase := .mark } else none
  | .mark, none =>
    if c = '+' then some { p with phase := .sign }
    else if c = '-' then some { p with phase := .sign, exponentNegative := true }
    else none
  | _, _ => none

/-- A number that is followed by this character or by the end. -/
def Partial.finish (p : Partial) (next : Option Char) : Draft :=
  let second := p.phase = .zero && (next.bind digit?).isSome
  if p.phase.complete && !second then
    match p.literal.number? with
    | some n => .number n
    | none => .loose
  else .fragment (if next.isSome then .syntactic else .ended) .syntactic

/-! ## Reading -/

inductive State where
  | between
  /-- In a word that stands for `d`, before `next` and what is left after it. -/
  | word (next : Char) (left : List Char) (d : Draft)
  | string (seen : List Piece)
  | escape (seen : List Piece)
  /-- After `\u` and `count` digits. -/
  | hex (seen : List Piece) (count value : Nat)
  /-- After `\u` and as many bytes, not all of them digits. -/
  | badHex (seen : List Piece) (bytes : Nat)
  | number (p : Partial)

def isBlank (c : Char) : Bool := c = ' ' || c = '\t' || c = '\n' || c = '\r'

/-- The token that a character completes between two tokens, and the state after it. -/
def State.start (c : Char) : List Token × Option State :=
  if isBlank c then ([], some .between)
  else if c = '"' then ([], some (.string []))
  else if c = 'n' then ([], some (.word 'u' ['l', 'l'] .null))
  else if c = 't' then ([], some (.word 'r' ['u', 'e'] (.bool true)))
  else if c = 'f' then ([], some (.word 'a' ['l', 's', 'e'] (.bool false)))
  else
    match Partial.first? c with
    | some p => ([], some (.number p))
    | none => ([.mark c], some .between)

def broken (seen : List Piece) (lax : Fault) : List Token :=
  [.string (Draft.ofBrokenPieces seen.reverse lax)]

/-- The tokens that a character completes, and the state after it; nothing follows a hole. -/
def State.step (s : State) (c : Char) : List Token × Option State :=
  match s with
  | .between => State.start c
  | .word next left d =>
    if c ≠ next then ([.scalar (.fragment .syntactic .syntactic)], none)
    else
      match left with
      | [] => ([.scalar d], some .between)
      | next :: left => ([], some (.word next left d))
  | .string seen =>
    if c = '"' then ([.string (Draft.ofPieces seen.reverse)], some .between)
    else if c = '\\' then ([], some (.escape seen))
    else if c.toNat < 0x20 then (broken seen .syntactic, none)
    else ([], some (.string (.char c :: seen)))
  | .escape seen =>
    if c = 'u' then ([], some (.hex seen 0 0))
    else
      match escaped? c with
      | some x => ([], some (.string (.char x :: seen)))
      | none => (broken seen .syntactic, none)
  | .hex seen count value =>
    match Hex.digitValue? c with
    | some d =>
      if count = 3 then ([], some (.string (.unit (value * 16 + d) :: seen)))
      else ([], some (.hex seen (count + 1) (value * 16 + d)))
    | none =>
      if 4 ≤ count + c.utf8Size then (broken seen .syntactic, none)
      else ([], some (.badHex seen (count + c.utf8Size)))
  | .badHex seen bytes =>
    if 4 ≤ bytes + c.utf8Size then (broken seen .syntactic, none)
    else ([], some (.badHex seen (bytes + c.utf8Size)))
  | .number p =>
    match p.next? c with
    | some p => ([], some (.number p))
    | none =>
      match p.finish (some c) with
      | .fragment strict lax => ([.scalar (.fragment strict lax)], none)
      | d => (.scalar d :: (State.start c).1, (State.start c).2)

/-- The tokens that the end of the text leaves. -/
def State.finish : State → List Token
  | .between => []
  | .word _ _ _ => [.scalar (.fragment .ended .ended)]
  | .string seen | .escape seen | .hex seen _ _ | .badHex seen _ => broken seen .ended
  | .number p => [.scalar (p.finish none)]

def Token.scan (s : State) : List Char → List Token
  | [] => s.finish
  | c :: r =>
    match s.step c with
    | (tokens, none) => tokens
    | (tokens, some next) => tokens ++ scan next r

def Token.ofText (s : List Char) : List Token := scan .between s

end BucketAccess.Json
