import BucketAccess.Json.Token

/-!
# Reading JSON

Drafts of token lists. The containers around the place that is read are kept in a list of frames,
the innermost first; a text that breaks off leaves them as they are.
-/

namespace BucketAccess.Json

/-- A container whose end has not been read, its parts last first. -/
inductive Frame where
  | array (items : List Draft)
  | object (members : List (Draft × Draft))
  /-- In an object, after a key. -/
  | member (members : List (Draft × Draft)) (key : Draft)

/-- The frame with one more value. -/
def Frame.add (d : Draft) : Frame → Frame
  | .array items => .array (d :: items)
  | .object members => .object members
  | .member members key => .object ((key, d) :: members)

/-- The container as far as it was read. -/
def Frame.close (stop : Option Fault) : Frame → Draft
  | .array items => .array items.reverse stop
  | .object members | .member members _ => .object members.reverse stop

/-- What can come next. -/
inductive Expected where
  | value
  /-- The first item of an array, or its end. -/
  | item
  | key
  /-- The first key of an object, or its end. -/
  | member
  | colon
  /-- A comma or the end of the container. -/
  | comma
  deriving DecidableEq, Repr

/-- What a token leads to: the next place, the end of the value, or the end of what can be read. -/
inductive Step where
  | next (frames : List Frame) (expected : Expected)
  | done (d : Draft)
  | broken (d : Draft)

/-- What the frames hold when the text breaks off at `d`. -/
def breakOff (d : Draft) : List Frame → Draft
  | [] => d
  | frame :: outer => breakOff ((frame.add d).close none) outer

/-- The text breaks off where a value should be. -/
def breakValue (f : Fault) (frames : List Frame) : Draft := breakOff (.hole f f) frames

/-- The text breaks off where the innermost container should go on or end. -/
def breakComma (f : Fault) : List Frame → Draft
  | [] => .hole f f
  | frame :: outer => breakOff (frame.close (some f)) outer

/-- The text breaks off at the value of a member that has this for its key. -/
def breakMember (key : Draft) (value : Draft) : List Frame → Draft
  | .object members :: outer => breakOff value (.member members key :: outer)
  | frames => breakOff value frames

/-- A value has been read. -/
def Step.value (d : Draft) : List Frame → Step
  | [] => .done d
  | frame :: outer => .next (frame.add d :: outer) .comma

/-- The innermost container ends. -/
def Step.close : List Frame → Step
  | [] => .broken (.hole .syntactic .syntactic)
  | frame :: outer => .value (frame.close none) outer

def stepValue (frames : List Frame) : Token → Step
  | .mark '[' => .next (.array [] :: frames) .item
  | .mark '{' => .next (.object [] :: frames) .member
  | .mark _ => .broken (breakValue .syntactic frames)
  | .string (.hole strict lax) => .broken (breakOff (.hole strict lax) frames)
  | .scalar (.fragment strict lax) => .broken (breakOff (.fragment strict lax) frames)
  | .string d | .scalar d => .value d frames

def stepKey (frames : List Frame) : Token → Step
  | .string (.hole strict lax) =>
    .broken (breakMember (.hole strict lax) (.hole strict lax) frames)
  | .string key =>
    match frames with
    | .object members :: outer => .next (.member members key :: outer) .colon
    | _ => .broken (breakValue .syntactic frames)
  | .mark '[' => .broken (breakMember (.array [] none) (.hole .syntactic .syntactic) frames)
  | .mark '{' => .broken (breakMember (.object [] none) (.hole .syntactic .syntactic) frames)
  | .mark _ =>
    .broken (breakMember (.hole .syntactic .syntactic) (.hole .syntactic .syntactic) frames)
  | .scalar key => .broken (breakMember key (.hole .syntactic .syntactic) frames)

def stepComma (frames : List Frame) (token : Token) : Step :=
  match token, frames with
  | .mark ',', .array _ :: _ => .next frames .value
  | .mark ',', .object _ :: _ => .next frames .key
  | .mark ']', .array _ :: _ => .close frames
  | .mark '}', .object _ :: _ => .close frames
  | _, _ => .broken (breakComma .syntactic frames)

def step (frames : List Frame) (expected : Expected) (token : Token) : Step :=
  match expected, token with
  | .item, .mark ']' => .close frames
  | .value, _ | .item, _ => stepValue frames token
  | .member, .mark '}' => .close frames
  | .key, _ | .member, _ => stepKey frames token
  | .colon, .mark ':' => .next frames .value
  | .colon, _ => .broken (breakValue .syntactic frames)
  | .comma, _ => stepComma frames token

/-- What the end of the text leaves. -/
def atEnd (frames : List Frame) : Expected → Draft
  | .value | .colon => breakValue .ended frames
  | .key => breakMember (.hole .ended .ended) (.hole .ended .ended) frames
  | .item | .member | .comma => breakComma .ended frames

/-- The value that is read from a place on, and the tokens after it. -/
def readTokens (frames : List Frame) (expected : Expected) : List Token → Draft × List Token
  | [] => (atEnd frames expected, [])
  | token :: r =>
    match step frames expected token with
    | .next frames expected => readTokens frames expected r
    | .done d => (d, r)
    | .broken d => (d, [])

/-- What a reader of drafts makes of a whole text; nothing may follow the value. -/
def readText {α : Type} (reader : Draft → Except Fault α) (s : String) : Except Fault α := do
  let (d, rest) := readTokens [] .value (Token.ofText s.toList)
  let a ← reader d
  if rest.isEmpty then return a else .error .syntactic

end BucketAccess.Json
