import BucketAccess.Proofs.Markup.DocumentType
import Mathlib.Data.List.Infix

/-!
# Documents as trees

Documents by their grammar, apart from how they are read: the content of an element is a sequence of
elements and other marks, and the bytes of a document are those of its tree. What a document says is
defined on the tree alone, by the paths at which its elements stand. Bytes that no reader looks into
(attributes, comments, instructions, declarations) are kept as they are, under conditions that every
well-formed document meets.
-/

namespace BucketAccess.Markup

/-! ## Marks -/

/-- Bytes in which every quote is closed and none of `stops` stands outside quotes. -/
inductive Quoted (stops : Bytes) : Bytes → Prop where
  | nil : Quoted stops []
  | plain {b : UInt8} {r : Bytes} :
      b ≠ 0x22 → b ≠ 0x27 → b ∉ stops → Quoted stops r → Quoted stops (b :: r)
  | quote {q : UInt8} {value r : Bytes} :
      q = 0x22 ∨ q = 0x27 → q ∉ value → Quoted stops r → Quoted stops (q :: (value ++ q :: r))

def IsNameChar (c : Char) : Prop := c.isAlphanum ∨ c ∈ ['-', '.', '_', ':'] ∨ 0x80 ≤ c.toNat

instance : DecidablePred IsNameChar := fun _ => inferInstanceAs (Decidable (_ ∨ _))

def IsName (name : String) : Prop := name ≠ "" ∧ ∀ c ∈ name.toList, IsNameChar c

instance : DecidablePred IsName := fun name =>
  have : Decidable (∀ c ∈ name.toList, IsNameChar c) := List.decidableBAll _ _
  inferInstanceAs (Decidable (_ ∧ _))

/-- What stands in a start tag; the attributes begin with the blank before the first. -/
structure Tag where
  name : String
  attributes : Bytes

def Tag.bytes (t : Tag) : Bytes := Utf8.bytes t.name ++ t.attributes

structure Tag.WellFormed (t : Tag) : Prop where
  name : IsName t.name
  quoted : Quoted [0x3E] t.attributes
  blank : ∀ b ∈ t.attributes.head?, isBlank b
  closed : t.attributes.getLast? ≠ some 0x2F

/-- What may stand in an element besides elements that have content. -/
inductive Mark where
  | text (content : String)
  | reference (content : Bytes)
  | empty (tag : Tag)
  | comment (content : Bytes)
  | instruction (content : Bytes)
  | cdata (content : Bytes)

def commentBytes (content : Bytes) : Bytes := Utf8.bytes "<!--" ++ (content ++ Utf8.bytes "-->")

def instructionBytes (content : Bytes) : Bytes := Utf8.bytes "<?" ++ (content ++ Utf8.bytes "?>")

def Mark.bytes : Mark → Bytes
  | text content => Utf8.bytes content
  | reference content => 0x26 :: (content ++ [0x3B])
  | empty tag => 0x3C :: (tag.bytes ++ [0x2F, 0x3E])
  | comment content => commentBytes content
  | instruction content => instructionBytes content
  | cdata content => Utf8.bytes "<![CDATA[" ++ (content ++ Utf8.bytes "]]>")

def IsComment (content : Bytes) : Prop := ¬ Utf8.bytes "--" <:+: content

def IsInstruction (content : Bytes) : Prop := ¬ Utf8.bytes "?>" <:+: 0x3F :: content

def Mark.WellFormed : Mark → Prop
  | text content => '<' ∉ content.toList ∧ '&' ∉ content.toList
  | reference content => 0x3B ∉ content ∧ 0x26 ∉ content ∧ 0x3C ∉ content
  | empty tag => tag.WellFormed
  | comment content => IsComment content
  | instruction content => IsInstruction content
  | cdata content => ¬ Utf8.bytes "]]>" <:+: content

/-! ## Content -/

/-- The content of an element: marks and elements, in order. -/
inductive Content where
  | nil
  | mark (m : Mark) (after : Content)
  /-- An element; `gap` is the blank at the end of its end tag. -/
  | element (tag : Tag) (inside : Content) (gap : Bytes) (after : Content)

/-- An end tag, after its angle bracket. -/
def endTag (name : String) (gap : Bytes) : Bytes := 0x2F :: (Utf8.bytes name ++ (gap ++ [0x3E]))

def Content.bytes : Content → Bytes
  | nil => []
  | mark m after => m.bytes ++ after.bytes
  | element tag inside gap after => 0x3C :: (tag.bytes ++ 0x3E ::
      (inside.bytes ++ 0x3C :: (endTag tag.name gap ++ after.bytes)))

def Content.WellFormed : Content → Prop
  | nil => True
  | mark m after => m.WellFormed ∧ after.WellFormed
  | element tag inside gap after =>
    tag.WellFormed ∧ inside.WellFormed ∧ gap.all isBlank ∧ after.WellFormed

/-! ## Document types and documents -/

/-- What may stand between the brackets of a document type declaration. -/
inductive SubsetPart where
  /-- Blanks and references to parameters. -/
  | plain (content : Bytes)
  | comment (content : Bytes)
  | instruction (content : Bytes)
  | elementDeclaration (content : Bytes)
  /-- A declaration of entities, attributes or formats. -/
  | declaration (keyword : String) (content : Bytes)

def SubsetPart.bytes : SubsetPart → Bytes
  | plain content => content
  | comment content => commentBytes content
  | instruction content => instructionBytes content
  | elementDeclaration content => Utf8.bytes "<!ELEMENT" ++ (content ++ [0x3E])
  | declaration keyword content => Utf8.bytes "<!" ++ (Utf8.bytes keyword ++ (content ++ [0x3E]))

def SubsetPart.WellFormed : SubsetPart → Prop
  | plain content => 0x3C ∉ content ∧ 0x5D ∉ content
  | comment content => IsComment content
  | instruction content => IsInstruction content
  | elementDeclaration content => 0x3E ∉ content
  | declaration keyword content =>
    keyword ∈ ["ENTITY", "ATTLIST", "NOTATION"] ∧ Quoted [0x3E] content

structure Doctype where
  /-- The name and where the declarations are found. -/
  head : Bytes
  subset : Option (List SubsetPart)
  tail : Bytes

def Doctype.bytes (d : Doctype) : Bytes :=
  Utf8.bytes "<!DOCTYPE" ++ (d.head ++
    ((match d.subset with
      | none => []
      | some parts => 0x5B :: (parts.flatMap SubsetPart.bytes ++ 0x5D :: d.tail)) ++ [0x3E]))

structure Doctype.WellFormed (d : Doctype) : Prop where
  head : Quoted [0x3E, 0x5B] d.head
  named : ¬ d.head.all isBlank
  subset : ∀ parts ∈ d.subset, ∀ p ∈ parts, p.WellFormed
  tail : 0x3E ∉ d.tail

/-- What may stand before the root. The declaration of the document is an instruction here. -/
inductive PrologPart where
  | blank (content : Bytes)
  | comment (content : Bytes)
  | instruction (content : Bytes)
  | doctype (d : Doctype)

def PrologPart.bytes : PrologPart → Bytes
  | blank content => content
  | comment content => commentBytes content
  | instruction content => instructionBytes content
  | doctype d => d.bytes

def PrologPart.WellFormed : PrologPart → Prop
  | blank content => content.all isBlank
  | comment content => IsComment content
  | instruction content => IsInstruction content
  | doctype d => d.WellFormed

structure Document where
  orderMark : Bool
  prolog : List PrologPart
  root : Tag
  content : Content
  /-- The blank at the end of the end tag of the root. -/
  gap : Bytes
  rest : Bytes

def Document.bytes (d : Document) : Bytes :=
  (if d.orderMark then [0xEF, 0xBB, 0xBF] else []) ++ (d.prolog.flatMap PrologPart.bytes ++
    0x3C :: (d.root.bytes ++ 0x3E :: (d.content.bytes ++ 0x3C ::
      (endTag d.root.name d.gap ++ d.rest))))

structure Document.WellFormed (d : Document) : Prop where
  prolog : ∀ p ∈ d.prolog, p.WellFormed
  root : d.root.WellFormed
  content : d.content.WellFormed
  gap : d.gap.all isBlank

/-! ## What a tree says -/

namespace Content

/-- The contents of the elements of this name, in document order. -/
def named (name : String) : Content → List Content
  | nil => []
  | mark _ after => after.named name
  | element tag inside _ after =>
    if tag.name = name then inside :: after.named name else after.named name

/-- The contents of the elements at a path, in document order. -/
def along (c : Content) : List String → List Content
  | [] => [c]
  | name :: path => (c.named name).flatMap (·.along path)

/-- The text of content that is nothing but text. -/
def text? : Content → Option String
  | nil => some ""
  | mark (.text content) nil => some content
  | _ => none

end Content

def isSpace (c : Char) : Bool := c = ' ' || c = '\t' || c = '\r' || c = '\n'

/-- A text without the white space at its ends. -/
def trimmed (s : String) : String :=
  String.ofList ((s.toList.dropWhile isSpace).reverse.dropWhile isSpace).reverse

namespace Content

/-- What is read of a field. -/
def written (c : Content) : String := trimmed (c.text?.getD "")

/-- The text of the last element at a path. -/
def field? (c : Content) (path : List String) : Option String :=
  (c.along path).getLast?.map written

/-- The text of the last element at a path, or nothing written. -/
def field (c : Content) (path : List String) : String := (c.field? path).getD ""

def user (c : Content) : Users.User :=
  { name := c.field ["UserName"]
    path := c.field ["Path"]
    id := c.field ["UserId"]
    arn := c.field ["Arn"]
    created := c.field ["CreateDate"] }

def accessKey (c : Content) : Users.AccessKey :=
  { account := c.field ["AccountId"]
    id := c.field ["AccessKeyId"]
    status := c.field ["Status"]
    secret := c.field ["SecretAccessKey"]
    created := c.field ["CreateDate"]
    user := c.field ["UserName"] }

def keyEntry (c : Content) : Users.KeyEntry :=
  { account := c.field ["AccountId"]
    id := c.field ["AccessKeyId"]
    status := c.field ["Status"]
    created := c.field ["CreateDate"]
    user := c.field ["UserName"] }

/-- The request that an answer is for, as the last metadata say. -/
def requestId (c : Content) : String :=
  match (c.along ["ResponseMetadata"]).getLast? with
  | some metadata => metadata.field ["RequestId"]
  | none => ""

/-- The answer whose value is the last element at a path of two. -/
def item {α : Type} (result name : String) (value : Content → α) (c : Content) :
    Except Error (Users.Answer α) :=
  match (c.along [result, name]).getLast? with
  | some found => .ok ⟨value found, c.requestId⟩
  | none => .error (.missing (result ++ "/" ++ name))

end Content

namespace DocumentType

/-- What a document of this type with this content says. -/
def ofContent : (d : DocumentType) → Content → Except Error d.Value
  | failure => fun c => .ok ⟨c.field ["Error", "Code"], c.field ["Error", "Message"],
      c.field ["RequestId"]⟩
  | user => fun c => .ok c.user
  | createdUser => Content.item "CreateUserResult" "User" Content.user
  | foundUser => Content.item "GetUserResult" "User" Content.user
  | accessKey => fun c => .ok c.accessKey
  | createdAccessKey => Content.item "CreateAccessKeyResult" "AccessKey" Content.accessKey
  | deletedUser | deletedAccessKey => fun c => .ok ⟨(), c.requestId⟩
  | keyEntry => fun c => .ok c.keyEntry
  | keyList => fun c => .ok
      ⟨(c.along ["ListAccessKeysResult", "AccessKeyMetadata", "member"]).map Content.keyEntry,
        c.requestId⟩
  | storageFailure => fun c => .ok ⟨c.field ["Code"], c.field ["Message"], c.field? ["Resource"],
      c.field ["RequestId"]⟩

def userFieldNames : List String := ["UserName", "Path", "UserId", "Arn", "CreateDate"]

def accessKeyFieldNames : List String :=
  ["AccountId", "AccessKeyId", "Status", "SecretAccessKey", "CreateDate", "UserName"]

def keyEntryFieldNames : List String :=
  ["AccountId", "AccessKeyId", "Status", "CreateDate", "UserName"]

/-- The paths of the fields. -/
def fieldPaths : DocumentType → List (List String)
  | failure => [["Error", "Code"], ["Error", "Message"], ["RequestId"]]
  | user => userFieldNames.map ([·])
  | createdUser => ["ResponseMetadata", "RequestId"] ::
      userFieldNames.map (["CreateUserResult", "User", ·])
  | foundUser => ["ResponseMetadata", "RequestId"] ::
      userFieldNames.map (["GetUserResult", "User", ·])
  | accessKey => accessKeyFieldNames.map ([·])
  | createdAccessKey => ["ResponseMetadata", "RequestId"] ::
      accessKeyFieldNames.map (["CreateAccessKeyResult", "AccessKey", ·])
  | deletedUser | deletedAccessKey => [["ResponseMetadata", "RequestId"]]
  | keyEntry => keyEntryFieldNames.map ([·])
  | keyList => ["ResponseMetadata", "RequestId"] ::
      keyEntryFieldNames.map (["ListAccessKeysResult", "AccessKeyMetadata", "member", ·])
  | storageFailure => [["Code"], ["Message"], ["Resource"], ["RequestId"]]

/-- Every field in the content holds nothing but text. -/
def Plain (d : DocumentType) (c : Content) : Prop :=
  ∀ path ∈ d.fieldPaths, ∀ inside ∈ c.along path, inside.text?.isSome

end DocumentType

end BucketAccess.Markup
