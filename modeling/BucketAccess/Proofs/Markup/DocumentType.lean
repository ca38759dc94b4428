import BucketAccess.Storage.Document
import BucketAccess.Users.Answer

/-!
# Types of documents

The eleven documents that the two clients read. Each has a root element, a layout below it and a
value that the parts amount to, and reading is the same for all of them up to that value
(`DocumentType.read_eq`).
-/

namespace BucketAccess.Markup

inductive DocumentType where
  | failure
  | user
  | createdUser
  | foundUser
  | deletedUser
  | accessKey
  | createdAccessKey
  | deletedAccessKey
  | keyEntry
  | keyList
  | storageFailure
  deriving DecidableEq, Repr

namespace DocumentType

def root : DocumentType → String
  | failure => "ErrorResponse"
  | user => "User"
  | createdUser => "CreateUserResponse"
  | foundUser => "GetUserResponse"
  | deletedUser => "DeleteUserResponse"
  | accessKey => "AccessKey"
  | createdAccessKey => "CreateAccessKeyResponse"
  | deletedAccessKey => "DeleteAccessKeyResponse"
  | keyEntry => "member"
  | keyList => "ListAccessKeysResponse"
  | storageFailure => "Error"

/-- The layout of an answer that holds a value in the element `item` of its element `result`. -/
def itemLayout (result item : String) (fields : List (String × Layout)) :
    List (String × Layout) :=
  [(result, .group [(item, .group fields)]), Users.metadata]

/-- What stands below the root. -/
def layout : DocumentType → List (String × Layout)
  | failure => ("Error", .group (texts ["Code", "Message"])) :: texts ["RequestId"]
  | user => Users.userFields
  | createdUser => itemLayout "CreateUserResult" "User" Users.userFields
  | foundUser => itemLayout "GetUserResult" "User" Users.userFields
  | accessKey => Users.accessKeyFields
  | createdAccessKey => itemLayout "CreateAccessKeyResult" "AccessKey" Users.accessKeyFields
  | deletedUser | deletedAccessKey => [Users.metadata]
  | keyEntry => Users.keyEntryFields
  | keyList =>
    itemLayout "ListAccessKeysResult" "AccessKeyMetadata" [("member", .group Users.keyEntryFields)]
  | storageFailure => texts ["Code", "Message", "Resource", "RequestId"]

abbrev Value : DocumentType → Type
  | failure => Users.Failure
  | user => Users.User
  | createdUser | foundUser => Users.Answer Users.User
  | accessKey => Users.AccessKey
  | createdAccessKey => Users.Answer Users.AccessKey
  | deletedUser | deletedAccessKey => Users.Answer Unit
  | keyEntry => Users.KeyEntry
  | keyList => Users.Answer (List Users.KeyEntry)
  | storageFailure => Storage.Failure

def read : (d : DocumentType) → Bytes → Except Error d.Value
  | failure => Users.readFailure
  | user => Users.readUser
  | createdUser => Users.readCreateUser
  | foundUser => Users.readGetUser
  | deletedUser => Users.readDeleteUser
  | accessKey => Users.readAccessKey
  | createdAccessKey => Users.readCreateAccessKey
  | deletedAccessKey => Users.readDeleteAccessKey
  | keyEntry => Users.readKeyEntry
  | keyList => Users.readListAccessKeys
  | storageFailure => Storage.readFailure

/-! ## Values of parts -/

/-- The answer whose value is the last `item` in any `result`. -/
def itemOfParts {α : Type} (result item : String) (ofParts : List Part → α) (p : List Part) :
    Except Error (Users.Answer α) :=
  match lastGroup? item (allGroups result p) with
  | some found => .ok ⟨ofParts found, Users.requestId p⟩
  | none => .error (.missing (result ++ "/" ++ item))

/-- What the parts of a document amount to. -/
def ofParts : (d : DocumentType) → List Part → Except Error d.Value
  | failure => fun p => .ok
      ⟨lastText "Code" (allGroups "Error" p), lastText "Message" (allGroups "Error" p),
        lastText "RequestId" p⟩
  | user => fun p => .ok (Users.User.ofParts p)
  | createdUser => itemOfParts "CreateUserResult" "User" Users.User.ofParts
  | foundUser => itemOfParts "GetUserResult" "User" Users.User.ofParts
  | accessKey => fun p => .ok (Users.AccessKey.ofParts p)
  | createdAccessKey =>
    itemOfParts "CreateAccessKeyResult" "AccessKey" Users.AccessKey.ofParts
  | deletedUser | deletedAccessKey => fun p => .ok ⟨(), Users.requestId p⟩
  | keyEntry => fun p => .ok (Users.KeyEntry.ofParts p)
  | keyList => fun p => .ok
      ⟨(groupsNamed "member" (allGroups "AccessKeyMetadata" (allGroups "ListAccessKeysResult" p))).map
        Users.KeyEntry.ofParts, Users.requestId p⟩
  | storageFailure => fun p => .ok
      ⟨lastText "Code" p, lastText "Message" p, lastText? "Resource" p, lastText "RequestId" p⟩

theorem readItem_eq {α : Type} (root result item : String) (fields : List (String × Layout))
    (ofParts : List Part → α) (document : Bytes) :
    Users.readItem root result item fields ofParts document =
      readDocument root (itemLayout result item fields) document >>=
        itemOfParts result item ofParts := rfl

theorem read_eq (d : DocumentType) (document : Bytes) :
    d.read document = readDocument d.root d.layout document >>= d.ofParts := by
  cases d with
  | createdUser | foundUser | createdAccessKey => exact readItem_eq ..
  | failure | keyList | deletedUser | deletedAccessKey | storageFailure => rfl
  | user | accessKey | keyEntry => exact map_eq_pure_bind ..

theorem parts_of_read {d : DocumentType} {document : Bytes} {v : d.Value}
    (h : d.read document = .ok v) : ∃ parts, readDocument d.root d.layout document = .ok parts := by
  rw [read_eq] at h
  cases hp : readDocument d.root d.layout document with
  | error e => rw [hp] at h; cases h
  | ok parts => exact ⟨parts, rfl⟩

end DocumentType

end BucketAccess.Markup
