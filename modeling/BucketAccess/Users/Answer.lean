import BucketAccess.Markup.Record
import BucketAccess.Text.Quoted

/-!
# Answers of user management

The documents that the backend answers with: users, access keys, the list of a user's keys, and the
report of a failure. In each of them the last text at a field's place counts; of several users or
keys in one answer the last one counts alone.
-/

namespace BucketAccess.Users

open Markup

structure Failure where
  code : String
  message : String
  requestId : String
  deriving DecidableEq, Repr

structure User where
  name : String
  path : String
  id : String
  arn : String
  created : String
  deriving DecidableEq, Repr

structure AccessKey where
  account : String
  id : String
  status : String
  secret : String
  created : String
  user : String
  deriving DecidableEq, Repr

/-- What a list says about a key: all but the secret. -/
structure KeyEntry where
  account : String
  id : String
  status : String
  created : String
  user : String
  deriving DecidableEq, Repr

/-- A value, and the id of the request that it answers. -/
structure Answer (α : Type) where
  value : α
  requestId : String
  deriving DecidableEq, Repr

/-- A key in a log: its secret stays out. -/
def AccessKey.shown (k : AccessKey) : String :=
  "AccessKey \x7b account_id: " ++ Text.quoted k.account ++
    ", access_key_id: " ++ Text.quoted k.id ++ ", status: " ++ Text.quoted k.status ++
    ", secret_access_key: \"<redacted>\", create_date: " ++ Text.quoted k.created ++
    ", user_name: " ++ Text.quoted k.user ++ " \x7d"

/-! ## Layouts -/

def userFields : List (String × Layout) := texts ["UserName", "Path", "UserId", "Arn", "CreateDate"]

def accessKeyFields : List (String × Layout) :=
  texts ["AccountId", "AccessKeyId", "Status", "SecretAccessKey", "CreateDate", "UserName"]

def keyEntryFields : List (String × Layout) :=
  texts ["AccountId", "AccessKeyId", "Status", "CreateDate", "UserName"]

def metadata : String × Layout := ("ResponseMetadata", .group (texts ["RequestId"]))

/-! ## Values of parts -/

def User.ofParts (p : List Part) : User :=
  { name := lastText "UserName" p
    path := lastText "Path" p
    id := lastText "UserId" p
    arn := lastText "Arn" p
    created := lastText "CreateDate" p }

def AccessKey.ofParts (p : List Part) : AccessKey :=
  { account := lastText "AccountId" p
    id := lastText "AccessKeyId" p
    status := lastText "Status" p
    secret := lastText "SecretAccessKey" p
    created := lastText "CreateDate" p
    user := lastText "UserName" p }

def KeyEntry.ofParts (p : List Part) : KeyEntry :=
  { account := lastText "AccountId" p
    id := lastText "AccessKeyId" p
    status := lastText "Status" p
    created := lastText "CreateDate" p
    user := lastText "UserName" p }

def requestId (p : List Part) : String :=
  lastText "RequestId" ((lastGroup? "ResponseMetadata" p).getD [])

/-! ## Reading -/

def readFailure (document : Bytes) : Except Error Failure := do
  let p ← readDocument "ErrorResponse"
    (("Error", .group (texts ["Code", "Message"])) :: texts ["RequestId"]) document
  let error := allGroups "Error" p
  return ⟨lastText "Code" error, lastText "Message" error, lastText "RequestId" p⟩

def readUser (document : Bytes) : Except Error User :=
  User.ofParts <$> readDocument "User" userFields document

def readAccessKey (document : Bytes) : Except Error AccessKey :=
  AccessKey.ofParts <$> readDocument "AccessKey" accessKeyFields document

def readKeyEntry (document : Bytes) : Except Error KeyEntry :=
  KeyEntry.ofParts <$> readDocument "member" keyEntryFields document

/-- An answer that holds a value in the element `item` of its element `result`. -/
def readItem {α : Type} (root result item : String) (fields : List (String × Layout))
    (ofParts : List Part → α) (document : Bytes) : Except Error (Answer α) := do
  let p ← readDocument root [(result, .group [(item, .group fields)]), metadata] document
  match lastGroup? item (allGroups result p) with
  | some found => return ⟨ofParts found, requestId p⟩
  | none => .error (.missing (result ++ "/" ++ item))

def readCreateUser : Bytes → Except Error (Answer User) :=
  readItem "CreateUserResponse" "CreateUserResult" "User" userFields User.ofParts

def readGetUser : Bytes → Except Error (Answer User) :=
  readItem "GetUserResponse" "GetUserResult" "User" userFields User.ofParts

def readCreateAccessKey : Bytes → Except Error (Answer AccessKey) :=
  readItem "CreateAccessKeyResponse" "CreateAccessKeyResult" "AccessKey" accessKeyFields
    AccessKey.ofParts

def readListAccessKeys (document : Bytes) : Except Error (Answer (List KeyEntry)) := do
  let p ← readDocument "ListAccessKeysResponse"
    [("ListAccessKeysResult", .group [("AccessKeyMetadata", .group
      [("member", .group keyEntryFields)])]), metadata] document
  let members := groupsNamed "member"
    (allGroups "AccessKeyMetadata" (allGroups "ListAccessKeysResult" p))
  return ⟨members.map KeyEntry.ofParts, requestId p⟩

/-- An answer that says nothing but that the request was met. -/
def readDone (root : String) (document : Bytes) : Except Error (Answer Unit) := do
  let p ← readDocument root [metadata] document
  return ⟨(), requestId p⟩

def readDeleteUser : Bytes → Except Error (Answer Unit) := readDone "DeleteUserResponse"

def readDeleteAccessKey : Bytes → Except Error (Answer Unit) := readDone "DeleteAccessKeyResponse"

end BucketAccess.Users
