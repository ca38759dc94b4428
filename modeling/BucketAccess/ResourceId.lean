/-!
# Resource ids

The id of a bucket or an account: the namespace and the name of the secret with the account's keys,
and the name of the bucket or the principal, written with slashes between them. Nothing is escaped,
so an id is read back only if it has exactly three pieces, none of them empty.
-/

namespace BucketAccess

structure ResourceId where
  secretNamespace : String
  secretName : String
  resource : String
  deriving DecidableEq, Repr

namespace ResourceId

inductive Error where
  | invalidFormat (id : String)
  | invalidValue (id : String)
  deriving DecidableEq, Repr

def Error.message : Error → String
  | .invalidFormat id => s!"invalid format of resource id [{id}]"
  | .invalidValue id => s!"invalid value of resource id [{id}]"

def encode (r : ResourceId) : String :=
  r.secretNamespace ++ "/" ++ r.secretName ++ "/" ++ r.resource

def decode (id : String) : Except Error ResourceId :=
  match id.toList.splitOn '/' with
  | [a, b, c] =>
    if a.isEmpty || b.isEmpty || c.isEmpty then .error (.invalidValue id)
    else .ok ⟨String.ofList a, String.ofList b, String.ofList c⟩
  | _ => .error (.invalidFormat id)

end ResourceId

end BucketAccess
