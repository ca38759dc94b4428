import BucketAccess.Account.Connection
import BucketAccess.Users.Answer
import BucketAccess.Web.Exchange

/-!
# Calls on user management

What can be asked of user management, and how it can fail. A user that is absent is no failure of a
look-up, a list or a deletion, nor is a key of a deletion.
-/

namespace BucketAccess.Users

inductive Error where
  | connect (e : Account.ConnectError)
  | noParams
  | transport (action : String) (cause : Web.TransportError)
  | backend (action : String) (status : Nat) (f : Failure)
  | undecodable (action : String) (status : Nat) (body : String) (e : Markup.Error)
  | markup (action : String) (e : Markup.Error)
  deriving DecidableEq, Repr

/-- The code by which the backend reports that a user or a key is absent. -/
def absence : String := "NoSuchEntity"

namespace Error

def text : Error → String
  | .connect e => e.text
  | .noParams => "enter param is empty"
  | .transport action cause => s!"{action} call failed: {cause.text}"
  | .backend action _ f => s!"{action} failed: code is [{f.code}], msg is [{f.message}], " ++
      s!"requestId is [{f.requestId}]"
  | .undecodable action status body e =>
    s!"{action} failed with status {status}, undecodable body [{body}]: {e.message}"
  | .markup action e => s!"decode {action} response failed: {e.message}"

/-- Whether the text is this program's alone. -/
def isOwn : Error → Bool
  | .connect e => e.isOwn
  | .transport .. => false
  | .noParams | .backend .. | .undecodable .. | .markup .. => true

def code? : Error → Option String
  | .backend _ _ f => some f.code
  | _ => none

def isAbsence (e : Error) : Bool := e.code? = some absence

end Error

inductive Call where
  | createUser (user : String)
  | getUser (user : String)
  | deleteUser (user : String)
  | createKey (user : String)
  | deleteKey (user id : String)
  | listKeys (user : String)
  deriving DecidableEq, Repr

def Call.Reply : Call → Type
  | .createUser _ => Except Error User
  | .getUser _ => Except Error (Option User)
  | .deleteUser _ | .deleteKey _ _ => Except Error Unit
  | .createKey _ => Except Error AccessKey
  | .listKeys _ => Except Error (List KeyEntry)

abbrev api : Signature := ⟨Call, Call.Reply⟩

/-! ## Single calls -/

def createUser (user : String) : Attempt api Error User :=
  .ofProgram (.call (Call.createUser user) .done)

def getUser (user : String) : Attempt api Error (Option User) :=
  .ofProgram (.call (Call.getUser user) .done)

def deleteUser (user : String) : Attempt api Error Unit :=
  .ofProgram (.call (Call.deleteUser user) .done)

def createKey (user : String) : Attempt api Error AccessKey :=
  .ofProgram (.call (Call.createKey user) .done)

def deleteKey (user id : String) : Attempt api Error Unit :=
  .ofProgram (.call (Call.deleteKey user id) .done)

def listKeys (user : String) : Attempt api Error (List KeyEntry) :=
  .ofProgram (.call (Call.listKeys user) .done)

end BucketAccess.Users
