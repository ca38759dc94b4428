import BucketAccess.Text.Blank
import BucketAccess.Text.Numeral

/-!
# Settings

The six settings of the service, each with a value of its own when nothing is said. In the
environment a number may have blanks around it; one that does not read as a number of its kind is as
good as absent.
-/

namespace BucketAccess

structure Settings where
  logLevel : String
  lockSlots : UInt64
  adminPort : UInt16
  usersTimeout : UInt64
  storageTimeout : UInt64
  region : String
  deriving DecidableEq, Repr

namespace Settings

def standard : Settings :=
  { logLevel := "info"
    lockSlots := 100
    adminPort := 9443
    usersTimeout := 60
    storageTimeout := 200
    region := "us-east-1" }

/-- The number that a variable holds, if it is at most `bound`. -/
def readVariable (bound : Nat) (value : String) : Option Nat :=
  match Numeral.readSigned bound (Text.trim value.toList) with
  | .ok n => some n
  | .error _ => none

/-- The settings that the variables give, where `env` holds their values. -/
def ofEnvironment (env : String → Option String) : Settings :=
  let number (bound : Nat) (name : String) : Option Nat := (env name).bind (readVariable bound)
  let word (name : String) (value : UInt64) : UInt64 :=
    ((number 0xFFFFFFFFFFFFFFFF name).map UInt64.ofNat).getD value
  { logLevel := (env "LOG_LEVEL").getD standard.logLevel
    lockSlots := word "KEY_LOCK_SIZE" standard.lockSlots
    adminPort := ((number 0xFFFF "USER_ADMIN_PORT").map UInt16.ofNat).getD standard.adminPort
    usersTimeout := word "USER_CLIENT_TIMEOUT_SECS" standard.usersTimeout
    storageTimeout := word "S3_CLIENT_TIMEOUT_SECS" standard.storageTimeout
    region := (env "S3_REGION").getD standard.region }

end Settings

end BucketAccess
