import BucketAccess.Json.Record
import BucketAccess.Json.Writer
import BucketAccess.Settings.Basic

/-!
# Settings as JSON

Settings are written as an object with all six of them, and read with all of them present.
-/

namespace BucketAccess.Settings

open Json

def json (s : Settings) : Json :=
  .object [("logLevel", .string s.logLevel), ("keyLockSize", .number (.whole s.lockSlots.toNat)),
    ("userAdminPort", .number (.whole s.adminPort.toNat)),
    ("userClientTimeoutSecs", .number (.whole s.usersTimeout.toNat)),
    ("s3ClientTimeoutSecs", .number (.whole s.storageTimeout.toNat)),
    ("s3Region", .string s.region)]

def toText (s : Settings) : String := s.json.toText

/-- Settings in part. -/
structure Parts where
  logLevel : Option String := none
  lockSlots : Option UInt64 := none
  adminPort : Option UInt16 := none
  usersTimeout : Option UInt64 := none
  storageTimeout : Option UInt64 := none
  region : Option String := none

def readWord (d : Draft) : Except Fault UInt64 := UInt64.ofNat <$> readNat 0xFFFFFFFFFFFFFFFF d

def readPort (d : Draft) : Except Fault UInt16 := UInt16.ofNat <$> readNat 0xFFFF d

def fields : List (RecordField Parts) := [
  field "logLevel" (·.logLevel) (fun p v => { p with logLevel := some v }) readString,
  field "keyLockSize" (·.lockSlots) (fun p v => { p with lockSlots := some v }) readWord,
  field "userAdminPort" (·.adminPort) (fun p v => { p with adminPort := some v }) readPort,
  field "userClientTimeoutSecs" (·.usersTimeout) (fun p v => { p with usersTimeout := some v })
    readWord,
  field "s3ClientTimeoutSecs" (·.storageTimeout) (fun p v => { p with storageTimeout := some v })
    readWord,
  field "s3Region" (·.region) (fun p v => { p with region := some v }) readString]

def Parts.settings? (p : Parts) : Option Settings := do
  return ⟨← p.logLevel, ← p.lockSlots, ← p.adminPort, ← p.usersTimeout, ← p.storageTimeout,
    ← p.region⟩

def ofText (s : String) : Except Fault Settings :=
  readText (readRecord fields {} Parts.settings?) s

end BucketAccess.Settings
