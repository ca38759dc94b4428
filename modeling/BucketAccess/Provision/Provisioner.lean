import BucketAccess.LockPool
import BucketAccess.Provision.Operations
import BucketAccess.Storage.Client
import BucketAccess.Users.Client

/-!
# The provisioner

The operations over the network: secrets come from a store, and clients are those of the backends
that the secrets name. Nothing is kept between operations, which run one at a time here, so that no
lock is ever waited for.
-/

namespace BucketAccess.Provision

structure Provisioner where
  secrets : SecretStore
  settings : Settings

namespace Provisioner

/-- The number of locks. -/
def lockSlots (p : Provisioner) : Nat := (LockPool.new p.settings.lockSlots.toNat).size

def shown (p : Provisioner) : String :=
  s!"Provisioner \x7b key_lock_slots: {p.lockSlots}, .. \x7d"

def perform (p : Provisioner) : (c : Call Storage.Client Users.Client) → Program Web.http c.Reply
  | .secret name => .done (p.secrets.credentials name.scope name.name)
  | .connectStorage account => (Storage.connect (.ofCredentials account p.settings)).run
  | .connectUsers account => (Users.connect (.ofCredentials account p.settings)).run
  | .storage client c => client.perform c
  | .users client c => client.perform c
  | .lock _ | .unlock _ => .done ()

def createBucket (p : Provisioner) (r : NewBucket) : Program Web.http (Except Error String) :=
  (handleCreateBucket r).via p.perform

def deleteBucket (p : Provisioner) (bucketId : String) : Program Web.http (Except Error Unit) :=
  (handleDeleteBucket bucketId).via p.perform

def grant (p : Provisioner) (r : Grant) : Program Web.http (Except Error Granted) :=
  (handleGrant r).via p.perform

def revoke (p : Provisioner) (r : Revocation) : Program Web.http (Except Error Unit) :=
  (handleRevocation r).via p.perform

end Provisioner

end BucketAccess.Provision
