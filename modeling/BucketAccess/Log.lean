/-!
# Log events

What the service tells its operators: a level, a fixed message and named fields.
-/

namespace BucketAccess.Log

inductive Level where
  | debug
  | info
  | warn
  | error
  deriving DecidableEq, Repr

inductive Value where
  | text (s : String)
  | count (n : Nat)
  deriving DecidableEq, Repr

structure Event where
  level : Level
  message : String
  fields : List (String × Value)
  deriving DecidableEq, Repr

def texts (fields : List (String × String)) : List (String × Value) :=
  fields.map fun f => (f.1, .text f.2)

end BucketAccess.Log
