/-!
# Order of texts

Texts in the order of a dictionary, character by character, which is also the order of their bytes.
-/

namespace BucketAccess.Text

/-- `s` does not come after `t`. -/
def lexLE : List Char → List Char → Bool
  | [], _ => true
  | _ :: _, [] => false
  | a :: s, b :: t => if a = b then lexLE s t else decide (a.toNat < b.toNat)

end BucketAccess.Text
