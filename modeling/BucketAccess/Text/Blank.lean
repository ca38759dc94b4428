/-!
# White space

The characters with the Unicode property White_Space, and what the program does with them: cut them
from the ends of a text, and write one space for each run of them.
-/

namespace BucketAccess.Text

def isBlank (c : Char) : Bool :=
  let n := c.toNat
  (9 ≤ n && n ≤ 13) || n == 0x20 || n == 0x85 || n == 0xA0 || n == 0x1680 ||
    (0x2000 ≤ n && n ≤ 0x200A) || n == 0x2028 || n == 0x2029 || n == 0x202F || n == 0x205F ||
    n == 0x3000

def trimStart (s : List Char) : List Char := s.dropWhile isBlank

def trim (s : List Char) : List Char := (trimStart (trimStart s).reverse).reverse

/-- One space for each run of blanks; none for a run that continues the blank before. -/
def collapseFrom (afterBlank : Bool) : List Char → List Char
  | [] => []
  | c :: r =>
    if isBlank c then
      if afterBlank then collapseFrom true r else ' ' :: collapseFrom true r
    else c :: collapseFrom false r

def collapse (s : List Char) : List Char := collapseFrom false s

end BucketAccess.Text
