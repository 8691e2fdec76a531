/-!
# Blanks around a text

The characters with the Unicode property `White_Space`, and cutting them off both ends.
-/

namespace CallBridge.Text

def isBlank (c : Char) : Bool :=
  let n := c.toNat
  (0x09 ≤ n && n ≤ 0x0D) || n == 0x20 || n == 0x85 || n == 0xA0 || n == 0x1680 ||
  (0x2000 ≤ n && n ≤ 0x200A) || n == 0x2028 || n == 0x2029 || n == 0x202F || n == 0x205F ||
  n == 0x3000

def trim (s : String) : String :=
  String.ofList ((s.toList.dropWhile isBlank).reverse.dropWhile isBlank).reverse

/-- Lower case for the letters `A` to `Z` only. -/
def lower (s : String) : String := s.map Char.toLower

end CallBridge.Text
