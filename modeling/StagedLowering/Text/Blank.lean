/-! White space and the trimming of texts. -/
namespace StagedLowering.Text

/-- The 25 characters with the Unicode property `White_Space`. -/
def isBlank (c : Char) : Bool :=
  let n := c.toNat
  (0x9 ≤ n && n ≤ 0xD) || n == 0x20 || n == 0x85 || n == 0xA0 || n == 0x1680 ||
    (0x2000 ≤ n && n ≤ 0x200A) || n == 0x2028 || n == 0x2029 || n == 0x202F || n == 0x205F ||
    n == 0x3000

/-- Drops the characters at both ends that satisfy `p`. -/
def stripChars (p : Char → Bool) (cs : List Char) : List Char :=
  ((cs.dropWhile p).reverse.dropWhile p).reverse

/-- Drops white space at both ends. -/
def trim (s : String) : String := String.ofList (stripChars isBlank s.toList)

/-- A text without a visible character: empty or all white space. -/
def isVoid (s : String) : Bool := s.toList.all isBlank

end StagedLowering.Text
