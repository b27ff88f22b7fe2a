namespace PropertyTemplates.Text

-- The white space of the Unicode standard: the characters with the property White_Space.
def isBlank (c : Char) : Bool :=
  let n := c.toNat
  (9 ≤ n && n ≤ 13) || n == 0x20 || n == 0x85 || n == 0xa0 || n == 0x1680 ||
    (0x2000 ≤ n && n ≤ 0x200a) || n == 0x2028 || n == 0x2029 || n == 0x202f || n == 0x205f ||
    n == 0x3000

def skipBlanks (cs : List Char) : List Char := cs.dropWhile isBlank

-- A text without any visible character.
def isBlankText (s : String) : Bool := s.toList.all isBlank

end PropertyTemplates.Text
