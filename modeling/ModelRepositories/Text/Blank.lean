import ModelRepositories.Text.Ranges

/-!
Blank characters: the property White_Space of Unicode. U+200B and U+FEFF do not have it.
-/

namespace ModelRepositories.Text

def blankRanges : Ranges := [
  (0x09, 0x0D), (0x20, 0x20), (0x85, 0x85), (0xA0, 0xA0), (0x1680, 0x1680), (0x2000, 0x200A),
  (0x2028, 0x2029), (0x202F, 0x202F), (0x205F, 0x205F), (0x3000, 0x3000)]

def isBlank (c : Char) : Bool :=
  blankRanges.includes c.toNat

def isBlankLine (line : List Char) : Bool :=
  line.all isBlank

theorem isBlankLine_append (left right : List Char) :
    isBlankLine (left ++ right) = (isBlankLine left && isBlankLine right) := by
  simp [isBlankLine]

end ModelRepositories.Text
