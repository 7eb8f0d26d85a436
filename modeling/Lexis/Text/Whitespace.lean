import Lexis.Text.CodeRange

/-!
The property White_Space of Unicode 17: what separates tokens and belongs to none.
-/

namespace Lexis.Text

def whitespaceRanges : List CodeRange :=
  [⟨0x9, 0xD⟩, ⟨0x20, 0x20⟩, ⟨0x85, 0x85⟩, ⟨0xA0, 0xA0⟩, ⟨0x1680, 0x1680⟩, ⟨0x2000, 0x200A⟩,
   ⟨0x2028, 0x2029⟩, ⟨0x202F, 0x202F⟩, ⟨0x205F, 0x205F⟩, ⟨0x3000, 0x3000⟩]

/-- Space, tab, the line breaks and the wide or narrow spaces of other scripts. -/
def isWhitespace (c : Char) : Bool :=
  CodeRange.covers whitespaceRanges c.toNat

theorem whitespaceRanges_ascending : CodeRange.ascending whitespaceRanges = true := by
  decide +kernel

end Lexis.Text
