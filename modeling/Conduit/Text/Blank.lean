import Conduit.Text.CodePoints

/-!
# Blank text

A text is blank when it holds nothing but characters with the Unicode property `White_Space`.
-/

namespace Conduit.Text

/-- The characters with the property `White_Space`. -/
def whiteSpace : CodePoints :=
  [(0x9, 0xd), (0x20, 0x20), (0x85, 0x85), (0xa0, 0xa0), (0x1680, 0x1680), (0x2000, 0x200a),
    (0x2028, 0x2029), (0x202f, 0x202f), (0x205f, 0x205f), (0x3000, 0x3000)]

/-- Whether the text has no character outside `whiteSpace`. -/
def isBlank (text : String) : Bool :=
  text.toList.all whiteSpace.holds

example : whiteSpace.ascending = true := by decide

end Conduit.Text
