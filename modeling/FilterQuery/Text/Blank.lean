import FilterQuery.Text.CodeRange

/-!
# Blank characters

A number may stand between blanks.  Blank is what Unicode lists as `White_Space`: the ASCII
blanks with the vertical tab and the form feed, the next-line control, the no-break space, the
spaces of the general punctuation block with its line and paragraph separators, and the
ideographic space.  The zero-width space and the byte order mark are not on that list.
-/

namespace FilterQuery.Text

/-- The characters with the property `White_Space`. -/
def blankRanges : List CodeRange :=
  [⟨0x09, 0x0D⟩, ⟨0x20, 0x20⟩, ⟨0x85, 0x85⟩, ⟨0xA0, 0xA0⟩, ⟨0x1680, 0x1680⟩, ⟨0x2000, 0x200A⟩,
    ⟨0x2028, 0x2029⟩, ⟨0x202F, 0x202F⟩, ⟨0x205F, 0x205F⟩, ⟨0x3000, 0x3000⟩]

/-- Whether a character is blank. -/
def isBlank (c : Char) : Bool :=
  isIn blankRanges c

/-- A text without the blanks at its two ends. -/
def trim (text : Text) : Text :=
  ((text.dropWhile isBlank).reverse.dropWhile isBlank).reverse

end FilterQuery.Text
