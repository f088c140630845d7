import PigLatin.Unicode.RangeTable

/-!
# White space

The property `White_Space`: the blanks of ASCII, the line and paragraph separators, the no-break
spaces and the spaces of general category Zs. Zero-width characters are not in it.
-/

namespace PigLatin.Unicode

/-- The code points with the property `White_Space`. -/
def whiteSpaceRanges : RangeTable := [
  (0x9, 0xd), (0x20, 0x20), (0x85, 0x85), (0xa0, 0xa0), (0x1680, 0x1680), (0x2000, 0x200a),
  (0x2028, 0x2029), (0x202f, 0x202f), (0x205f, 0x205f), (0x3000, 0x3000)]

/-- The character has the property `White_Space`. -/
def isWhiteSpace (c : Char) : Bool := whiteSpaceRanges.contains c

end PigLatin.Unicode
