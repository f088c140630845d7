/-!
# Text as bytes

The bytes of text in UTF-8, which tell texts apart and put them in order.
-/

namespace PigLatin.Text

/-- The bytes of the text in UTF-8. -/
def bytes (s : String) : List UInt8 := s.toByteArray.data.toList

theorem bytes_inj {s t : String} : bytes s = bytes t ↔ s = t := by
  constructor
  · intro h
    exact String.toByteArray_inj.1 (ByteArray.ext (Array.ext' h))
  · rintro rfl
    rfl

/-- Of two different texts, the one that does not come first comes second. -/
theorem bytes_lt_of_not_lt {s t : String} (hne : s ≠ t) (hnlt : ¬bytes s < bytes t) :
    bytes t < bytes s := by
  rcases Std.lt_trichotomy (bytes s) (bytes t) with h | h | h
  · exact absurd h hnlt
  · exact absurd (bytes_inj.1 h) hne
  · exact h

end PigLatin.Text
