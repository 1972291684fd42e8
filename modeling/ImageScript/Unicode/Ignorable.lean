-- The characters that leave no trace where they are not supported, such as
-- joiners, variation selectors and the fillers of Hangul syllables.  The
-- ranges are those of Unicode 17.0, and of the versions before it since 15.0.
import ImageScript.Unicode.Ranges

namespace ImageScript.Unicode

/-- The code points with the property Default_Ignorable_Code_Point. -/
def ignorableRanges : Ranges :=
  [(0x00ad, 0x00ad), (0x034f, 0x034f), (0x061c, 0x061c), (0x115f, 0x1160), (0x17b4, 0x17b5),
   (0x180b, 0x180f), (0x200b, 0x200f), (0x202a, 0x202e), (0x2060, 0x206f), (0x3164, 0x3164),
   (0xfe00, 0xfe0f), (0xfeff, 0xfeff), (0xffa0, 0xffa0), (0xfff0, 0xfff8), (0x1bca0, 0x1bca3),
   (0x1d173, 0x1d17a), (0xe0000, 0xe0fff)]

/-- The character leaves no trace of its own. -/
def isIgnorable (c : Char) : Bool :=
  ignorableRanges.covers c

end ImageScript.Unicode
