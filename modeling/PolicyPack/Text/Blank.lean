import PolicyPack.Text.CodeRanges

/-!
# Blank characters

White space of every script: the ASCII controls from tab to carriage return, the space, the
next-line control, the no-break spaces, the typographic spaces, the two separators and the
ideographic space.
-/

namespace PolicyPack.Text

/-- The code points that are white space. -/
def blank : CodeRanges where
  ranges := [
    (0x9, 0xd), (0x20, 0x20), (0x85, 0x85), (0xa0, 0xa0), (0x1680, 0x1680), (0x2000, 0x200a),
    (0x2028, 0x2029), (0x202f, 0x202f), (0x205f, 0x205f), (0x3000, 0x3000)]

/-- Whether the text holds nothing but white space. -/
def isBlank (s : String) : Bool := s.toList.all blank.contains

example : isBlank " \t\u00a0" = true := by decide

end PolicyPack.Text
