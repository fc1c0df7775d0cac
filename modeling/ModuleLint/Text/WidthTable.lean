import ModuleLint.Text.CodePoint

/-!
# Columns that characters take on a terminal

Two enumerated properties: the characters that take no column because they have no form of their own
or combine with the one before them, and the characters of East Asian scripts and the pictographs
that take two.
-/

set_option autoImplicit false

namespace ModuleLint.Text

/-- The code points from U+0300 on that take no column, in increasing order. -/
def zeroWidthRuns : List Run := [
  ⟨0x300, 0x36F, 1⟩, ⟨0x483, 0x489, 1⟩, ⟨0x70F, 0x70F, 1⟩, ⟨0x7EB, 0x7F3, 1⟩, ⟨0xC00, 0xC00, 1⟩,
  ⟨0xC04, 0xC04, 1⟩, ⟨0xCF3, 0xCF3, 1⟩, ⟨0xD00, 0xD01, 1⟩, ⟨0x135D, 0x135F, 1⟩,
  ⟨0x180B, 0x180E, 1⟩, ⟨0x1A7F, 0x1A7F, 1⟩, ⟨0x1AB0, 0x1ACE, 1⟩, ⟨0x1B6B, 0x1B73, 1⟩,
  ⟨0x1DC0, 0x1DFF, 1⟩, ⟨0x200B, 0x200F, 1⟩, ⟨0x2028, 0x202E, 1⟩, ⟨0x206A, 0x206F, 1⟩,
  ⟨0x20D0, 0x20F0, 1⟩, ⟨0x2CEF, 0x2CF1, 1⟩, ⟨0x2DE0, 0x2DFF, 1⟩, ⟨0x3099, 0x309A, 1⟩,
  ⟨0xA66F, 0xA672, 1⟩, ⟨0xA674, 0xA67D, 1⟩, ⟨0xA69E, 0xA69F, 1⟩, ⟨0xA6F0, 0xA6F1, 1⟩,
  ⟨0xA8E0, 0xA8F1, 1⟩, ⟨0xFE20, 0xFE2F, 1⟩, ⟨0xFEFF, 0xFEFF, 1⟩,
  ⟨0xFFF9, 0xFFFB, 1⟩, ⟨0xFFFE, 0xFFFF, 1⟩, ⟨0x101FD, 0x101FD, 1⟩, ⟨0x10376, 0x1037A, 1⟩,
  ⟨0x10EAB, 0x10EAC, 1⟩, ⟨0x10F46, 0x10F50, 1⟩, ⟨0x10F82, 0x10F85, 1⟩, ⟨0x11300, 0x11301, 1⟩,
  ⟨0x1133B, 0x1133C, 1⟩, ⟨0x11366, 0x1136C, 1⟩, ⟨0x11370, 0x11374, 1⟩, ⟨0x16AF0, 0x16AF4, 1⟩,
  ⟨0x1CF00, 0x1CF2D, 1⟩, ⟨0x1CF30, 0x1CF46, 1⟩, ⟨0x1D165, 0x1D169, 1⟩, ⟨0x1D16D, 0x1D172, 1⟩,
  ⟨0x1D17B, 0x1D182, 1⟩, ⟨0x1D185, 0x1D18B, 1⟩, ⟨0x1D1AA, 0x1D1AD, 1⟩, ⟨0x1D242, 0x1D244, 1⟩,
  ⟨0x1E000, 0x1E006, 1⟩, ⟨0x1E008, 0x1E018, 1⟩, ⟨0x1E01B, 0x1E021, 1⟩, ⟨0x1E023, 0x1E024, 1⟩,
  ⟨0x1E026, 0x1E02A, 1⟩, ⟨0x1E08F, 0x1E08F, 1⟩, ⟨0x1E8D0, 0x1E8D6, 1⟩]

/-- The code points that take two columns unless they take none, in increasing order. -/
def doubleWidthRuns : List Run := [
  ⟨0x1100, 0x115F, 1⟩, ⟨0x231A, 0x231B, 1⟩, ⟨0x2329, 0x232A, 1⟩, ⟨0x23E9, 0x23EC, 1⟩,
  ⟨0x23F0, 0x23F0, 1⟩, ⟨0x23F3, 0x23F3, 1⟩, ⟨0x25FD, 0x25FE, 1⟩, ⟨0x2614, 0x2615, 1⟩,
  ⟨0x2648, 0x2653, 1⟩, ⟨0x267F, 0x267F, 1⟩, ⟨0x2693, 0x2693, 1⟩, ⟨0x26A1, 0x26A1, 1⟩,
  ⟨0x26AA, 0x26AB, 1⟩, ⟨0x26BD, 0x26BE, 1⟩, ⟨0x26C4, 0x26C5, 1⟩, ⟨0x26CE, 0x26CE, 1⟩,
  ⟨0x26D4, 0x26D4, 1⟩, ⟨0x26EA, 0x26EA, 1⟩, ⟨0x26F2, 0x26F3, 1⟩, ⟨0x26F5, 0x26F5, 1⟩,
  ⟨0x26FA, 0x26FA, 1⟩, ⟨0x26FD, 0x26FD, 1⟩, ⟨0x2705, 0x2705, 1⟩, ⟨0x270A, 0x270B, 1⟩,
  ⟨0x2728, 0x2728, 1⟩, ⟨0x274C, 0x274C, 1⟩, ⟨0x274E, 0x274E, 1⟩, ⟨0x2753, 0x2755, 1⟩,
  ⟨0x2757, 0x2757, 1⟩, ⟨0x2795, 0x2797, 1⟩, ⟨0x27B0, 0x27B0, 1⟩, ⟨0x27BF, 0x27BF, 1⟩,
  ⟨0x2B1B, 0x2B1C, 1⟩, ⟨0x2B50, 0x2B50, 1⟩, ⟨0x2B55, 0x2B55, 1⟩, ⟨0x2E80, 0x2E99, 1⟩,
  ⟨0x2E9B, 0x2EF3, 1⟩, ⟨0x2F00, 0x2FD5, 1⟩, ⟨0x2FF0, 0x303E, 1⟩, ⟨0x3041, 0x3096, 1⟩,
  ⟨0x3099, 0x30FF, 1⟩, ⟨0x3105, 0x312F, 1⟩, ⟨0x3131, 0x318E, 1⟩, ⟨0x3190, 0x31E3, 1⟩,
  ⟨0x31EF, 0x321E, 1⟩, ⟨0x3220, 0x3247, 1⟩, ⟨0x3250, 0x4DBF, 1⟩, ⟨0x4E00, 0xA48C, 1⟩,
  ⟨0xA490, 0xA4C6, 1⟩, ⟨0xA960, 0xA97C, 1⟩, ⟨0xAC00, 0xD7A3, 1⟩, ⟨0xF900, 0xFAFF, 1⟩,
  ⟨0xFE10, 0xFE19, 1⟩, ⟨0xFE30, 0xFE52, 1⟩, ⟨0xFE54, 0xFE66, 1⟩, ⟨0xFE68, 0xFE6B, 1⟩,
  ⟨0xFF01, 0xFF60, 1⟩, ⟨0xFFE0, 0xFFE6, 1⟩, ⟨0x16FE0, 0x16FE4, 1⟩, ⟨0x16FF0, 0x16FF1, 1⟩,
  ⟨0x17000, 0x187F7, 1⟩, ⟨0x18800, 0x18CD5, 1⟩, ⟨0x18D00, 0x18D08, 1⟩, ⟨0x1AFF0, 0x1AFF3, 1⟩,
  ⟨0x1AFF5, 0x1AFFB, 1⟩, ⟨0x1AFFD, 0x1AFFE, 1⟩, ⟨0x1B000, 0x1B122, 1⟩, ⟨0x1B132, 0x1B132, 1⟩,
  ⟨0x1B150, 0x1B152, 1⟩, ⟨0x1B155, 0x1B155, 1⟩, ⟨0x1B164, 0x1B167, 1⟩, ⟨0x1B170, 0x1B2FB, 1⟩,
  ⟨0x1F004, 0x1F004, 1⟩, ⟨0x1F0CF, 0x1F0CF, 1⟩, ⟨0x1F18E, 0x1F18E, 1⟩, ⟨0x1F191, 0x1F19A, 1⟩,
  ⟨0x1F200, 0x1F202, 1⟩, ⟨0x1F210, 0x1F23B, 1⟩, ⟨0x1F240, 0x1F248, 1⟩, ⟨0x1F250, 0x1F251, 1⟩,
  ⟨0x1F260, 0x1F265, 1⟩, ⟨0x1F300, 0x1F320, 1⟩, ⟨0x1F32D, 0x1F335, 1⟩, ⟨0x1F337, 0x1F37C, 1⟩,
  ⟨0x1F37E, 0x1F393, 1⟩, ⟨0x1F3A0, 0x1F3CA, 1⟩, ⟨0x1F3CF, 0x1F3D3, 1⟩, ⟨0x1F3E0, 0x1F3F0, 1⟩,
  ⟨0x1F3F4, 0x1F3F4, 1⟩, ⟨0x1F3F8, 0x1F43E, 1⟩, ⟨0x1F440, 0x1F440, 1⟩, ⟨0x1F442, 0x1F4FC, 1⟩,
  ⟨0x1F4FF, 0x1F53D, 1⟩, ⟨0x1F54B, 0x1F54E, 1⟩, ⟨0x1F550, 0x1F567, 1⟩, ⟨0x1F57A, 0x1F57A, 1⟩,
  ⟨0x1F595, 0x1F596, 1⟩, ⟨0x1F5A4, 0x1F5A4, 1⟩, ⟨0x1F5FB, 0x1F64F, 1⟩, ⟨0x1F680, 0x1F6C5, 1⟩,
  ⟨0x1F6CC, 0x1F6CC, 1⟩, ⟨0x1F6D0, 0x1F6D2, 1⟩, ⟨0x1F6D5, 0x1F6D7, 1⟩, ⟨0x1F6DC, 0x1F6DF, 1⟩,
  ⟨0x1F6EB, 0x1F6EC, 1⟩, ⟨0x1F6F4, 0x1F6FC, 1⟩, ⟨0x1F7E0, 0x1F7EB, 1⟩, ⟨0x1F7F0, 0x1F7F0, 1⟩,
  ⟨0x1F90C, 0x1F93A, 1⟩, ⟨0x1F93C, 0x1F945, 1⟩, ⟨0x1F947, 0x1F9FF, 1⟩, ⟨0x1FA70, 0x1FA7C, 1⟩,
  ⟨0x1FA80, 0x1FA88, 1⟩, ⟨0x1FA90, 0x1FABD, 1⟩, ⟨0x1FABF, 0x1FAC5, 1⟩, ⟨0x1FACE, 0x1FADB, 1⟩,
  ⟨0x1FAE0, 0x1FAE8, 1⟩, ⟨0x1FAF0, 0x1FAF8, 1⟩, ⟨0x20000, 0x2FFFD, 1⟩, ⟨0x30000, 0x3FFFD, 1⟩]

end ModuleLint.Text
