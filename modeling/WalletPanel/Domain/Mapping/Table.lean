import WalletPanel.Text.Ranges
import WalletPanel.Text.Run

/-!
# The table of characters in names

What becomes of the characters of a name before it is looked at: some are left out (`omitted`), some
may not occur although they have a shape (`refusedRanges`), and others are written with the
characters that they are variants of, small letters instead of capital ones among them. The latter
are in `variantRuns` and `variantRows` if they become one character and in `variantSpellings` if
they become several. A character that is only composed or taken apart is in none of them, since the
normal form of texts says what becomes of it.
-/

namespace WalletPanel.Domain

open Text (Ranges Run Rows)

/-- The characters that are left out. -/
def omittedRanges : Ranges := [
  (0x00AD, 0x00AD), (0x034F, 0x034F), (0x115F, 0x1160), (0x17B4, 0x17B5), (0x180B, 0x180F),
  (0x200B, 0x200B), (0x2060, 0x2064), (0x206A, 0x206F), (0x3164, 0x3164), (0xFE00, 0xFE0F),
  (0xFEFF, 0xFEFF), (0xFFA0, 0xFFA0), (0x1BCA0, 0x1BCA3), (0x1D173, 0x1D17A), (0xE0100, 0xE01EF)]

/-- The characters that have a shape and may not occur. -/
def refusedRanges : Ranges := [
  (0x2024, 0x2026), (0x2488, 0x249B), (0x2FF0, 0x2FFF), (0x31EF, 0x31EF), (0x33C2, 0x33C2),
  (0x33C7, 0x33C7), (0x33D8, 0x33D8), (0xFE12, 0xFE12), (0xFE19, 0xFE19), (0xFE30, 0xFE30),
  (0xFE52, 0xFE52), (0xFFFC, 0xFFFD), (0x1F100, 0x1F100)]

/-- The runs of characters that are written with another one. -/
def variantRuns : List Run := [
  ⟨0x0041, 26, 1, 0x0061⟩, ⟨0x00C0, 23, 1, 0x00E0⟩, ⟨0x00D8, 7, 1, 0x00F8⟩, ⟨0x0100, 24, 2, 0x0101⟩,
  ⟨0x0139, 3, 2, 0x013A⟩, ⟨0x0141, 4, 2, 0x0142⟩, ⟨0x014A, 23, 2, 0x014B⟩, ⟨0x0179, 3, 2, 0x017A⟩,
  ⟨0x01A0, 3, 2, 0x01A1⟩, ⟨0x01CD, 8, 2, 0x01CE⟩, ⟨0x01DE, 9, 2, 0x01DF⟩, ⟨0x01F8, 20, 2, 0x01F9⟩,
  ⟨0x0222, 9, 2, 0x0223⟩, ⟨0x0246, 5, 2, 0x0247⟩, ⟨0x0388, 3, 1, 0x03AD⟩, ⟨0x0391, 17, 1, 0x03B1⟩,
  ⟨0x03A3, 9, 1, 0x03C3⟩, ⟨0x03D8, 12, 2, 0x03D9⟩, ⟨0x03FD, 3, 1, 0x037B⟩, ⟨0x0400, 16, 1, 0x0450⟩,
  ⟨0x0410, 32, 1, 0x0430⟩, ⟨0x0460, 17, 2, 0x0461⟩, ⟨0x048A, 27, 2, 0x048B⟩, ⟨0x04C1, 7, 2, 0x04C2⟩,
  ⟨0x04D0, 48, 2, 0x04D1⟩, ⟨0x0531, 38, 1, 0x0561⟩, ⟨0x10A0, 38, 1, 0x2D00⟩, ⟨0x13F8, 6, 1, 0x13F0⟩,
  ⟨0x1C90, 43, 1, 0x10D0⟩, ⟨0x1CBD, 3, 1, 0x10FD⟩, ⟨0x1D31, 5, 2, 0x0065⟩, ⟨0x1D34, 4, 2, 0x0068⟩,
  ⟨0x1D5D, 3, 1, 0x03B2⟩, ⟨0x1DA4, 3, 1, 0x0268⟩, ⟨0x1DAE, 4, 1, 0x0272⟩, ⟨0x1DBC, 3, 1, 0x0290⟩,
  ⟨0x1E00, 75, 2, 0x1E01⟩, ⟨0x1EA0, 48, 2, 0x1EA1⟩, ⟨0x1F08, 8, 1, 0x1F00⟩, ⟨0x1F18, 6, 1, 0x1F10⟩,
  ⟨0x1F28, 8, 1, 0x1F20⟩, ⟨0x1F38, 8, 1, 0x1F30⟩, ⟨0x1F48, 6, 1, 0x1F40⟩, ⟨0x1F59, 4, 2, 0x1F51⟩,
  ⟨0x1F68, 8, 1, 0x1F60⟩, ⟨0x2074, 6, 1, 0x0034⟩, ⟨0x2080, 10, 1, 0x0030⟩, ⟨0x2096, 4, 1, 0x006B⟩,
  ⟨0x2119, 3, 1, 0x0070⟩, ⟨0x2135, 4, 1, 0x05D0⟩, ⟨0x2460, 9, 1, 0x0031⟩, ⟨0x24B6, 26, 1, 0x0061⟩,
  ⟨0x24D0, 26, 1, 0x0061⟩, ⟨0x2C00, 48, 1, 0x2C30⟩, ⟨0x2C67, 3, 2, 0x2C68⟩, ⟨0x2C80, 50, 2, 0x2C81⟩,
  ⟨0x3137, 3, 1, 0x1103⟩, ⟨0x313A, 6, 1, 0x11B0⟩, ⟨0x3141, 3, 1, 0x1106⟩, ⟨0x3145, 10, 1, 0x1109⟩,
  ⟨0x314F, 21, 1, 0x1161⟩, ⟨0x3178, 5, 1, 0x112B⟩, ⟨0x3184, 3, 1, 0x1157⟩, ⟨0x3263, 3, 1, 0x1105⟩,
  ⟨0x3269, 5, 1, 0x110E⟩, ⟨0x32E4, 6, 1, 0x30CA⟩, ⟨0x32EE, 5, 1, 0x30DE⟩, ⟨0x32F5, 6, 1, 0x30E8⟩,
  ⟨0x32FB, 4, 1, 0x30EF⟩, ⟨0xA640, 23, 2, 0xA641⟩, ⟨0xA680, 14, 2, 0xA681⟩, ⟨0xA722, 7, 2, 0xA723⟩,
  ⟨0xA732, 31, 2, 0xA733⟩, ⟨0xA77E, 5, 2, 0xA77F⟩, ⟨0xA796, 10, 2, 0xA797⟩, ⟨0xA7B4, 8, 2, 0xA7B5⟩,
  ⟨0xA7CC, 8, 2, 0xA7CD⟩, ⟨0xAB70, 80, 1, 0x13A0⟩, ⟨0xFB24, 3, 1, 0x05DB⟩, ⟨0xFE41, 4, 1, 0x300C⟩,
  ⟨0xFF01, 32, 1, 0x0021⟩, ⟨0xFF21, 26, 1, 0x0061⟩, ⟨0xFF3B, 36, 1, 0x005B⟩, ⟨0xFF85, 6, 1, 0x30CA⟩,
  ⟨0xFF8F, 5, 1, 0x30DE⟩, ⟨0xFF96, 6, 1, 0x30E8⟩, ⟨0xFFA7, 3, 1, 0x1103⟩, ⟨0xFFAA, 6, 1, 0x11B0⟩,
  ⟨0xFFB1, 3, 1, 0x1106⟩, ⟨0xFFB5, 10, 1, 0x1109⟩, ⟨0xFFC2, 6, 1, 0x1161⟩, ⟨0xFFCA, 6, 1, 0x1167⟩,
  ⟨0xFFD2, 6, 1, 0x116D⟩, ⟨0xFFDA, 3, 1, 0x1173⟩, ⟨0xFFE9, 4, 1, 0x2190⟩, ⟨0x10400, 40, 1, 0x10428⟩,
  ⟨0x104B0, 36, 1, 0x104D8⟩, ⟨0x10570, 19, 2, 0x10597⟩, ⟨0x10571, 5, 2, 0x10598⟩,
  ⟨0x1057D, 7, 2, 0x105A4⟩, ⟨0x1058D, 3, 2, 0x105B4⟩, ⟨0x107B6, 3, 1, 0x01C0⟩,
  ⟨0x10C80, 51, 1, 0x10CC0⟩, ⟨0x10D50, 22, 1, 0x10D70⟩, ⟨0x118A0, 32, 1, 0x118C0⟩,
  ⟨0x16E40, 32, 1, 0x16E60⟩, ⟨0x16EA0, 25, 1, 0x16EBB⟩, ⟨0x1CCD6, 26, 1, 0x0061⟩,
  ⟨0x1CCF0, 10, 1, 0x0030⟩, ⟨0x1D400, 26, 1, 0x0061⟩, ⟨0x1D41A, 26, 1, 0x0061⟩,
  ⟨0x1D434, 26, 1, 0x0061⟩, ⟨0x1D44E, 13, 2, 0x0061⟩, ⟨0x1D44F, 3, 2, 0x0062⟩,
  ⟨0x1D457, 9, 2, 0x006A⟩, ⟨0x1D468, 26, 1, 0x0061⟩, ⟨0x1D482, 26, 1, 0x0061⟩,
  ⟨0x1D4A9, 4, 1, 0x006E⟩, ⟨0x1D4AE, 8, 1, 0x0073⟩, ⟨0x1D4B6, 4, 1, 0x0061⟩,
  ⟨0x1D4BB, 11, 2, 0x0066⟩, ⟨0x1D4BE, 3, 2, 0x0069⟩, ⟨0x1D4C6, 5, 2, 0x0071⟩,
  ⟨0x1D4D0, 26, 1, 0x0061⟩, ⟨0x1D4EA, 26, 1, 0x0061⟩, ⟨0x1D505, 3, 2, 0x0062⟩,
  ⟨0x1D50D, 8, 1, 0x006A⟩, ⟨0x1D516, 7, 1, 0x0073⟩, ⟨0x1D51E, 26, 1, 0x0061⟩,
  ⟨0x1D539, 3, 2, 0x0062⟩, ⟨0x1D53C, 6, 2, 0x0065⟩, ⟨0x1D54A, 7, 1, 0x0073⟩,
  ⟨0x1D552, 26, 1, 0x0061⟩, ⟨0x1D56C, 26, 1, 0x0061⟩, ⟨0x1D586, 26, 1, 0x0061⟩,
  ⟨0x1D5A0, 26, 1, 0x0061⟩, ⟨0x1D5BA, 26, 1, 0x0061⟩, ⟨0x1D5D4, 26, 1, 0x0061⟩,
  ⟨0x1D5EE, 26, 1, 0x0061⟩, ⟨0x1D608, 26, 1, 0x0061⟩, ⟨0x1D622, 26, 1, 0x0061⟩,
  ⟨0x1D63C, 26, 1, 0x0061⟩, ⟨0x1D656, 26, 1, 0x0061⟩, ⟨0x1D670, 26, 1, 0x0061⟩,
  ⟨0x1D68A, 26, 1, 0x0061⟩, ⟨0x1D6A8, 17, 1, 0x03B1⟩, ⟨0x1D6BA, 7, 1, 0x03C3⟩,
  ⟨0x1D6C2, 17, 1, 0x03B1⟩, ⟨0x1D6D4, 7, 1, 0x03C3⟩, ⟨0x1D6E2, 17, 1, 0x03B1⟩,
  ⟨0x1D6F4, 7, 1, 0x03C3⟩, ⟨0x1D6FC, 17, 1, 0x03B1⟩, ⟨0x1D70E, 7, 1, 0x03C3⟩,
  ⟨0x1D71C, 17, 1, 0x03B1⟩, ⟨0x1D72E, 7, 1, 0x03C3⟩, ⟨0x1D736, 17, 1, 0x03B1⟩,
  ⟨0x1D748, 7, 1, 0x03C3⟩, ⟨0x1D756, 17, 1, 0x03B1⟩, ⟨0x1D768, 7, 1, 0x03C3⟩,
  ⟨0x1D770, 17, 1, 0x03B1⟩, ⟨0x1D782, 7, 1, 0x03C3⟩, ⟨0x1D790, 17, 1, 0x03B1⟩,
  ⟨0x1D7A2, 7, 1, 0x03C3⟩, ⟨0x1D7AA, 17, 1, 0x03B1⟩, ⟨0x1D7BC, 7, 1, 0x03C3⟩,
  ⟨0x1D7CE, 10, 1, 0x0030⟩, ⟨0x1D7D8, 10, 1, 0x0030⟩, ⟨0x1D7E2, 10, 1, 0x0030⟩,
  ⟨0x1D7EC, 10, 1, 0x0030⟩, ⟨0x1D7F6, 10, 1, 0x0030⟩, ⟨0x1E030, 9, 1, 0x0430⟩,
  ⟨0x1E039, 3, 1, 0x043A⟩, ⟨0x1E03C, 11, 1, 0x043E⟩, ⟨0x1E051, 9, 1, 0x0430⟩,
  ⟨0x1E05F, 6, 1, 0x0443⟩, ⟨0x1E900, 34, 1, 0x1E922⟩, ⟨0x1EE0A, 4, 1, 0x0643⟩,
  ⟨0x1EE2A, 4, 1, 0x0643⟩, ⟨0x1EE8B, 3, 1, 0x0644⟩, ⟨0x1EEAB, 3, 1, 0x0644⟩,
  ⟨0x1F130, 26, 1, 0x0061⟩, ⟨0x1FBF0, 10, 1, 0x0030⟩]

/-- The rows of characters that are written with another one. -/
def variantRows : Rows := [
  (0x00A0, [0x0020]), (0x00AA, [0x0061]), (0x00B2, [0x0032, 0x0033]), (0x00B5, [0x03BC]),
  (0x00B9, [0x0031, 0x006F]), (0x0134, [0x0135]), (0x0136, [0x0137]), (0x0178, [0x00FF]),
  (0x017F, [0x0073]), (0x0181, [0x0253, 0x0183]), (0x0184, [0x0185]), (0x0186, [0x0254, 0x0188]),
  (0x0189, [0x0256, 0x0257, 0x018C]), (0x018E, [0x01DD, 0x0259, 0x025B, 0x0192]),
  (0x0193, [0x0260, 0x0263]), (0x0196, [0x0269, 0x0268, 0x0199]), (0x019C, [0x026F, 0x0272]),
  (0x019F, [0x0275]), (0x01A6, [0x0280, 0x01A8]), (0x01A9, [0x0283]), (0x01AC, [0x01AD]),
  (0x01AE, [0x0288, 0x01B0]), (0x01B1, [0x028A, 0x028B, 0x01B4]), (0x01B5, [0x01B6]),
  (0x01B7, [0x0292, 0x01B9]), (0x01BC, [0x01BD]), (0x01F4, [0x01F5]), (0x01F6, [0x0195, 0x01BF]),
  (0x0220, [0x019E]), (0x023A, [0x2C65, 0x023C]), (0x023D, [0x019A, 0x2C66]), (0x0241, [0x0242]),
  (0x0243, [0x0180, 0x0289, 0x028C]),
  (0x02B0, [0x0068, 0x0266, 0x006A, 0x0072, 0x0279, 0x027B, 0x0281, 0x0077, 0x0079]),
  (0x02E0, [0x0263, 0x006C, 0x0073, 0x0078, 0x0295]), (0x0345, [0x03B9]), (0x0370, [0x0371]),
  (0x0372, [0x0373]), (0x0376, [0x0377]), (0x037F, [0x03F3]), (0x0386, [0x03AC]),
  (0x038C, [0x03CC]), (0x038E, [0x03CD, 0x03CE]),
  (0x03CF, [0x03D7, 0x03B2, 0x03B8, 0x03C5, 0x03CD, 0x03CB, 0x03C6, 0x03C0]),
  (0x03F0, [0x03BA, 0x03C1, 0x03C3]), (0x03F4, [0x03B8, 0x03B5]), (0x03F7, [0x03F8]),
  (0x03F9, [0x03C3, 0x03FB]), (0x04C0, [0x04CF]), (0x0F0C, [0x0F0B]), (0x10C7, [0x2D27]),
  (0x10CD, [0x2D2D]), (0x10FC, [0x10DC]),
  (0x1C80, [0x0432, 0x0434, 0x043E, 0x0441, 0x0442, 0x0442, 0x044A, 0x0463, 0xA64B, 0x1C8A]),
  (0x1D2C, [0x0061, 0x00E6, 0x0062]), (0x1D30, [0x0064]), (0x1D32, [0x01DD]), (0x1D3C, [0x006F,
    0x0223, 0x0070, 0x0072, 0x0074, 0x0075, 0x0077, 0x0061, 0x0250, 0x0251, 0x1D02, 0x0062, 0x0064,
    0x0065, 0x0259, 0x025B, 0x025C, 0x0067]), (0x1D4F, [0x006B, 0x006D, 0x014B, 0x006F, 0x0254,
    0x1D16, 0x1D17, 0x0070, 0x0074, 0x0075, 0x1D1D, 0x026F, 0x0076, 0x1D25]), (0x1D60, [0x03C6,
    0x03C7, 0x0069, 0x0072, 0x0075, 0x0076, 0x03B2, 0x03B3, 0x03C1, 0x03C6, 0x03C7]),
  (0x1D78, [0x043D]),
  (0x1D9B, [0x0252, 0x0063, 0x0255, 0x00F0, 0x025C, 0x0066, 0x025F, 0x0261, 0x0265]),
  (0x1DA7, [0x1D7B, 0x029D, 0x026D, 0x1D85, 0x029F, 0x0271, 0x0270]),
  (0x1DB2, [0x0278, 0x0282, 0x0283, 0x01AB, 0x0289, 0x028A, 0x1D1C, 0x028B, 0x028C, 0x007A]),
  (0x1DBF, [0x03B8]), (0x1E9B, [0x1E61]), (0x1E9E, [0x00DF]),
  (0x1FB8, [0x1FB0, 0x1FB1, 0x1F70, 0x03AC]), (0x1FC8, [0x1F72, 0x03AD, 0x1F74, 0x03AE]),
  (0x1FD8, [0x1FD0, 0x1FD1, 0x1F76, 0x03AF]), (0x1FE8, [0x1FE0, 0x1FE1, 0x1F7A, 0x03CD, 0x1FE5]),
  (0x1FF8, [0x1F78, 0x03CC, 0x1F7C, 0x03CE]), (0x2000, [0x0020, 0x0020, 0x0020, 0x0020, 0x0020,
    0x0020, 0x0020, 0x0020, 0x0020, 0x0020, 0x0020]), (0x2011, [0x2010]), (0x202F, [0x0020]),
  (0x205F, [0x0020]), (0x2070, [0x0030, 0x0069]),
  (0x207A, [0x002B, 0x2212, 0x003D, 0x0028, 0x0029, 0x006E]),
  (0x208A, [0x002B, 0x2212, 0x003D, 0x0028, 0x0029]),
  (0x2090, [0x0061, 0x0065, 0x006F, 0x0078, 0x0259, 0x0068]), (0x209A, [0x0070, 0x0073, 0x0074]),
  (0x2102, [0x0063]), (0x2107, [0x025B]),
  (0x210A, [0x0067, 0x0068, 0x0068, 0x0068, 0x0068, 0x0127, 0x0069, 0x0069, 0x006C, 0x006C]),
  (0x2115, [0x006E]), (0x211C, [0x0072, 0x0072]), (0x2124, [0x007A]), (0x2126, [0x03C9]),
  (0x2128, [0x007A]), (0x212A, [0x006B, 0x00E5, 0x0062, 0x0063]),
  (0x212F, [0x0065, 0x0065, 0x0066, 0x214E, 0x006D, 0x006F]), (0x2139, [0x0069]),
  (0x213C, [0x03C0, 0x03B3, 0x03B3, 0x03C0, 0x2211]),
  (0x2145, [0x0064, 0x0064, 0x0065, 0x0069, 0x006A]), (0x2160, [0x0069]), (0x2164, [0x0076]),
  (0x2169, [0x0078]), (0x216C, [0x006C, 0x0063, 0x0064, 0x006D, 0x0069]), (0x2174, [0x0076]),
  (0x2179, [0x0078]), (0x217C, [0x006C, 0x0063, 0x0064, 0x006D]), (0x2183, [0x2184]),
  (0x24EA, [0x0030]), (0x2C60, [0x2C61]), (0x2C62, [0x026B, 0x1D7D, 0x027D]),
  (0x2C6D, [0x0251, 0x0271, 0x0250, 0x0252]), (0x2C72, [0x2C73]), (0x2C75, [0x2C76]),
  (0x2C7C, [0x006A, 0x0076, 0x023F, 0x0240]), (0x2CEB, [0x2CEC]), (0x2CED, [0x2CEE]),
  (0x2CF2, [0x2CF3]), (0x2D6F, [0x2D61]), (0x2E9F, [0x6BCD]), (0x2EF3, [0x9F9F]), (0x2F00, [0x4E00,
    0x4E28, 0x4E36, 0x4E3F, 0x4E59, 0x4E85, 0x4E8C, 0x4EA0, 0x4EBA, 0x513F, 0x5165, 0x516B, 0x5182,
    0x5196, 0x51AB, 0x51E0, 0x51F5, 0x5200, 0x529B, 0x52F9, 0x5315, 0x531A, 0x5338, 0x5341, 0x535C,
    0x5369, 0x5382, 0x53B6, 0x53C8, 0x53E3, 0x56D7, 0x571F, 0x58EB, 0x5902, 0x590A, 0x5915, 0x5927,
    0x5973, 0x5B50, 0x5B80, 0x5BF8, 0x5C0F, 0x5C22, 0x5C38, 0x5C6E, 0x5C71, 0x5DDB, 0x5DE5, 0x5DF1,
    0x5DFE, 0x5E72, 0x5E7A, 0x5E7F, 0x5EF4, 0x5EFE, 0x5F0B, 0x5F13, 0x5F50, 0x5F61, 0x5F73, 0x5FC3,
    0x6208, 0x6236, 0x624B, 0x652F, 0x6534, 0x6587, 0x6597, 0x65A4, 0x65B9, 0x65E0, 0x65E5, 0x66F0,
    0x6708, 0x6728, 0x6B20, 0x6B62, 0x6B79, 0x6BB3, 0x6BCB, 0x6BD4, 0x6BDB, 0x6C0F, 0x6C14, 0x6C34,
    0x706B, 0x722A, 0x7236, 0x723B, 0x723F, 0x7247, 0x7259, 0x725B, 0x72AC, 0x7384, 0x7389, 0x74DC,
    0x74E6, 0x7518, 0x751F, 0x7528, 0x7530, 0x758B, 0x7592, 0x7676, 0x767D, 0x76AE, 0x76BF, 0x76EE,
    0x77DB, 0x77E2, 0x77F3, 0x793A, 0x79B8, 0x79BE, 0x7A74, 0x7ACB, 0x7AF9, 0x7C73, 0x7CF8, 0x7F36,
    0x7F51, 0x7F8A, 0x7FBD, 0x8001, 0x800C, 0x8012, 0x8033, 0x807F, 0x8089, 0x81E3, 0x81EA, 0x81F3,
    0x81FC, 0x820C, 0x821B, 0x821F, 0x826E, 0x8272, 0x8278, 0x864D, 0x866B, 0x8840, 0x884C, 0x8863,
    0x897E, 0x898B, 0x89D2, 0x8A00, 0x8C37, 0x8C46, 0x8C55, 0x8C78, 0x8C9D, 0x8D64, 0x8D70, 0x8DB3,
    0x8EAB, 0x8ECA, 0x8F9B, 0x8FB0, 0x8FB5, 0x9091, 0x9149, 0x91C6, 0x91CC, 0x91D1, 0x9577, 0x9580,
    0x961C, 0x96B6, 0x96B9, 0x96E8, 0x9751, 0x975E, 0x9762, 0x9769, 0x97CB, 0x97ED, 0x97F3, 0x9801,
    0x98A8, 0x98DB, 0x98DF, 0x9996, 0x9999, 0x99AC, 0x9AA8, 0x9AD8, 0x9ADF, 0x9B25, 0x9B2F, 0x9B32,
    0x9B3C, 0x9B5A, 0x9CE5, 0x9E75, 0x9E7F, 0x9EA5, 0x9EBB, 0x9EC3, 0x9ECD, 0x9ED1, 0x9EF9, 0x9EFD,
    0x9F0E, 0x9F13, 0x9F20, 0x9F3B, 0x9F4A, 0x9F52, 0x9F8D, 0x9F9C, 0x9FA0]), (0x3000, [0x0020]),
  (0x3002, [0x002E]), (0x3036, [0x3012]), (0x3038, [0x5341, 0x5344, 0x5345]),
  (0x3131, [0x1100, 0x1101, 0x11AA, 0x1102, 0x11AC, 0x11AD]), (0x3140, [0x111A]),
  (0x3144, [0x1121]), (0x3165, [0x1114, 0x1115, 0x11C7, 0x11C8, 0x11CC, 0x11CE, 0x11D3, 0x11D7,
    0x11D9, 0x111C, 0x11DD, 0x11DF, 0x111D, 0x111E, 0x1120, 0x1122, 0x1123, 0x1127, 0x1129]),
  (0x317D, [0x1132, 0x1136, 0x1140, 0x1147, 0x114C, 0x11F1, 0x11F2]),
  (0x3187, [0x1184, 0x1185, 0x1188, 0x1191, 0x1192, 0x1194, 0x119E, 0x11A1]), (0x3192, [0x4E00,
    0x4E8C, 0x4E09, 0x56DB, 0x4E0A, 0x4E2D, 0x4E0B, 0x7532, 0x4E59, 0x4E19, 0x4E01, 0x5929, 0x5730,
    0x4EBA]), (0x3244, [0x554F, 0x5E7C, 0x6587, 0x7B8F]), (0x3260, [0x1100, 0x1102, 0x1103]),
  (0x3266, [0x1109, 0x110B, 0x110C]), (0x326E, [0xAC00, 0xB098, 0xB2E4, 0xB77C, 0xB9C8, 0xBC14,
    0xC0AC, 0xC544, 0xC790, 0xCC28, 0xCE74, 0xD0C0, 0xD30C, 0xD558]), (0x327E, [0xC6B0]),
  (0x3280, [0x4E00, 0x4E8C, 0x4E09, 0x56DB, 0x4E94, 0x516D, 0x4E03, 0x516B, 0x4E5D, 0x5341, 0x6708,
    0x706B, 0x6C34, 0x6728, 0x91D1, 0x571F, 0x65E5, 0x682A, 0x6709, 0x793E, 0x540D, 0x7279, 0x8CA1,
    0x795D, 0x52B4, 0x79D8, 0x7537, 0x5973, 0x9069, 0x512A, 0x5370, 0x6CE8, 0x9805, 0x4F11, 0x5199,
    0x6B63, 0x4E0A, 0x4E2D, 0x4E0B, 0x5DE6, 0x53F3, 0x533B, 0x5B97, 0x5B66, 0x76E3, 0x4F01, 0x8CC7,
    0x5354, 0x591C]), (0x32D0, [0x30A2, 0x30A4, 0x30A6, 0x30A8, 0x30AA, 0x30AB, 0x30AD, 0x30AF,
    0x30B1, 0x30B3, 0x30B5, 0x30B7, 0x30B9, 0x30BB, 0x30BD, 0x30BF, 0x30C1, 0x30C4, 0x30C6,
    0x30C8]), (0x32EA, [0x30D2, 0x30D5, 0x30D8, 0x30DB]), (0x32F3, [0x30E4, 0x30E6]),
  (0xA69C, [0x044A, 0x044C]), (0xA770, [0xA76F]), (0xA779, [0xA77A]), (0xA77B, [0xA77C]),
  (0xA77D, [0x1D79]), (0xA78B, [0xA78C]), (0xA78D, [0x0265]), (0xA790, [0xA791]),
  (0xA792, [0xA793]), (0xA7AA, [0x0266, 0x025C, 0x0261, 0x026C, 0x026A]),
  (0xA7B0, [0x029E, 0x0287, 0x029D, 0xAB53]), (0xA7C4, [0xA794, 0x0282, 0x1D8E, 0xA7C8]),
  (0xA7C9, [0xA7CA]), (0xA7CB, [0x0264]), (0xA7DC, [0x019B]),
  (0xA7F1, [0x0073, 0x0063, 0x0066, 0x0071, 0xA7F6]), (0xA7F8, [0x0127, 0x0153]),
  (0xAB5C, [0xA727, 0xAB37, 0x026B, 0xAB52]), (0xAB69, [0x028D]),
  (0xFB20, [0x05E2, 0x05D0, 0x05D3, 0x05D4]), (0xFB27, [0x05E8, 0x05EA, 0x002B]), (0xFB50, [0x0671,
    0x0671, 0x067B, 0x067B, 0x067B, 0x067B, 0x067E, 0x067E, 0x067E, 0x067E, 0x0680, 0x0680, 0x0680,
    0x0680, 0x067A, 0x067A, 0x067A, 0x067A, 0x067F, 0x067F, 0x067F, 0x067F, 0x0679, 0x0679, 0x0679,
    0x0679, 0x06A4, 0x06A4, 0x06A4, 0x06A4, 0x06A6, 0x06A6, 0x06A6, 0x06A6, 0x0684, 0x0684, 0x0684,
    0x0684, 0x0683, 0x0683, 0x0683, 0x0683, 0x0686, 0x0686, 0x0686, 0x0686, 0x0687, 0x0687, 0x0687,
    0x0687, 0x068D, 0x068D, 0x068C, 0x068C, 0x068E, 0x068E, 0x0688, 0x0688, 0x0698, 0x0698, 0x0691,
    0x0691, 0x06A9, 0x06A9, 0x06A9, 0x06A9, 0x06AF, 0x06AF, 0x06AF, 0x06AF, 0x06B3, 0x06B3, 0x06B3,
    0x06B3, 0x06B1, 0x06B1, 0x06B1, 0x06B1, 0x06BA, 0x06BA, 0x06BB, 0x06BB, 0x06BB, 0x06BB, 0x06C0,
    0x06C0, 0x06C1, 0x06C1, 0x06C1, 0x06C1, 0x06BE, 0x06BE, 0x06BE, 0x06BE, 0x06D2, 0x06D2, 0x06D3,
    0x06D3]),
  (0xFBD3, [0x06AD, 0x06AD, 0x06AD, 0x06AD, 0x06C7, 0x06C7, 0x06C6, 0x06C6, 0x06C8, 0x06C8]),
  (0xFBDE, [0x06CB, 0x06CB, 0x06C5, 0x06C5, 0x06C9, 0x06C9, 0x06D0, 0x06D0, 0x06D0, 0x06D0, 0x0649,
    0x0649]), (0xFBFC, [0x06CC, 0x06CC, 0x06CC, 0x06CC]), (0xFE10, [0x002C, 0x3001]),
  (0xFE13, [0x003A, 0x003B, 0x0021, 0x003F, 0x3016, 0x3017]), (0xFE31, [0x2014, 0x2013, 0x005F,
    0x005F, 0x0028, 0x0029, 0x007B, 0x007D, 0x3014, 0x3015, 0x3010, 0x3011, 0x300A, 0x300B, 0x3008,
    0x3009]), (0xFE47, [0x005B, 0x005D]), (0xFE4D, [0x005F, 0x005F, 0x005F, 0x002C, 0x3001]),
  (0xFE54, [0x003B, 0x003A, 0x003F, 0x0021, 0x2014, 0x0028, 0x0029, 0x007B, 0x007D, 0x3014, 0x3015,
    0x0023, 0x0026, 0x002A, 0x002B, 0x002D, 0x003C, 0x003E, 0x003D]),
  (0xFE68, [0x005C, 0x0024, 0x0025, 0x0040]), (0xFE80, [0x0621, 0x0622, 0x0622, 0x0623, 0x0623,
    0x0624, 0x0624, 0x0625, 0x0625, 0x0626, 0x0626, 0x0626, 0x0626, 0x0627, 0x0627, 0x0628, 0x0628,
    0x0628, 0x0628, 0x0629, 0x0629, 0x062A, 0x062A, 0x062A, 0x062A, 0x062B, 0x062B, 0x062B, 0x062B,
    0x062C, 0x062C, 0x062C, 0x062C, 0x062D, 0x062D, 0x062D, 0x062D, 0x062E, 0x062E, 0x062E, 0x062E,
    0x062F, 0x062F, 0x0630, 0x0630, 0x0631, 0x0631, 0x0632, 0x0632, 0x0633, 0x0633, 0x0633, 0x0633,
    0x0634, 0x0634, 0x0634, 0x0634, 0x0635, 0x0635, 0x0635, 0x0635, 0x0636, 0x0636, 0x0636, 0x0636,
    0x0637, 0x0637, 0x0637, 0x0637, 0x0638, 0x0638, 0x0638, 0x0638, 0x0639, 0x0639, 0x0639, 0x0639,
    0x063A, 0x063A, 0x063A, 0x063A, 0x0641, 0x0641, 0x0641, 0x0641, 0x0642, 0x0642, 0x0642, 0x0642,
    0x0643, 0x0643, 0x0643, 0x0643, 0x0644, 0x0644, 0x0644, 0x0644, 0x0645, 0x0645, 0x0645, 0x0645,
    0x0646, 0x0646, 0x0646, 0x0646, 0x0647, 0x0647, 0x0647, 0x0647, 0x0648, 0x0648, 0x0649, 0x0649,
    0x064A, 0x064A, 0x064A, 0x064A]), (0xFF5F, [0x2985, 0x2986, 0x002E, 0x300C, 0x300D, 0x3001,
    0x30FB, 0x30F2, 0x30A1, 0x30A3, 0x30A5, 0x30A7, 0x30A9, 0x30E3, 0x30E5, 0x30E7, 0x30C3, 0x30FC,
    0x30A2, 0x30A4, 0x30A6, 0x30A8, 0x30AA, 0x30AB, 0x30AD, 0x30AF, 0x30B1, 0x30B3, 0x30B5, 0x30B7,
    0x30B9, 0x30BB, 0x30BD, 0x30BF, 0x30C1, 0x30C4, 0x30C6, 0x30C8]),
  (0xFF8B, [0x30D2, 0x30D5, 0x30D8, 0x30DB]), (0xFF94, [0x30E4, 0x30E6]),
  (0xFF9C, [0x30EF, 0x30F3, 0x3099, 0x309A]),
  (0xFFA1, [0x1100, 0x1101, 0x11AA, 0x1102, 0x11AC, 0x11AD]), (0xFFB0, [0x111A]),
  (0xFFB4, [0x1121]), (0xFFE0, [0x00A2, 0x00A3, 0x00AC]), (0xFFE4, [0x00A6, 0x00A5, 0x20A9]),
  (0xFFE8, [0x2502]), (0xFFED, [0x25A0, 0x25CB]), (0x10595, [0x105BC]),
  (0x10781, [0x02D0, 0x02D1, 0x00E6, 0x0299, 0x0253]), (0x10787, [0x02A3, 0xAB66, 0x02A5, 0x02A4,
    0x0256, 0x0257, 0x1D91, 0x0258, 0x025E, 0x02A9, 0x0264, 0x0262, 0x0260, 0x029B, 0x0127, 0x029C,
    0x0267, 0x0284, 0x02AA, 0x02AB, 0x026C, 0x1DF04, 0xA78E, 0x026E, 0x1DF05, 0x028E, 0x1DF06,
    0x00F8, 0x0276, 0x0277, 0x0071, 0x027A, 0x1DF08, 0x027D, 0x027E, 0x0280, 0x02A8, 0x02A6, 0xAB67,
    0x02A7, 0x0288, 0x2C71]), (0x107B2, [0x028F, 0x02A1, 0x02A2, 0x0298]),
  (0x107B9, [0x1DF0A, 0x1DF1E]), (0x1D49C, [0x0061]), (0x1D49E, [0x0063, 0x0064]),
  (0x1D4A2, [0x0067]), (0x1D4A5, [0x006A, 0x006B]), (0x1D504, [0x0061]), (0x1D508, [0x0065]),
  (0x1D50A, [0x0067]), (0x1D538, [0x0061]), (0x1D541, [0x006A]), (0x1D543, [0x006C]),
  (0x1D6A4, [0x0131, 0x0237]), (0x1D6B9, [0x03B8]), (0x1D6C1, [0x2207]), (0x1D6D3, [0x03C3]),
  (0x1D6DB, [0x2202, 0x03B5, 0x03B8, 0x03BA, 0x03C6, 0x03C1, 0x03C0]), (0x1D6F3, [0x03B8]),
  (0x1D6FB, [0x2207]), (0x1D70D, [0x03C3]),
  (0x1D715, [0x2202, 0x03B5, 0x03B8, 0x03BA, 0x03C6, 0x03C1, 0x03C0]), (0x1D72D, [0x03B8]),
  (0x1D735, [0x2207]), (0x1D747, [0x03C3]),
  (0x1D74F, [0x2202, 0x03B5, 0x03B8, 0x03BA, 0x03C6, 0x03C1, 0x03C0]), (0x1D767, [0x03B8]),
  (0x1D76F, [0x2207]), (0x1D781, [0x03C3]),
  (0x1D789, [0x2202, 0x03B5, 0x03B8, 0x03BA, 0x03C6, 0x03C1, 0x03C0]), (0x1D7A1, [0x03B8]),
  (0x1D7A9, [0x2207]), (0x1D7BB, [0x03C3]),
  (0x1D7C3, [0x2202, 0x03B5, 0x03B8, 0x03BA, 0x03C6, 0x03C1, 0x03C0, 0x03DD, 0x03DD]),
  (0x1E047, [0x044B, 0x044D, 0x044E, 0xA689, 0x04D9, 0x0456, 0x0458, 0x04E9, 0x04AF, 0x04CF]),
  (0x1E05A, [0x043A, 0x043B, 0x043E, 0x043F, 0x0441]),
  (0x1E065, [0x044A, 0x044B, 0x0491, 0x0456, 0x0455, 0x045F, 0x04AB, 0xA651, 0x04B1]),
  (0x1EE00, [0x0627, 0x0628, 0x062C, 0x062F]), (0x1EE05, [0x0648, 0x0632, 0x062D, 0x0637, 0x064A]),
  (0x1EE0E, [0x0633, 0x0639, 0x0641, 0x0635, 0x0642, 0x0631, 0x0634, 0x062A, 0x062B, 0x062E, 0x0630,
    0x0636, 0x0638, 0x063A, 0x066E, 0x06BA, 0x06A1, 0x066F]), (0x1EE21, [0x0628, 0x062C]),
  (0x1EE24, [0x0647]), (0x1EE27, [0x062D]), (0x1EE29, [0x064A]),
  (0x1EE2E, [0x0633, 0x0639, 0x0641, 0x0635, 0x0642]), (0x1EE34, [0x0634, 0x062A, 0x062B, 0x062E]),
  (0x1EE39, [0x0636]), (0x1EE3B, [0x063A]), (0x1EE42, [0x062C]), (0x1EE47, [0x062D]),
  (0x1EE49, [0x064A]), (0x1EE4B, [0x0644]), (0x1EE4D, [0x0646, 0x0633, 0x0639]),
  (0x1EE51, [0x0635, 0x0642]), (0x1EE54, [0x0634]), (0x1EE57, [0x062E]), (0x1EE59, [0x0636]),
  (0x1EE5B, [0x063A]), (0x1EE5D, [0x06BA]), (0x1EE5F, [0x066F]), (0x1EE61, [0x0628, 0x062C]),
  (0x1EE64, [0x0647]), (0x1EE67, [0x062D, 0x0637, 0x064A, 0x0643]),
  (0x1EE6C, [0x0645, 0x0646, 0x0633, 0x0639, 0x0641, 0x0635, 0x0642]),
  (0x1EE74, [0x0634, 0x062A, 0x062B, 0x062E]), (0x1EE79, [0x0636, 0x0638, 0x063A, 0x066E]),
  (0x1EE7E, [0x06A1]),
  (0x1EE80, [0x0627, 0x0628, 0x062C, 0x062F, 0x0647, 0x0648, 0x0632, 0x062D, 0x0637, 0x064A]),
  (0x1EE8E, [0x0633, 0x0639, 0x0641, 0x0635, 0x0642, 0x0631, 0x0634, 0x062A, 0x062B, 0x062E, 0x0630,
    0x0636, 0x0638, 0x063A]), (0x1EEA1, [0x0628, 0x062C, 0x062F]),
  (0x1EEA5, [0x0648, 0x0632, 0x062D, 0x0637, 0x064A]), (0x1EEAE, [0x0633, 0x0639, 0x0641, 0x0635,
    0x0642, 0x0631, 0x0634, 0x062A, 0x062B, 0x062E, 0x0630, 0x0636, 0x0638, 0x063A]),
  (0x1F12B, [0x0063, 0x0072]), (0x1F202, [0x30B5]), (0x1F210, [0x624B, 0x5B57, 0x53CC, 0x30C7,
    0x4E8C, 0x591A, 0x89E3, 0x5929, 0x4EA4, 0x6620, 0x7121, 0x6599, 0x524D, 0x5F8C, 0x518D, 0x65B0,
    0x521D, 0x7D42, 0x751F, 0x8CA9, 0x58F0, 0x5439, 0x6F14, 0x6295, 0x6355, 0x4E00, 0x4E09, 0x904A,
    0x5DE6, 0x4E2D, 0x53F3, 0x6307, 0x8D70, 0x6253, 0x7981, 0x7A7A, 0x5408, 0x6E80, 0x6709, 0x6708,
    0x7533, 0x5272, 0x55B6, 0x914D]), (0x1F250, [0x5F97, 0x53EF])]

/-- Letters and symbols that are written with several characters. -/
def letterSpellings : List (Nat × List Nat) := [
  (0x00A8, [0x0020, 0x0308]), (0x00AF, [0x0020, 0x0304]), (0x00B4, [0x0020, 0x0301]),
  (0x00B8, [0x0020, 0x0327]), (0x00BC, [0x0031, 0x2044, 0x0034]),
  (0x00BD, [0x0031, 0x2044, 0x0032]), (0x00BE, [0x0033, 0x2044, 0x0034]),
  (0x0130, [0x0069, 0x0307]), (0x0132, [0x0069, 0x006A]), (0x0133, [0x0069, 0x006A]),
  (0x013F, [0x006C, 0x00B7]), (0x0140, [0x006C, 0x00B7]), (0x0149, [0x02BC, 0x006E]),
  (0x01C4, [0x0064, 0x017E]), (0x01C5, [0x0064, 0x017E]), (0x01C6, [0x0064, 0x017E]),
  (0x01C7, [0x006C, 0x006A]), (0x01C8, [0x006C, 0x006A]), (0x01C9, [0x006C, 0x006A]),
  (0x01CA, [0x006E, 0x006A]), (0x01CB, [0x006E, 0x006A]), (0x01CC, [0x006E, 0x006A]),
  (0x01F1, [0x0064, 0x007A]), (0x01F2, [0x0064, 0x007A]), (0x01F3, [0x0064, 0x007A]),
  (0x02D8, [0x0020, 0x0306]), (0x02D9, [0x0020, 0x0307]), (0x02DA, [0x0020, 0x030A]),
  (0x02DB, [0x0020, 0x0328]), (0x02DC, [0x0020, 0x0303]), (0x02DD, [0x0020, 0x030B]),
  (0x037A, [0x0020, 0x03B9]), (0x0384, [0x0020, 0x0301]), (0x0385, [0x0020, 0x0308, 0x0301]),
  (0x0587, [0x0565, 0x0582]), (0x0675, [0x0627, 0x0674]), (0x0676, [0x0648, 0x0674]),
  (0x0677, [0x06C7, 0x0674]), (0x0678, [0x064A, 0x0674]), (0x0E33, [0x0E4D, 0x0E32]),
  (0x0EB3, [0x0ECD, 0x0EB2]), (0x0EDC, [0x0EAB, 0x0E99]), (0x0EDD, [0x0EAB, 0x0EA1]),
  (0x0F77, [0x0FB2, 0x0F71, 0x0F80]), (0x0F79, [0x0FB3, 0x0F71, 0x0F80]),
  (0x1E9A, [0x0061, 0x02BE]), (0x1F80, [0x1F00, 0x03B9]), (0x1F81, [0x1F01, 0x03B9]),
  (0x1F82, [0x1F02, 0x03B9]), (0x1F83, [0x1F03, 0x03B9]), (0x1F84, [0x1F04, 0x03B9]),
  (0x1F85, [0x1F05, 0x03B9]), (0x1F86, [0x1F06, 0x03B9]), (0x1F87, [0x1F07, 0x03B9]),
  (0x1F88, [0x1F00, 0x03B9]), (0x1F89, [0x1F01, 0x03B9]), (0x1F8A, [0x1F02, 0x03B9]),
  (0x1F8B, [0x1F03, 0x03B9]), (0x1F8C, [0x1F04, 0x03B9]), (0x1F8D, [0x1F05, 0x03B9]),
  (0x1F8E, [0x1F06, 0x03B9]), (0x1F8F, [0x1F07, 0x03B9]), (0x1F90, [0x1F20, 0x03B9]),
  (0x1F91, [0x1F21, 0x03B9]), (0x1F92, [0x1F22, 0x03B9]), (0x1F93, [0x1F23, 0x03B9]),
  (0x1F94, [0x1F24, 0x03B9]), (0x1F95, [0x1F25, 0x03B9]), (0x1F96, [0x1F26, 0x03B9]),
  (0x1F97, [0x1F27, 0x03B9]), (0x1F98, [0x1F20, 0x03B9]), (0x1F99, [0x1F21, 0x03B9]),
  (0x1F9A, [0x1F22, 0x03B9]), (0x1F9B, [0x1F23, 0x03B9]), (0x1F9C, [0x1F24, 0x03B9]),
  (0x1F9D, [0x1F25, 0x03B9]), (0x1F9E, [0x1F26, 0x03B9]), (0x1F9F, [0x1F27, 0x03B9]),
  (0x1FA0, [0x1F60, 0x03B9]), (0x1FA1, [0x1F61, 0x03B9]), (0x1FA2, [0x1F62, 0x03B9]),
  (0x1FA3, [0x1F63, 0x03B9]), (0x1FA4, [0x1F64, 0x03B9]), (0x1FA5, [0x1F65, 0x03B9]),
  (0x1FA6, [0x1F66, 0x03B9]), (0x1FA7, [0x1F67, 0x03B9]), (0x1FA8, [0x1F60, 0x03B9]),
  (0x1FA9, [0x1F61, 0x03B9]), (0x1FAA, [0x1F62, 0x03B9]), (0x1FAB, [0x1F63, 0x03B9]),
  (0x1FAC, [0x1F64, 0x03B9]), (0x1FAD, [0x1F65, 0x03B9]), (0x1FAE, [0x1F66, 0x03B9]),
  (0x1FAF, [0x1F67, 0x03B9]), (0x1FB2, [0x1F70, 0x03B9]), (0x1FB3, [0x03B1, 0x03B9]),
  (0x1FB4, [0x03AC, 0x03B9]), (0x1FB7, [0x1FB6, 0x03B9]), (0x1FBC, [0x03B1, 0x03B9]),
  (0x1FBD, [0x0020, 0x0313]), (0x1FBF, [0x0020, 0x0313]), (0x1FC0, [0x0020, 0x0342]),
  (0x1FC1, [0x0020, 0x0308, 0x0342]), (0x1FC2, [0x1F74, 0x03B9]), (0x1FC3, [0x03B7, 0x03B9]),
  (0x1FC4, [0x03AE, 0x03B9]), (0x1FC7, [0x1FC6, 0x03B9]), (0x1FCC, [0x03B7, 0x03B9]),
  (0x1FCD, [0x0020, 0x0313, 0x0300]), (0x1FCE, [0x0020, 0x0313, 0x0301]),
  (0x1FCF, [0x0020, 0x0313, 0x0342]), (0x1FDD, [0x0020, 0x0314, 0x0300]),
  (0x1FDE, [0x0020, 0x0314, 0x0301]), (0x1FDF, [0x0020, 0x0314, 0x0342]),
  (0x1FED, [0x0020, 0x0308, 0x0300]), (0x1FEE, [0x0020, 0x0308, 0x0301]),
  (0x1FF2, [0x1F7C, 0x03B9]), (0x1FF3, [0x03C9, 0x03B9]), (0x1FF4, [0x03CE, 0x03B9]),
  (0x1FF7, [0x1FF6, 0x03B9]), (0x1FFC, [0x03C9, 0x03B9]), (0x1FFD, [0x0020, 0x0301]),
  (0x1FFE, [0x0020, 0x0314]), (0x2017, [0x0020, 0x0333]), (0x2033, [0x2032, 0x2032]),
  (0x2034, [0x2032, 0x2032, 0x2032]), (0x2036, [0x2035, 0x2035]),
  (0x2037, [0x2035, 0x2035, 0x2035]), (0x203C, [0x0021, 0x0021]), (0x203E, [0x0020, 0x0305]),
  (0x2047, [0x003F, 0x003F]), (0x2048, [0x003F, 0x0021]), (0x2049, [0x0021, 0x003F]),
  (0x2057, [0x2032, 0x2032, 0x2032, 0x2032]), (0x20A8, [0x0072, 0x0073]),
  (0x2100, [0x0061, 0x002F, 0x0063]), (0x2101, [0x0061, 0x002F, 0x0073]),
  (0x2103, [0x00B0, 0x0063]), (0x2105, [0x0063, 0x002F, 0x006F]),
  (0x2106, [0x0063, 0x002F, 0x0075]), (0x2109, [0x00B0, 0x0066]), (0x2116, [0x006E, 0x006F]),
  (0x2120, [0x0073, 0x006D]), (0x2121, [0x0074, 0x0065, 0x006C]), (0x2122, [0x0074, 0x006D]),
  (0x213B, [0x0066, 0x0061, 0x0078]), (0x2150, [0x0031, 0x2044, 0x0037]),
  (0x2151, [0x0031, 0x2044, 0x0039]), (0x2152, [0x0031, 0x2044, 0x0031, 0x0030]),
  (0x2153, [0x0031, 0x2044, 0x0033]), (0x2154, [0x0032, 0x2044, 0x0033]),
  (0x2155, [0x0031, 0x2044, 0x0035]), (0x2156, [0x0032, 0x2044, 0x0035]),
  (0x2157, [0x0033, 0x2044, 0x0035]), (0x2158, [0x0034, 0x2044, 0x0035]),
  (0x2159, [0x0031, 0x2044, 0x0036]), (0x215A, [0x0035, 0x2044, 0x0036]),
  (0x215B, [0x0031, 0x2044, 0x0038]), (0x215C, [0x0033, 0x2044, 0x0038]),
  (0x215D, [0x0035, 0x2044, 0x0038]), (0x215E, [0x0037, 0x2044, 0x0038]),
  (0x215F, [0x0031, 0x2044]), (0x2161, [0x0069, 0x0069]), (0x2162, [0x0069, 0x0069, 0x0069]),
  (0x2163, [0x0069, 0x0076]), (0x2165, [0x0076, 0x0069]), (0x2166, [0x0076, 0x0069, 0x0069]),
  (0x2167, [0x0076, 0x0069, 0x0069, 0x0069]), (0x2168, [0x0069, 0x0078]),
  (0x216A, [0x0078, 0x0069]), (0x216B, [0x0078, 0x0069, 0x0069]), (0x2171, [0x0069, 0x0069]),
  (0x2172, [0x0069, 0x0069, 0x0069]), (0x2173, [0x0069, 0x0076]), (0x2175, [0x0076, 0x0069]),
  (0x2176, [0x0076, 0x0069, 0x0069]), (0x2177, [0x0076, 0x0069, 0x0069, 0x0069]),
  (0x2178, [0x0069, 0x0078]), (0x217A, [0x0078, 0x0069]), (0x217B, [0x0078, 0x0069, 0x0069]),
  (0x2189, [0x0030, 0x2044, 0x0033]), (0x222C, [0x222B, 0x222B]),
  (0x222D, [0x222B, 0x222B, 0x222B]), (0x222F, [0x222E, 0x222E]),
  (0x2230, [0x222E, 0x222E, 0x222E]), (0x2A0C, [0x222B, 0x222B, 0x222B, 0x222B]),
  (0x2A74, [0x003A, 0x003A, 0x003D]), (0x2A75, [0x003D, 0x003D]),
  (0x2A76, [0x003D, 0x003D, 0x003D]), (0x309B, [0x0020, 0x3099]), (0x309C, [0x0020, 0x309A]),
  (0x309F, [0x3088, 0x308A]), (0x30FF, [0x30B3, 0x30C8]), (0xFFE3, [0x0020, 0x0304])]

/-- Enclosed characters, and several in one square, that are written with several characters. -/
def enclosedSpellings : List (Nat × List Nat) := [
  (0x2469, [0x0031, 0x0030]), (0x246A, [0x0031, 0x0031]), (0x246B, [0x0031, 0x0032]),
  (0x246C, [0x0031, 0x0033]), (0x246D, [0x0031, 0x0034]), (0x246E, [0x0031, 0x0035]),
  (0x246F, [0x0031, 0x0036]), (0x2470, [0x0031, 0x0037]), (0x2471, [0x0031, 0x0038]),
  (0x2472, [0x0031, 0x0039]), (0x2473, [0x0032, 0x0030]), (0x2474, [0x0028, 0x0031, 0x0029]),
  (0x2475, [0x0028, 0x0032, 0x0029]), (0x2476, [0x0028, 0x0033, 0x0029]),
  (0x2477, [0x0028, 0x0034, 0x0029]), (0x2478, [0x0028, 0x0035, 0x0029]),
  (0x2479, [0x0028, 0x0036, 0x0029]), (0x247A, [0x0028, 0x0037, 0x0029]),
  (0x247B, [0x0028, 0x0038, 0x0029]), (0x247C, [0x0028, 0x0039, 0x0029]),
  (0x247D, [0x0028, 0x0031, 0x0030, 0x0029]), (0x247E, [0x0028, 0x0031, 0x0031, 0x0029]),
  (0x247F, [0x0028, 0x0031, 0x0032, 0x0029]), (0x2480, [0x0028, 0x0031, 0x0033, 0x0029]),
  (0x2481, [0x0028, 0x0031, 0x0034, 0x0029]), (0x2482, [0x0028, 0x0031, 0x0035, 0x0029]),
  (0x2483, [0x0028, 0x0031, 0x0036, 0x0029]), (0x2484, [0x0028, 0x0031, 0x0037, 0x0029]),
  (0x2485, [0x0028, 0x0031, 0x0038, 0x0029]), (0x2486, [0x0028, 0x0031, 0x0039, 0x0029]),
  (0x2487, [0x0028, 0x0032, 0x0030, 0x0029]), (0x249C, [0x0028, 0x0061, 0x0029]),
  (0x249D, [0x0028, 0x0062, 0x0029]), (0x249E, [0x0028, 0x0063, 0x0029]),
  (0x249F, [0x0028, 0x0064, 0x0029]), (0x24A0, [0x0028, 0x0065, 0x0029]),
  (0x24A1, [0x0028, 0x0066, 0x0029]), (0x24A2, [0x0028, 0x0067, 0x0029]),
  (0x24A3, [0x0028, 0x0068, 0x0029]), (0x24A4, [0x0028, 0x0069, 0x0029]),
  (0x24A5, [0x0028, 0x006A, 0x0029]), (0x24A6, [0x0028, 0x006B, 0x0029]),
  (0x24A7, [0x0028, 0x006C, 0x0029]), (0x24A8, [0x0028, 0x006D, 0x0029]),
  (0x24A9, [0x0028, 0x006E, 0x0029]), (0x24AA, [0x0028, 0x006F, 0x0029]),
  (0x24AB, [0x0028, 0x0070, 0x0029]), (0x24AC, [0x0028, 0x0071, 0x0029]),
  (0x24AD, [0x0028, 0x0072, 0x0029]), (0x24AE, [0x0028, 0x0073, 0x0029]),
  (0x24AF, [0x0028, 0x0074, 0x0029]), (0x24B0, [0x0028, 0x0075, 0x0029]),
  (0x24B1, [0x0028, 0x0076, 0x0029]), (0x24B2, [0x0028, 0x0077, 0x0029]),
  (0x24B3, [0x0028, 0x0078, 0x0029]), (0x24B4, [0x0028, 0x0079, 0x0029]),
  (0x24B5, [0x0028, 0x007A, 0x0029]), (0x3200, [0x0028, 0x1100, 0x0029]),
  (0x3201, [0x0028, 0x1102, 0x0029]), (0x3202, [0x0028, 0x1103, 0x0029]),
  (0x3203, [0x0028, 0x1105, 0x0029]), (0x3204, [0x0028, 0x1106, 0x0029]),
  (0x3205, [0x0028, 0x1107, 0x0029]), (0x3206, [0x0028, 0x1109, 0x0029]),
  (0x3207, [0x0028, 0x110B, 0x0029]), (0x3208, [0x0028, 0x110C, 0x0029]),
  (0x3209, [0x0028, 0x110E, 0x0029]), (0x320A, [0x0028, 0x110F, 0x0029]),
  (0x320B, [0x0028, 0x1110, 0x0029]), (0x320C, [0x0028, 0x1111, 0x0029]),
  (0x320D, [0x0028, 0x1112, 0x0029]), (0x320E, [0x0028, 0xAC00, 0x0029]),
  (0x320F, [0x0028, 0xB098, 0x0029]), (0x3210, [0x0028, 0xB2E4, 0x0029]),
  (0x3211, [0x0028, 0xB77C, 0x0029]), (0x3212, [0x0028, 0xB9C8, 0x0029]),
  (0x3213, [0x0028, 0xBC14, 0x0029]), (0x3214, [0x0028, 0xC0AC, 0x0029]),
  (0x3215, [0x0028, 0xC544, 0x0029]), (0x3216, [0x0028, 0xC790, 0x0029]),
  (0x3217, [0x0028, 0xCC28, 0x0029]), (0x3218, [0x0028, 0xCE74, 0x0029]),
  (0x3219, [0x0028, 0xD0C0, 0x0029]), (0x321A, [0x0028, 0xD30C, 0x0029]),
  (0x321B, [0x0028, 0xD558, 0x0029]), (0x321C, [0x0028, 0xC8FC, 0x0029]),
  (0x321D, [0x0028, 0xC624, 0xC804, 0x0029]), (0x321E, [0x0028, 0xC624, 0xD6C4, 0x0029]),
  (0x3220, [0x0028, 0x4E00, 0x0029]), (0x3221, [0x0028, 0x4E8C, 0x0029]),
  (0x3222, [0x0028, 0x4E09, 0x0029]), (0x3223, [0x0028, 0x56DB, 0x0029]),
  (0x3224, [0x0028, 0x4E94, 0x0029]), (0x3225, [0x0028, 0x516D, 0x0029]),
  (0x3226, [0x0028, 0x4E03, 0x0029]), (0x3227, [0x0028, 0x516B, 0x0029]),
  (0x3228, [0x0028, 0x4E5D, 0x0029]), (0x3229, [0x0028, 0x5341, 0x0029]),
  (0x322A, [0x0028, 0x6708, 0x0029]), (0x322B, [0x0028, 0x706B, 0x0029]),
  (0x322C, [0x0028, 0x6C34, 0x0029]), (0x322D, [0x0028, 0x6728, 0x0029]),
  (0x322E, [0x0028, 0x91D1, 0x0029]), (0x322F, [0x0028, 0x571F, 0x0029]),
  (0x3230, [0x0028, 0x65E5, 0x0029]), (0x3231, [0x0028, 0x682A, 0x0029]),
  (0x3232, [0x0028, 0x6709, 0x0029]), (0x3233, [0x0028, 0x793E, 0x0029]),
  (0x3234, [0x0028, 0x540D, 0x0029]), (0x3235, [0x0028, 0x7279, 0x0029]),
  (0x3236, [0x0028, 0x8CA1, 0x0029]), (0x3237, [0x0028, 0x795D, 0x0029]),
  (0x3238, [0x0028, 0x52B4, 0x0029]), (0x3239, [0x0028, 0x4EE3, 0x0029]),
  (0x323A, [0x0028, 0x547C, 0x0029]), (0x323B, [0x0028, 0x5B66, 0x0029]),
  (0x323C, [0x0028, 0x76E3, 0x0029]), (0x323D, [0x0028, 0x4F01, 0x0029]),
  (0x323E, [0x0028, 0x8CC7, 0x0029]), (0x323F, [0x0028, 0x5354, 0x0029]),
  (0x3240, [0x0028, 0x796D, 0x0029]), (0x3241, [0x0028, 0x4F11, 0x0029]),
  (0x3242, [0x0028, 0x81EA, 0x0029]), (0x3243, [0x0028, 0x81F3, 0x0029]),
  (0x3250, [0x0070, 0x0074, 0x0065]), (0x3251, [0x0032, 0x0031]), (0x3252, [0x0032, 0x0032]),
  (0x3253, [0x0032, 0x0033]), (0x3254, [0x0032, 0x0034]), (0x3255, [0x0032, 0x0035]),
  (0x3256, [0x0032, 0x0036]), (0x3257, [0x0032, 0x0037]), (0x3258, [0x0032, 0x0038]),
  (0x3259, [0x0032, 0x0039]), (0x325A, [0x0033, 0x0030]), (0x325B, [0x0033, 0x0031]),
  (0x325C, [0x0033, 0x0032]), (0x325D, [0x0033, 0x0033]), (0x325E, [0x0033, 0x0034]),
  (0x325F, [0x0033, 0x0035]), (0x327C, [0xCC38, 0xACE0]), (0x327D, [0xC8FC, 0xC758]),
  (0x32B1, [0x0033, 0x0036]), (0x32B2, [0x0033, 0x0037]), (0x32B3, [0x0033, 0x0038]),
  (0x32B4, [0x0033, 0x0039]), (0x32B5, [0x0034, 0x0030]), (0x32B6, [0x0034, 0x0031]),
  (0x32B7, [0x0034, 0x0032]), (0x32B8, [0x0034, 0x0033]), (0x32B9, [0x0034, 0x0034]),
  (0x32BA, [0x0034, 0x0035]), (0x32BB, [0x0034, 0x0036]), (0x32BC, [0x0034, 0x0037]),
  (0x32BD, [0x0034, 0x0038]), (0x32BE, [0x0034, 0x0039]), (0x32BF, [0x0035, 0x0030]),
  (0x32C0, [0x0031, 0x6708]), (0x32C1, [0x0032, 0x6708]), (0x32C2, [0x0033, 0x6708]),
  (0x32C3, [0x0034, 0x6708]), (0x32C4, [0x0035, 0x6708]), (0x32C5, [0x0036, 0x6708]),
  (0x32C6, [0x0037, 0x6708]), (0x32C7, [0x0038, 0x6708]), (0x32C8, [0x0039, 0x6708]),
  (0x32C9, [0x0031, 0x0030, 0x6708]), (0x32CA, [0x0031, 0x0031, 0x6708]),
  (0x32CB, [0x0031, 0x0032, 0x6708]), (0x32CC, [0x0068, 0x0067]),
  (0x32CD, [0x0065, 0x0072, 0x0067]), (0x32CE, [0x0065, 0x0076]),
  (0x32CF, [0x006C, 0x0074, 0x0064]), (0x32FF, [0x4EE4, 0x548C]),
  (0x3300, [0x30A2, 0x30D1, 0x30FC, 0x30C8]), (0x3301, [0x30A2, 0x30EB, 0x30D5, 0x30A1]),
  (0x3302, [0x30A2, 0x30F3, 0x30DA, 0x30A2]), (0x3303, [0x30A2, 0x30FC, 0x30EB]),
  (0x3304, [0x30A4, 0x30CB, 0x30F3, 0x30B0]), (0x3305, [0x30A4, 0x30F3, 0x30C1]),
  (0x3306, [0x30A6, 0x30A9, 0x30F3]), (0x3307, [0x30A8, 0x30B9, 0x30AF, 0x30FC, 0x30C9]),
  (0x3308, [0x30A8, 0x30FC, 0x30AB, 0x30FC]), (0x3309, [0x30AA, 0x30F3, 0x30B9]),
  (0x330A, [0x30AA, 0x30FC, 0x30E0]), (0x330B, [0x30AB, 0x30A4, 0x30EA]),
  (0x330C, [0x30AB, 0x30E9, 0x30C3, 0x30C8]), (0x330D, [0x30AB, 0x30ED, 0x30EA, 0x30FC]),
  (0x330E, [0x30AC, 0x30ED, 0x30F3]), (0x330F, [0x30AC, 0x30F3, 0x30DE]),
  (0x3310, [0x30AE, 0x30AC]), (0x3311, [0x30AE, 0x30CB, 0x30FC]),
  (0x3312, [0x30AD, 0x30E5, 0x30EA, 0x30FC]), (0x3313, [0x30AE, 0x30EB, 0x30C0, 0x30FC]),
  (0x3314, [0x30AD, 0x30ED]), (0x3315, [0x30AD, 0x30ED, 0x30B0, 0x30E9, 0x30E0]),
  (0x3316, [0x30AD, 0x30ED, 0x30E1, 0x30FC, 0x30C8, 0x30EB]),
  (0x3317, [0x30AD, 0x30ED, 0x30EF, 0x30C3, 0x30C8]), (0x3318, [0x30B0, 0x30E9, 0x30E0]),
  (0x3319, [0x30B0, 0x30E9, 0x30E0, 0x30C8, 0x30F3]),
  (0x331A, [0x30AF, 0x30EB, 0x30BC, 0x30A4, 0x30ED]), (0x331B, [0x30AF, 0x30ED, 0x30FC, 0x30CD]),
  (0x331C, [0x30B1, 0x30FC, 0x30B9]), (0x331D, [0x30B3, 0x30EB, 0x30CA]),
  (0x331E, [0x30B3, 0x30FC, 0x30DD]), (0x331F, [0x30B5, 0x30A4, 0x30AF, 0x30EB]),
  (0x3320, [0x30B5, 0x30F3, 0x30C1, 0x30FC, 0x30E0]), (0x3321, [0x30B7, 0x30EA, 0x30F3, 0x30B0]),
  (0x3322, [0x30BB, 0x30F3, 0x30C1]), (0x3323, [0x30BB, 0x30F3, 0x30C8]),
  (0x3324, [0x30C0, 0x30FC, 0x30B9]), (0x3325, [0x30C7, 0x30B7]), (0x3326, [0x30C9, 0x30EB]),
  (0x3327, [0x30C8, 0x30F3]), (0x3328, [0x30CA, 0x30CE]), (0x3329, [0x30CE, 0x30C3, 0x30C8]),
  (0x332A, [0x30CF, 0x30A4, 0x30C4]), (0x332B, [0x30D1, 0x30FC, 0x30BB, 0x30F3, 0x30C8]),
  (0x332C, [0x30D1, 0x30FC, 0x30C4]), (0x332D, [0x30D0, 0x30FC, 0x30EC, 0x30EB]),
  (0x332E, [0x30D4, 0x30A2, 0x30B9, 0x30C8, 0x30EB]), (0x332F, [0x30D4, 0x30AF, 0x30EB]),
  (0x3330, [0x30D4, 0x30B3]), (0x3331, [0x30D3, 0x30EB]),
  (0x3332, [0x30D5, 0x30A1, 0x30E9, 0x30C3, 0x30C9]), (0x3333, [0x30D5, 0x30A3, 0x30FC, 0x30C8]),
  (0x3334, [0x30D6, 0x30C3, 0x30B7, 0x30A7, 0x30EB]), (0x3335, [0x30D5, 0x30E9, 0x30F3]),
  (0x3336, [0x30D8, 0x30AF, 0x30BF, 0x30FC, 0x30EB]), (0x3337, [0x30DA, 0x30BD]),
  (0x3338, [0x30DA, 0x30CB, 0x30D2]), (0x3339, [0x30D8, 0x30EB, 0x30C4]),
  (0x333A, [0x30DA, 0x30F3, 0x30B9]), (0x333B, [0x30DA, 0x30FC, 0x30B8]),
  (0x333C, [0x30D9, 0x30FC, 0x30BF]), (0x333D, [0x30DD, 0x30A4, 0x30F3, 0x30C8]),
  (0x333E, [0x30DC, 0x30EB, 0x30C8]), (0x333F, [0x30DB, 0x30F3]),
  (0x3340, [0x30DD, 0x30F3, 0x30C9]), (0x3341, [0x30DB, 0x30FC, 0x30EB]),
  (0x3342, [0x30DB, 0x30FC, 0x30F3]), (0x3343, [0x30DE, 0x30A4, 0x30AF, 0x30ED]),
  (0x3344, [0x30DE, 0x30A4, 0x30EB]), (0x3345, [0x30DE, 0x30C3, 0x30CF]),
  (0x3346, [0x30DE, 0x30EB, 0x30AF]), (0x3347, [0x30DE, 0x30F3, 0x30B7, 0x30E7, 0x30F3]),
  (0x3348, [0x30DF, 0x30AF, 0x30ED, 0x30F3]), (0x3349, [0x30DF, 0x30EA]),
  (0x334A, [0x30DF, 0x30EA, 0x30D0, 0x30FC, 0x30EB]), (0x334B, [0x30E1, 0x30AC]),
  (0x334C, [0x30E1, 0x30AC, 0x30C8, 0x30F3]), (0x334D, [0x30E1, 0x30FC, 0x30C8, 0x30EB]),
  (0x334E, [0x30E4, 0x30FC, 0x30C9]), (0x334F, [0x30E4, 0x30FC, 0x30EB]),
  (0x3350, [0x30E6, 0x30A2, 0x30F3]), (0x3351, [0x30EA, 0x30C3, 0x30C8, 0x30EB]),
  (0x3352, [0x30EA, 0x30E9]), (0x3353, [0x30EB, 0x30D4, 0x30FC]),
  (0x3354, [0x30EB, 0x30FC, 0x30D6, 0x30EB]), (0x3355, [0x30EC, 0x30E0]),
  (0x3356, [0x30EC, 0x30F3, 0x30C8, 0x30B2, 0x30F3]), (0x3357, [0x30EF, 0x30C3, 0x30C8]),
  (0x3358, [0x0030, 0x70B9]), (0x3359, [0x0031, 0x70B9]), (0x335A, [0x0032, 0x70B9]),
  (0x335B, [0x0033, 0x70B9]), (0x335C, [0x0034, 0x70B9]), (0x335D, [0x0035, 0x70B9]),
  (0x335E, [0x0036, 0x70B9]), (0x335F, [0x0037, 0x70B9]), (0x3360, [0x0038, 0x70B9]),
  (0x3361, [0x0039, 0x70B9]), (0x3362, [0x0031, 0x0030, 0x70B9]),
  (0x3363, [0x0031, 0x0031, 0x70B9]), (0x3364, [0x0031, 0x0032, 0x70B9]),
  (0x3365, [0x0031, 0x0033, 0x70B9]), (0x3366, [0x0031, 0x0034, 0x70B9]),
  (0x3367, [0x0031, 0x0035, 0x70B9]), (0x3368, [0x0031, 0x0036, 0x70B9]),
  (0x3369, [0x0031, 0x0037, 0x70B9]), (0x336A, [0x0031, 0x0038, 0x70B9]),
  (0x336B, [0x0031, 0x0039, 0x70B9]), (0x336C, [0x0032, 0x0030, 0x70B9]),
  (0x336D, [0x0032, 0x0031, 0x70B9]), (0x336E, [0x0032, 0x0032, 0x70B9]),
  (0x336F, [0x0032, 0x0033, 0x70B9]), (0x3370, [0x0032, 0x0034, 0x70B9]),
  (0x3371, [0x0068, 0x0070, 0x0061]), (0x3372, [0x0064, 0x0061]), (0x3373, [0x0061, 0x0075]),
  (0x3374, [0x0062, 0x0061, 0x0072]), (0x3375, [0x006F, 0x0076]), (0x3376, [0x0070, 0x0063]),
  (0x3377, [0x0064, 0x006D]), (0x3378, [0x0064, 0x006D, 0x0032]),
  (0x3379, [0x0064, 0x006D, 0x0033]), (0x337A, [0x0069, 0x0075]), (0x337B, [0x5E73, 0x6210]),
  (0x337C, [0x662D, 0x548C]), (0x337D, [0x5927, 0x6B63]), (0x337E, [0x660E, 0x6CBB]),
  (0x337F, [0x682A, 0x5F0F, 0x4F1A, 0x793E]), (0x3380, [0x0070, 0x0061]),
  (0x3381, [0x006E, 0x0061]), (0x3382, [0x03BC, 0x0061]), (0x3383, [0x006D, 0x0061]),
  (0x3384, [0x006B, 0x0061]), (0x3385, [0x006B, 0x0062]), (0x3386, [0x006D, 0x0062]),
  (0x3387, [0x0067, 0x0062]), (0x3388, [0x0063, 0x0061, 0x006C]),
  (0x3389, [0x006B, 0x0063, 0x0061, 0x006C]), (0x338A, [0x0070, 0x0066]),
  (0x338B, [0x006E, 0x0066]), (0x338C, [0x03BC, 0x0066]), (0x338D, [0x03BC, 0x0067]),
  (0x338E, [0x006D, 0x0067]), (0x338F, [0x006B, 0x0067]), (0x3390, [0x0068, 0x007A]),
  (0x3391, [0x006B, 0x0068, 0x007A]), (0x3392, [0x006D, 0x0068, 0x007A]),
  (0x3393, [0x0067, 0x0068, 0x007A]), (0x3394, [0x0074, 0x0068, 0x007A]),
  (0x3395, [0x03BC, 0x006C]), (0x3396, [0x006D, 0x006C]), (0x3397, [0x0064, 0x006C]),
  (0x3398, [0x006B, 0x006C]), (0x3399, [0x0066, 0x006D]), (0x339A, [0x006E, 0x006D]),
  (0x339B, [0x03BC, 0x006D]), (0x339C, [0x006D, 0x006D]), (0x339D, [0x0063, 0x006D]),
  (0x339E, [0x006B, 0x006D]), (0x339F, [0x006D, 0x006D, 0x0032]),
  (0x33A0, [0x0063, 0x006D, 0x0032]), (0x33A1, [0x006D, 0x0032]),
  (0x33A2, [0x006B, 0x006D, 0x0032]), (0x33A3, [0x006D, 0x006D, 0x0033]),
  (0x33A4, [0x0063, 0x006D, 0x0033]), (0x33A5, [0x006D, 0x0033]),
  (0x33A6, [0x006B, 0x006D, 0x0033]), (0x33A7, [0x006D, 0x2215, 0x0073]),
  (0x33A8, [0x006D, 0x2215, 0x0073, 0x0032]), (0x33A9, [0x0070, 0x0061]),
  (0x33AA, [0x006B, 0x0070, 0x0061]), (0x33AB, [0x006D, 0x0070, 0x0061]),
  (0x33AC, [0x0067, 0x0070, 0x0061]), (0x33AD, [0x0072, 0x0061, 0x0064]),
  (0x33AE, [0x0072, 0x0061, 0x0064, 0x2215, 0x0073]),
  (0x33AF, [0x0072, 0x0061, 0x0064, 0x2215, 0x0073, 0x0032]), (0x33B0, [0x0070, 0x0073]),
  (0x33B1, [0x006E, 0x0073]), (0x33B2, [0x03BC, 0x0073]), (0x33B3, [0x006D, 0x0073]),
  (0x33B4, [0x0070, 0x0076]), (0x33B5, [0x006E, 0x0076]), (0x33B6, [0x03BC, 0x0076]),
  (0x33B7, [0x006D, 0x0076]), (0x33B8, [0x006B, 0x0076]), (0x33B9, [0x006D, 0x0076]),
  (0x33BA, [0x0070, 0x0077]), (0x33BB, [0x006E, 0x0077]), (0x33BC, [0x03BC, 0x0077]),
  (0x33BD, [0x006D, 0x0077]), (0x33BE, [0x006B, 0x0077]), (0x33BF, [0x006D, 0x0077]),
  (0x33C0, [0x006B, 0x03C9]), (0x33C1, [0x006D, 0x03C9]), (0x33C3, [0x0062, 0x0071]),
  (0x33C4, [0x0063, 0x0063]), (0x33C5, [0x0063, 0x0064]),
  (0x33C6, [0x0063, 0x2215, 0x006B, 0x0067]), (0x33C8, [0x0064, 0x0062]),
  (0x33C9, [0x0067, 0x0079]), (0x33CA, [0x0068, 0x0061]), (0x33CB, [0x0068, 0x0070]),
  (0x33CC, [0x0069, 0x006E]), (0x33CD, [0x006B, 0x006B]), (0x33CE, [0x006B, 0x006D]),
  (0x33CF, [0x006B, 0x0074]), (0x33D0, [0x006C, 0x006D]), (0x33D1, [0x006C, 0x006E]),
  (0x33D2, [0x006C, 0x006F, 0x0067]), (0x33D3, [0x006C, 0x0078]), (0x33D4, [0x006D, 0x0062]),
  (0x33D5, [0x006D, 0x0069, 0x006C]), (0x33D6, [0x006D, 0x006F, 0x006C]),
  (0x33D7, [0x0070, 0x0068]), (0x33D9, [0x0070, 0x0070, 0x006D]), (0x33DA, [0x0070, 0x0072]),
  (0x33DB, [0x0073, 0x0072]), (0x33DC, [0x0073, 0x0076]), (0x33DD, [0x0077, 0x0062]),
  (0x33DE, [0x0076, 0x2215, 0x006D]), (0x33DF, [0x0061, 0x2215, 0x006D]),
  (0x33E0, [0x0031, 0x65E5]), (0x33E1, [0x0032, 0x65E5]), (0x33E2, [0x0033, 0x65E5]),
  (0x33E3, [0x0034, 0x65E5]), (0x33E4, [0x0035, 0x65E5]), (0x33E5, [0x0036, 0x65E5]),
  (0x33E6, [0x0037, 0x65E5]), (0x33E7, [0x0038, 0x65E5]), (0x33E8, [0x0039, 0x65E5]),
  (0x33E9, [0x0031, 0x0030, 0x65E5]), (0x33EA, [0x0031, 0x0031, 0x65E5]),
  (0x33EB, [0x0031, 0x0032, 0x65E5]), (0x33EC, [0x0031, 0x0033, 0x65E5]),
  (0x33ED, [0x0031, 0x0034, 0x65E5]), (0x33EE, [0x0031, 0x0035, 0x65E5]),
  (0x33EF, [0x0031, 0x0036, 0x65E5]), (0x33F0, [0x0031, 0x0037, 0x65E5]),
  (0x33F1, [0x0031, 0x0038, 0x65E5]), (0x33F2, [0x0031, 0x0039, 0x65E5]),
  (0x33F3, [0x0032, 0x0030, 0x65E5]), (0x33F4, [0x0032, 0x0031, 0x65E5]),
  (0x33F5, [0x0032, 0x0032, 0x65E5]), (0x33F6, [0x0032, 0x0033, 0x65E5]),
  (0x33F7, [0x0032, 0x0034, 0x65E5]), (0x33F8, [0x0032, 0x0035, 0x65E5]),
  (0x33F9, [0x0032, 0x0036, 0x65E5]), (0x33FA, [0x0032, 0x0037, 0x65E5]),
  (0x33FB, [0x0032, 0x0038, 0x65E5]), (0x33FC, [0x0032, 0x0039, 0x65E5]),
  (0x33FD, [0x0033, 0x0030, 0x65E5]), (0x33FE, [0x0033, 0x0031, 0x65E5]),
  (0x33FF, [0x0067, 0x0061, 0x006C]), (0x1F101, [0x0030, 0x002C]), (0x1F102, [0x0031, 0x002C]),
  (0x1F103, [0x0032, 0x002C]), (0x1F104, [0x0033, 0x002C]), (0x1F105, [0x0034, 0x002C]),
  (0x1F106, [0x0035, 0x002C]), (0x1F107, [0x0036, 0x002C]), (0x1F108, [0x0037, 0x002C]),
  (0x1F109, [0x0038, 0x002C]), (0x1F10A, [0x0039, 0x002C]), (0x1F110, [0x0028, 0x0061, 0x0029]),
  (0x1F111, [0x0028, 0x0062, 0x0029]), (0x1F112, [0x0028, 0x0063, 0x0029]),
  (0x1F113, [0x0028, 0x0064, 0x0029]), (0x1F114, [0x0028, 0x0065, 0x0029]),
  (0x1F115, [0x0028, 0x0066, 0x0029]), (0x1F116, [0x0028, 0x0067, 0x0029]),
  (0x1F117, [0x0028, 0x0068, 0x0029]), (0x1F118, [0x0028, 0x0069, 0x0029]),
  (0x1F119, [0x0028, 0x006A, 0x0029]), (0x1F11A, [0x0028, 0x006B, 0x0029]),
  (0x1F11B, [0x0028, 0x006C, 0x0029]), (0x1F11C, [0x0028, 0x006D, 0x0029]),
  (0x1F11D, [0x0028, 0x006E, 0x0029]), (0x1F11E, [0x0028, 0x006F, 0x0029]),
  (0x1F11F, [0x0028, 0x0070, 0x0029]), (0x1F120, [0x0028, 0x0071, 0x0029]),
  (0x1F121, [0x0028, 0x0072, 0x0029]), (0x1F122, [0x0028, 0x0073, 0x0029]),
  (0x1F123, [0x0028, 0x0074, 0x0029]), (0x1F124, [0x0028, 0x0075, 0x0029]),
  (0x1F125, [0x0028, 0x0076, 0x0029]), (0x1F126, [0x0028, 0x0077, 0x0029]),
  (0x1F127, [0x0028, 0x0078, 0x0029]), (0x1F128, [0x0028, 0x0079, 0x0029]),
  (0x1F129, [0x0028, 0x007A, 0x0029]), (0x1F12A, [0x3014, 0x0073, 0x3015]),
  (0x1F12D, [0x0063, 0x0064]), (0x1F12E, [0x0077, 0x007A]), (0x1F14A, [0x0068, 0x0076]),
  (0x1F14B, [0x006D, 0x0076]), (0x1F14C, [0x0073, 0x0064]), (0x1F14D, [0x0073, 0x0073]),
  (0x1F14E, [0x0070, 0x0070, 0x0076]), (0x1F14F, [0x0077, 0x0063]), (0x1F16A, [0x006D, 0x0063]),
  (0x1F16B, [0x006D, 0x0064]), (0x1F16C, [0x006D, 0x0072]), (0x1F190, [0x0064, 0x006A]),
  (0x1F200, [0x307B, 0x304B]), (0x1F201, [0x30B3, 0x30B3]), (0x1F240, [0x3014, 0x672C, 0x3015]),
  (0x1F241, [0x3014, 0x4E09, 0x3015]), (0x1F242, [0x3014, 0x4E8C, 0x3015]),
  (0x1F243, [0x3014, 0x5B89, 0x3015]), (0x1F244, [0x3014, 0x70B9, 0x3015]),
  (0x1F245, [0x3014, 0x6253, 0x3015]), (0x1F246, [0x3014, 0x76D7, 0x3015]),
  (0x1F247, [0x3014, 0x52DD, 0x3015]), (0x1F248, [0x3014, 0x6557, 0x3015])]

/-- Ligatures that are written with several characters. -/
def ligatureSpellings : List (Nat × List Nat) := [
  (0xFB00, [0x0066, 0x0066]), (0xFB01, [0x0066, 0x0069]), (0xFB02, [0x0066, 0x006C]),
  (0xFB03, [0x0066, 0x0066, 0x0069]), (0xFB04, [0x0066, 0x0066, 0x006C]),
  (0xFB05, [0x0073, 0x0074]), (0xFB06, [0x0073, 0x0074]), (0xFB13, [0x0574, 0x0576]),
  (0xFB14, [0x0574, 0x0565]), (0xFB15, [0x0574, 0x056B]), (0xFB16, [0x057E, 0x0576]),
  (0xFB17, [0x0574, 0x056D]), (0xFB4F, [0x05D0, 0x05DC]), (0xFBDD, [0x06C7, 0x0674]),
  (0xFBEA, [0x0626, 0x0627]), (0xFBEB, [0x0626, 0x0627]), (0xFBEC, [0x0626, 0x06D5]),
  (0xFBED, [0x0626, 0x06D5]), (0xFBEE, [0x0626, 0x0648]), (0xFBEF, [0x0626, 0x0648]),
  (0xFBF0, [0x0626, 0x06C7]), (0xFBF1, [0x0626, 0x06C7]), (0xFBF2, [0x0626, 0x06C6]),
  (0xFBF3, [0x0626, 0x06C6]), (0xFBF4, [0x0626, 0x06C8]), (0xFBF5, [0x0626, 0x06C8]),
  (0xFBF6, [0x0626, 0x06D0]), (0xFBF7, [0x0626, 0x06D0]), (0xFBF8, [0x0626, 0x06D0]),
  (0xFBF9, [0x0626, 0x0649]), (0xFBFA, [0x0626, 0x0649]), (0xFBFB, [0x0626, 0x0649]),
  (0xFC00, [0x0626, 0x062C]), (0xFC01, [0x0626, 0x062D]), (0xFC02, [0x0626, 0x0645]),
  (0xFC03, [0x0626, 0x0649]), (0xFC04, [0x0626, 0x064A]), (0xFC05, [0x0628, 0x062C]),
  (0xFC06, [0x0628, 0x062D]), (0xFC07, [0x0628, 0x062E]), (0xFC08, [0x0628, 0x0645]),
  (0xFC09, [0x0628, 0x0649]), (0xFC0A, [0x0628, 0x064A]), (0xFC0B, [0x062A, 0x062C]),
  (0xFC0C, [0x062A, 0x062D]), (0xFC0D, [0x062A, 0x062E]), (0xFC0E, [0x062A, 0x0645]),
  (0xFC0F, [0x062A, 0x0649]), (0xFC10, [0x062A, 0x064A]), (0xFC11, [0x062B, 0x062C]),
  (0xFC12, [0x062B, 0x0645]), (0xFC13, [0x062B, 0x0649]), (0xFC14, [0x062B, 0x064A]),
  (0xFC15, [0x062C, 0x062D]), (0xFC16, [0x062C, 0x0645]), (0xFC17, [0x062D, 0x062C]),
  (0xFC18, [0x062D, 0x0645]), (0xFC19, [0x062E, 0x062C]), (0xFC1A, [0x062E, 0x062D]),
  (0xFC1B, [0x062E, 0x0645]), (0xFC1C, [0x0633, 0x062C]), (0xFC1D, [0x0633, 0x062D]),
  (0xFC1E, [0x0633, 0x062E]), (0xFC1F, [0x0633, 0x0645]), (0xFC20, [0x0635, 0x062D]),
  (0xFC21, [0x0635, 0x0645]), (0xFC22, [0x0636, 0x062C]), (0xFC23, [0x0636, 0x062D]),
  (0xFC24, [0x0636, 0x062E]), (0xFC25, [0x0636, 0x0645]), (0xFC26, [0x0637, 0x062D]),
  (0xFC27, [0x0637, 0x0645]), (0xFC28, [0x0638, 0x0645]), (0xFC29, [0x0639, 0x062C]),
  (0xFC2A, [0x0639, 0x0645]), (0xFC2B, [0x063A, 0x062C]), (0xFC2C, [0x063A, 0x0645]),
  (0xFC2D, [0x0641, 0x062C]), (0xFC2E, [0x0641, 0x062D]), (0xFC2F, [0x0641, 0x062E]),
  (0xFC30, [0x0641, 0x0645]), (0xFC31, [0x0641, 0x0649]), (0xFC32, [0x0641, 0x064A]),
  (0xFC33, [0x0642, 0x062D]), (0xFC34, [0x0642, 0x0645]), (0xFC35, [0x0642, 0x0649]),
  (0xFC36, [0x0642, 0x064A]), (0xFC37, [0x0643, 0x0627]), (0xFC38, [0x0643, 0x062C]),
  (0xFC39, [0x0643, 0x062D]), (0xFC3A, [0x0643, 0x062E]), (0xFC3B, [0x0643, 0x0644]),
  (0xFC3C, [0x0643, 0x0645]), (0xFC3D, [0x0643, 0x0649]), (0xFC3E, [0x0643, 0x064A]),
  (0xFC3F, [0x0644, 0x062C]), (0xFC40, [0x0644, 0x062D]), (0xFC41, [0x0644, 0x062E]),
  (0xFC42, [0x0644, 0x0645]), (0xFC43, [0x0644, 0x0649]), (0xFC44, [0x0644, 0x064A]),
  (0xFC45, [0x0645, 0x062C]), (0xFC46, [0x0645, 0x062D]), (0xFC47, [0x0645, 0x062E]),
  (0xFC48, [0x0645, 0x0645]), (0xFC49, [0x0645, 0x0649]), (0xFC4A, [0x0645, 0x064A]),
  (0xFC4B, [0x0646, 0x062C]), (0xFC4C, [0x0646, 0x062D]), (0xFC4D, [0x0646, 0x062E]),
  (0xFC4E, [0x0646, 0x0645]), (0xFC4F, [0x0646, 0x0649]), (0xFC50, [0x0646, 0x064A]),
  (0xFC51, [0x0647, 0x062C]), (0xFC52, [0x0647, 0x0645]), (0xFC53, [0x0647, 0x0649]),
  (0xFC54, [0x0647, 0x064A]), (0xFC55, [0x064A, 0x062C]), (0xFC56, [0x064A, 0x062D]),
  (0xFC57, [0x064A, 0x062E]), (0xFC58, [0x064A, 0x0645]), (0xFC59, [0x064A, 0x0649]),
  (0xFC5A, [0x064A, 0x064A]), (0xFC5B, [0x0630, 0x0670]), (0xFC5C, [0x0631, 0x0670]),
  (0xFC5D, [0x0649, 0x0670]), (0xFC5E, [0x0020, 0x064C, 0x0651]),
  (0xFC5F, [0x0020, 0x064D, 0x0651]), (0xFC60, [0x0020, 0x064E, 0x0651]),
  (0xFC61, [0x0020, 0x064F, 0x0651]), (0xFC62, [0x0020, 0x0650, 0x0651]),
  (0xFC63, [0x0020, 0x0651, 0x0670]), (0xFC64, [0x0626, 0x0631]), (0xFC65, [0x0626, 0x0632]),
  (0xFC66, [0x0626, 0x0645]), (0xFC67, [0x0626, 0x0646]), (0xFC68, [0x0626, 0x0649]),
  (0xFC69, [0x0626, 0x064A]), (0xFC6A, [0x0628, 0x0631]), (0xFC6B, [0x0628, 0x0632]),
  (0xFC6C, [0x0628, 0x0645]), (0xFC6D, [0x0628, 0x0646]), (0xFC6E, [0x0628, 0x0649]),
  (0xFC6F, [0x0628, 0x064A]), (0xFC70, [0x062A, 0x0631]), (0xFC71, [0x062A, 0x0632]),
  (0xFC72, [0x062A, 0x0645]), (0xFC73, [0x062A, 0x0646]), (0xFC74, [0x062A, 0x0649]),
  (0xFC75, [0x062A, 0x064A]), (0xFC76, [0x062B, 0x0631]), (0xFC77, [0x062B, 0x0632]),
  (0xFC78, [0x062B, 0x0645]), (0xFC79, [0x062B, 0x0646]), (0xFC7A, [0x062B, 0x0649]),
  (0xFC7B, [0x062B, 0x064A]), (0xFC7C, [0x0641, 0x0649]), (0xFC7D, [0x0641, 0x064A]),
  (0xFC7E, [0x0642, 0x0649]), (0xFC7F, [0x0642, 0x064A]), (0xFC80, [0x0643, 0x0627]),
  (0xFC81, [0x0643, 0x0644]), (0xFC82, [0x0643, 0x0645]), (0xFC83, [0x0643, 0x0649]),
  (0xFC84, [0x0643, 0x064A]), (0xFC85, [0x0644, 0x0645]), (0xFC86, [0x0644, 0x0649]),
  (0xFC87, [0x0644, 0x064A]), (0xFC88, [0x0645, 0x0627]), (0xFC89, [0x0645, 0x0645]),
  (0xFC8A, [0x0646, 0x0631]), (0xFC8B, [0x0646, 0x0632]), (0xFC8C, [0x0646, 0x0645]),
  (0xFC8D, [0x0646, 0x0646]), (0xFC8E, [0x0646, 0x0649]), (0xFC8F, [0x0646, 0x064A]),
  (0xFC90, [0x0649, 0x0670]), (0xFC91, [0x064A, 0x0631]), (0xFC92, [0x064A, 0x0632]),
  (0xFC93, [0x064A, 0x0645]), (0xFC94, [0x064A, 0x0646]), (0xFC95, [0x064A, 0x0649]),
  (0xFC96, [0x064A, 0x064A]), (0xFC97, [0x0626, 0x062C]), (0xFC98, [0x0626, 0x062D]),
  (0xFC99, [0x0626, 0x062E]), (0xFC9A, [0x0626, 0x0645]), (0xFC9B, [0x0626, 0x0647]),
  (0xFC9C, [0x0628, 0x062C]), (0xFC9D, [0x0628, 0x062D]), (0xFC9E, [0x0628, 0x062E]),
  (0xFC9F, [0x0628, 0x0645]), (0xFCA0, [0x0628, 0x0647]), (0xFCA1, [0x062A, 0x062C]),
  (0xFCA2, [0x062A, 0x062D]), (0xFCA3, [0x062A, 0x062E]), (0xFCA4, [0x062A, 0x0645]),
  (0xFCA5, [0x062A, 0x0647]), (0xFCA6, [0x062B, 0x0645]), (0xFCA7, [0x062C, 0x062D]),
  (0xFCA8, [0x062C, 0x0645]), (0xFCA9, [0x062D, 0x062C]), (0xFCAA, [0x062D, 0x0645]),
  (0xFCAB, [0x062E, 0x062C]), (0xFCAC, [0x062E, 0x0645]), (0xFCAD, [0x0633, 0x062C]),
  (0xFCAE, [0x0633, 0x062D]), (0xFCAF, [0x0633, 0x062E]), (0xFCB0, [0x0633, 0x0645]),
  (0xFCB1, [0x0635, 0x062D]), (0xFCB2, [0x0635, 0x062E]), (0xFCB3, [0x0635, 0x0645]),
  (0xFCB4, [0x0636, 0x062C]), (0xFCB5, [0x0636, 0x062D]), (0xFCB6, [0x0636, 0x062E]),
  (0xFCB7, [0x0636, 0x0645]), (0xFCB8, [0x0637, 0x062D]), (0xFCB9, [0x0638, 0x0645]),
  (0xFCBA, [0x0639, 0x062C]), (0xFCBB, [0x0639, 0x0645]), (0xFCBC, [0x063A, 0x062C]),
  (0xFCBD, [0x063A, 0x0645]), (0xFCBE, [0x0641, 0x062C]), (0xFCBF, [0x0641, 0x062D]),
  (0xFCC0, [0x0641, 0x062E]), (0xFCC1, [0x0641, 0x0645]), (0xFCC2, [0x0642, 0x062D]),
  (0xFCC3, [0x0642, 0x0645]), (0xFCC4, [0x0643, 0x062C]), (0xFCC5, [0x0643, 0x062D]),
  (0xFCC6, [0x0643, 0x062E]), (0xFCC7, [0x0643, 0x0644]), (0xFCC8, [0x0643, 0x0645]),
  (0xFCC9, [0x0644, 0x062C]), (0xFCCA, [0x0644, 0x062D]), (0xFCCB, [0x0644, 0x062E]),
  (0xFCCC, [0x0644, 0x0645]), (0xFCCD, [0x0644, 0x0647]), (0xFCCE, [0x0645, 0x062C]),
  (0xFCCF, [0x0645, 0x062D]), (0xFCD0, [0x0645, 0x062E]), (0xFCD1, [0x0645, 0x0645]),
  (0xFCD2, [0x0646, 0x062C]), (0xFCD3, [0x0646, 0x062D]), (0xFCD4, [0x0646, 0x062E]),
  (0xFCD5, [0x0646, 0x0645]), (0xFCD6, [0x0646, 0x0647]), (0xFCD7, [0x0647, 0x062C]),
  (0xFCD8, [0x0647, 0x0645]), (0xFCD9, [0x0647, 0x0670]), (0xFCDA, [0x064A, 0x062C]),
  (0xFCDB, [0x064A, 0x062D]), (0xFCDC, [0x064A, 0x062E]), (0xFCDD, [0x064A, 0x0645]),
  (0xFCDE, [0x064A, 0x0647]), (0xFCDF, [0x0626, 0x0645]), (0xFCE0, [0x0626, 0x0647]),
  (0xFCE1, [0x0628, 0x0645]), (0xFCE2, [0x0628, 0x0647]), (0xFCE3, [0x062A, 0x0645]),
  (0xFCE4, [0x062A, 0x0647]), (0xFCE5, [0x062B, 0x0645]), (0xFCE6, [0x062B, 0x0647]),
  (0xFCE7, [0x0633, 0x0645]), (0xFCE8, [0x0633, 0x0647]), (0xFCE9, [0x0634, 0x0645]),
  (0xFCEA, [0x0634, 0x0647]), (0xFCEB, [0x0643, 0x0644]), (0xFCEC, [0x0643, 0x0645]),
  (0xFCED, [0x0644, 0x0645]), (0xFCEE, [0x0646, 0x0645]), (0xFCEF, [0x0646, 0x0647]),
  (0xFCF0, [0x064A, 0x0645]), (0xFCF1, [0x064A, 0x0647]), (0xFCF2, [0x0640, 0x064E, 0x0651]),
  (0xFCF3, [0x0640, 0x064F, 0x0651]), (0xFCF4, [0x0640, 0x0650, 0x0651]),
  (0xFCF5, [0x0637, 0x0649]), (0xFCF6, [0x0637, 0x064A]), (0xFCF7, [0x0639, 0x0649]),
  (0xFCF8, [0x0639, 0x064A]), (0xFCF9, [0x063A, 0x0649]), (0xFCFA, [0x063A, 0x064A]),
  (0xFCFB, [0x0633, 0x0649]), (0xFCFC, [0x0633, 0x064A]), (0xFCFD, [0x0634, 0x0649]),
  (0xFCFE, [0x0634, 0x064A]), (0xFCFF, [0x062D, 0x0649]), (0xFD00, [0x062D, 0x064A]),
  (0xFD01, [0x062C, 0x0649]), (0xFD02, [0x062C, 0x064A]), (0xFD03, [0x062E, 0x0649]),
  (0xFD04, [0x062E, 0x064A]), (0xFD05, [0x0635, 0x0649]), (0xFD06, [0x0635, 0x064A]),
  (0xFD07, [0x0636, 0x0649]), (0xFD08, [0x0636, 0x064A]), (0xFD09, [0x0634, 0x062C]),
  (0xFD0A, [0x0634, 0x062D]), (0xFD0B, [0x0634, 0x062E]), (0xFD0C, [0x0634, 0x0645]),
  (0xFD0D, [0x0634, 0x0631]), (0xFD0E, [0x0633, 0x0631]), (0xFD0F, [0x0635, 0x0631]),
  (0xFD10, [0x0636, 0x0631]), (0xFD11, [0x0637, 0x0649]), (0xFD12, [0x0637, 0x064A]),
  (0xFD13, [0x0639, 0x0649]), (0xFD14, [0x0639, 0x064A]), (0xFD15, [0x063A, 0x0649]),
  (0xFD16, [0x063A, 0x064A]), (0xFD17, [0x0633, 0x0649]), (0xFD18, [0x0633, 0x064A]),
  (0xFD19, [0x0634, 0x0649]), (0xFD1A, [0x0634, 0x064A]), (0xFD1B, [0x062D, 0x0649]),
  (0xFD1C, [0x062D, 0x064A]), (0xFD1D, [0x062C, 0x0649]), (0xFD1E, [0x062C, 0x064A]),
  (0xFD1F, [0x062E, 0x0649]), (0xFD20, [0x062E, 0x064A]), (0xFD21, [0x0635, 0x0649]),
  (0xFD22, [0x0635, 0x064A]), (0xFD23, [0x0636, 0x0649]), (0xFD24, [0x0636, 0x064A]),
  (0xFD25, [0x0634, 0x062C]), (0xFD26, [0x0634, 0x062D]), (0xFD27, [0x0634, 0x062E]),
  (0xFD28, [0x0634, 0x0645]), (0xFD29, [0x0634, 0x0631]), (0xFD2A, [0x0633, 0x0631]),
  (0xFD2B, [0x0635, 0x0631]), (0xFD2C, [0x0636, 0x0631]), (0xFD2D, [0x0634, 0x062C]),
  (0xFD2E, [0x0634, 0x062D]), (0xFD2F, [0x0634, 0x062E]), (0xFD30, [0x0634, 0x0645]),
  (0xFD31, [0x0633, 0x0647]), (0xFD32, [0x0634, 0x0647]), (0xFD33, [0x0637, 0x0645]),
  (0xFD34, [0x0633, 0x062C]), (0xFD35, [0x0633, 0x062D]), (0xFD36, [0x0633, 0x062E]),
  (0xFD37, [0x0634, 0x062C]), (0xFD38, [0x0634, 0x062D]), (0xFD39, [0x0634, 0x062E]),
  (0xFD3A, [0x0637, 0x0645]), (0xFD3B, [0x0638, 0x0645]), (0xFD3C, [0x0627, 0x064B]),
  (0xFD3D, [0x0627, 0x064B]), (0xFD50, [0x062A, 0x062C, 0x0645]),
  (0xFD51, [0x062A, 0x062D, 0x062C]), (0xFD52, [0x062A, 0x062D, 0x062C]),
  (0xFD53, [0x062A, 0x062D, 0x0645]), (0xFD54, [0x062A, 0x062E, 0x0645]),
  (0xFD55, [0x062A, 0x0645, 0x062C]), (0xFD56, [0x062A, 0x0645, 0x062D]),
  (0xFD57, [0x062A, 0x0645, 0x062E]), (0xFD58, [0x062C, 0x0645, 0x062D]),
  (0xFD59, [0x062C, 0x0645, 0x062D]), (0xFD5A, [0x062D, 0x0645, 0x064A]),
  (0xFD5B, [0x062D, 0x0645, 0x0649]), (0xFD5C, [0x0633, 0x062D, 0x062C]),
  (0xFD5D, [0x0633, 0x062C, 0x062D]), (0xFD5E, [0x0633, 0x062C, 0x0649]),
  (0xFD5F, [0x0633, 0x0645, 0x062D]), (0xFD60, [0x0633, 0x0645, 0x062D]),
  (0xFD61, [0x0633, 0x0645, 0x062C]), (0xFD62, [0x0633, 0x0645, 0x0645]),
  (0xFD63, [0x0633, 0x0645, 0x0645]), (0xFD64, [0x0635, 0x062D, 0x062D]),
  (0xFD65, [0x0635, 0x062D, 0x062D]), (0xFD66, [0x0635, 0x0645, 0x0645]),
  (0xFD67, [0x0634, 0x062D, 0x0645]), (0xFD68, [0x0634, 0x062D, 0x0645]),
  (0xFD69, [0x0634, 0x062C, 0x064A]), (0xFD6A, [0x0634, 0x0645, 0x062E]),
  (0xFD6B, [0x0634, 0x0645, 0x062E]), (0xFD6C, [0x0634, 0x0645, 0x0645]),
  (0xFD6D, [0x0634, 0x0645, 0x0645]), (0xFD6E, [0x0636, 0x062D, 0x0649]),
  (0xFD6F, [0x0636, 0x062E, 0x0645]), (0xFD70, [0x0636, 0x062E, 0x0645]),
  (0xFD71, [0x0637, 0x0645, 0x062D]), (0xFD72, [0x0637, 0x0645, 0x062D]),
  (0xFD73, [0x0637, 0x0645, 0x0645]), (0xFD74, [0x0637, 0x0645, 0x064A]),
  (0xFD75, [0x0639, 0x062C, 0x0645]), (0xFD76, [0x0639, 0x0645, 0x0645]),
  (0xFD77, [0x0639, 0x0645, 0x0645]), (0xFD78, [0x0639, 0x0645, 0x0649]),
  (0xFD79, [0x063A, 0x0645, 0x0645]), (0xFD7A, [0x063A, 0x0645, 0x064A]),
  (0xFD7B, [0x063A, 0x0645, 0x0649]), (0xFD7C, [0x0641, 0x062E, 0x0645]),
  (0xFD7D, [0x0641, 0x062E, 0x0645]), (0xFD7E, [0x0642, 0x0645, 0x062D]),
  (0xFD7F, [0x0642, 0x0645, 0x0645]), (0xFD80, [0x0644, 0x062D, 0x0645]),
  (0xFD81, [0x0644, 0x062D, 0x064A]), (0xFD82, [0x0644, 0x062D, 0x0649]),
  (0xFD83, [0x0644, 0x062C, 0x062C]), (0xFD84, [0x0644, 0x062C, 0x062C]),
  (0xFD85, [0x0644, 0x062E, 0x0645]), (0xFD86, [0x0644, 0x062E, 0x0645]),
  (0xFD87, [0x0644, 0x0645, 0x062D]), (0xFD88, [0x0644, 0x0645, 0x062D]),
  (0xFD89, [0x0645, 0x062D, 0x062C]), (0xFD8A, [0x0645, 0x062D, 0x0645]),
  (0xFD8B, [0x0645, 0x062D, 0x064A]), (0xFD8C, [0x0645, 0x062C, 0x062D]),
  (0xFD8D, [0x0645, 0x062C, 0x0645]), (0xFD8E, [0x0645, 0x062E, 0x062C]),
  (0xFD8F, [0x0645, 0x062E, 0x0645]), (0xFD92, [0x0645, 0x062C, 0x062E]),
  (0xFD93, [0x0647, 0x0645, 0x062C]), (0xFD94, [0x0647, 0x0645, 0x0645]),
  (0xFD95, [0x0646, 0x062D, 0x0645]), (0xFD96, [0x0646, 0x062D, 0x0649]),
  (0xFD97, [0x0646, 0x062C, 0x0645]), (0xFD98, [0x0646, 0x062C, 0x0645]),
  (0xFD99, [0x0646, 0x062C, 0x0649]), (0xFD9A, [0x0646, 0x0645, 0x064A]),
  (0xFD9B, [0x0646, 0x0645, 0x0649]), (0xFD9C, [0x064A, 0x0645, 0x0645]),
  (0xFD9D, [0x064A, 0x0645, 0x0645]), (0xFD9E, [0x0628, 0x062E, 0x064A]),
  (0xFD9F, [0x062A, 0x062C, 0x064A]), (0xFDA0, [0x062A, 0x062C, 0x0649]),
  (0xFDA1, [0x062A, 0x062E, 0x064A]), (0xFDA2, [0x062A, 0x062E, 0x0649]),
  (0xFDA3, [0x062A, 0x0645, 0x064A]), (0xFDA4, [0x062A, 0x0645, 0x0649]),
  (0xFDA5, [0x062C, 0x0645, 0x064A]), (0xFDA6, [0x062C, 0x062D, 0x0649]),
  (0xFDA7, [0x062C, 0x0645, 0x0649]), (0xFDA8, [0x0633, 0x062E, 0x0649]),
  (0xFDA9, [0x0635, 0x062D, 0x064A]), (0xFDAA, [0x0634, 0x062D, 0x064A]),
  (0xFDAB, [0x0636, 0x062D, 0x064A]), (0xFDAC, [0x0644, 0x062C, 0x064A]),
  (0xFDAD, [0x0644, 0x0645, 0x064A]), (0xFDAE, [0x064A, 0x062D, 0x064A]),
  (0xFDAF, [0x064A, 0x062C, 0x064A]), (0xFDB0, [0x064A, 0x0645, 0x064A]),
  (0xFDB1, [0x0645, 0x0645, 0x064A]), (0xFDB2, [0x0642, 0x0645, 0x064A]),
  (0xFDB3, [0x0646, 0x062D, 0x064A]), (0xFDB4, [0x0642, 0x0645, 0x062D]),
  (0xFDB5, [0x0644, 0x062D, 0x0645]), (0xFDB6, [0x0639, 0x0645, 0x064A]),
  (0xFDB7, [0x0643, 0x0645, 0x064A]), (0xFDB8, [0x0646, 0x062C, 0x062D]),
  (0xFDB9, [0x0645, 0x062E, 0x064A]), (0xFDBA, [0x0644, 0x062C, 0x0645]),
  (0xFDBB, [0x0643, 0x0645, 0x0645]), (0xFDBC, [0x0644, 0x062C, 0x0645]),
  (0xFDBD, [0x0646, 0x062C, 0x062D]), (0xFDBE, [0x062C, 0x062D, 0x064A]),
  (0xFDBF, [0x062D, 0x062C, 0x064A]), (0xFDC0, [0x0645, 0x062C, 0x064A]),
  (0xFDC1, [0x0641, 0x0645, 0x064A]), (0xFDC2, [0x0628, 0x062D, 0x064A]),
  (0xFDC3, [0x0643, 0x0645, 0x0645]), (0xFDC4, [0x0639, 0x062C, 0x0645]),
  (0xFDC5, [0x0635, 0x0645, 0x0645]), (0xFDC6, [0x0633, 0x062E, 0x064A]),
  (0xFDC7, [0x0646, 0x062C, 0x064A]), (0xFDF0, [0x0635, 0x0644, 0x06D2]),
  (0xFDF1, [0x0642, 0x0644, 0x06D2]), (0xFDF2, [0x0627, 0x0644, 0x0644, 0x0647]),
  (0xFDF3, [0x0627, 0x0643, 0x0628, 0x0631]), (0xFDF4, [0x0645, 0x062D, 0x0645, 0x062F]),
  (0xFDF5, [0x0635, 0x0644, 0x0639, 0x0645]), (0xFDF6, [0x0631, 0x0633, 0x0648, 0x0644]),
  (0xFDF7, [0x0639, 0x0644, 0x064A, 0x0647]), (0xFDF8, [0x0648, 0x0633, 0x0644, 0x0645]),
  (0xFDF9, [0x0635, 0x0644, 0x0649]),
  (0xFDFA, [0x0635, 0x0644, 0x0649, 0x0020, 0x0627, 0x0644, 0x0644, 0x0647, 0x0020, 0x0639, 0x0644,
    0x064A, 0x0647, 0x0020, 0x0648, 0x0633, 0x0644, 0x0645]),
  (0xFDFB, [0x062C, 0x0644, 0x0020, 0x062C, 0x0644, 0x0627, 0x0644, 0x0647]),
  (0xFDFC, [0x0631, 0x06CC, 0x0627, 0x0644]), (0xFE49, [0x0020, 0x0305]),
  (0xFE4A, [0x0020, 0x0305]), (0xFE4B, [0x0020, 0x0305]), (0xFE4C, [0x0020, 0x0305]),
  (0xFE70, [0x0020, 0x064B]), (0xFE71, [0x0640, 0x064B]), (0xFE72, [0x0020, 0x064C]),
  (0xFE74, [0x0020, 0x064D]), (0xFE76, [0x0020, 0x064E]), (0xFE77, [0x0640, 0x064E]),
  (0xFE78, [0x0020, 0x064F]), (0xFE79, [0x0640, 0x064F]), (0xFE7A, [0x0020, 0x0650]),
  (0xFE7B, [0x0640, 0x0650]), (0xFE7C, [0x0020, 0x0651]), (0xFE7D, [0x0640, 0x0651]),
  (0xFE7E, [0x0020, 0x0652]), (0xFE7F, [0x0640, 0x0652]), (0xFEF5, [0x0644, 0x0622]),
  (0xFEF6, [0x0644, 0x0622]), (0xFEF7, [0x0644, 0x0623]), (0xFEF8, [0x0644, 0x0623]),
  (0xFEF9, [0x0644, 0x0625]), (0xFEFA, [0x0644, 0x0625]), (0xFEFB, [0x0644, 0x0627]),
  (0xFEFC, [0x0644, 0x0627])]

/-- The characters that are written with several. -/
def variantSpellings : List (Nat × List Nat) :=
  letterSpellings ++ enclosedSpellings ++ ligatureSpellings

end WalletPanel.Domain
