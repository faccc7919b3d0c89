import QuasiGrammar.Text.Letter

/-
  QuasiGrammar.Text.Identifier
  ────────────────────────────
  An identifier starts with a letter, a letter number or the low line and goes
  on with these, digits, marks and connectors: the properties XID_Start and
  XID_Continue of Unicode 14, with the low line added to the first.
-/

namespace QuasiGrammar.Text

/-- The characters on which "may start an identifier" and "is a letter" disagree. -/
def identifierStartExceptions : CharSet := ⟨[
  0x5f, 0x60, 0x37a, 0x37b, 0xe33, 0xe34, 0xeb3, 0xeb4, 0x16ee, 0x16f1, 0x1885, 0x1887, 0x2118,
  0x2119, 0x212e, 0x212f, 0x2160, 0x2183, 0x2185, 0x2189, 0x2e2f, 0x2e30, 0x3007, 0x3008, 0x3021,
  0x302a, 0x3038, 0x303b, 0xa6e6, 0xa6f0, 0xfc5e, 0xfc64, 0xfdfa, 0xfdfc, 0xfe70, 0xfe71, 0xfe72,
  0xfe73, 0xfe74, 0xfe75, 0xfe76, 0xfe77, 0xfe78, 0xfe79, 0xfe7a, 0xfe7b, 0xfe7c, 0xfe7d, 0xfe7e,
  0xfe7f, 0xff9e, 0xffa0, 0x10140, 0x10175, 0x10341, 0x10342, 0x1034a, 0x1034b, 0x103d1, 0x103d6,
  0x12400, 0x1246f]⟩

/-- The characters that may go on an identifier and may not start one. -/
def identifierTailSet : CharSet := ⟨[
  0x30, 0x3a, 0xb7, 0xb8, 0x300, 0x370, 0x387, 0x388, 0x483, 0x488, 0x591, 0x5be, 0x5bf, 0x5c0,
  0x5c1, 0x5c3, 0x5c4, 0x5c6, 0x5c7, 0x5c8, 0x610, 0x61b, 0x64b, 0x66a, 0x670, 0x671, 0x6d6,
  0x6dd, 0x6df, 0x6e5, 0x6e7, 0x6e9, 0x6ea, 0x6ee, 0x6f0, 0x6fa, 0x711, 0x712, 0x730, 0x74b,
  0x7a6, 0x7b1, 0x7c0, 0x7ca, 0x7eb, 0x7f4, 0x7fd, 0x7fe, 0x816, 0x81a, 0x81b, 0x824, 0x825,
  0x828, 0x829, 0x82e, 0x859, 0x85c, 0x898, 0x8a0, 0x8ca, 0x8e2, 0x8e3, 0x904, 0x93a, 0x93d,
  0x93e, 0x950, 0x951, 0x958, 0x962, 0x964, 0x966, 0x970, 0x981, 0x984, 0x9bc, 0x9bd, 0x9be,
  0x9c5, 0x9c7, 0x9c9, 0x9cb, 0x9ce, 0x9d7, 0x9d8, 0x9e2, 0x9e4, 0x9e6, 0x9f0, 0x9fe, 0x9ff,
  0xa01, 0xa04, 0xa3c, 0xa3d, 0xa3e, 0xa43, 0xa47, 0xa49, 0xa4b, 0xa4e, 0xa51, 0xa52, 0xa66,
  0xa72, 0xa75, 0xa76, 0xa81, 0xa84, 0xabc, 0xabd, 0xabe, 0xac6, 0xac7, 0xaca, 0xacb, 0xace,
  0xae2, 0xae4, 0xae6, 0xaf0, 0xafa, 0xb00, 0xb01, 0xb04, 0xb3c, 0xb3d, 0xb3e, 0xb45, 0xb47,
  0xb49, 0xb4b, 0xb4e, 0xb55, 0xb58, 0xb62, 0xb64, 0xb66, 0xb70, 0xb82, 0xb83, 0xbbe, 0xbc3,
  0xbc6, 0xbc9, 0xbca, 0xbce, 0xbd7, 0xbd8, 0xbe6, 0xbf0, 0xc00, 0xc05, 0xc3c, 0xc3d, 0xc3e,
  0xc45, 0xc46, 0xc49, 0xc4a, 0xc4e, 0xc55, 0xc57, 0xc62, 0xc64, 0xc66, 0xc70, 0xc81, 0xc84,
  0xcbc, 0xcbd, 0xcbe, 0xcc5, 0xcc6, 0xcc9, 0xcca, 0xcce, 0xcd5, 0xcd7, 0xce2, 0xce4, 0xce6,
  0xcf0, 0xd00, 0xd04, 0xd3b, 0xd3d, 0xd3e, 0xd45, 0xd46, 0xd49, 0xd4a, 0xd4e, 0xd57, 0xd58,
  0xd62, 0xd64, 0xd66, 0xd70, 0xd81, 0xd84, 0xdca, 0xdcb, 0xdcf, 0xdd5, 0xdd6, 0xdd7, 0xdd8,
  0xde0, 0xde6, 0xdf0, 0xdf2, 0xdf4, 0xe31, 0xe32, 0xe33, 0xe3b, 0xe47, 0xe4f, 0xe50, 0xe5a,
  0xeb1, 0xeb2, 0xeb3, 0xebd, 0xec8, 0xece, 0xed0, 0xeda, 0xf18, 0xf1a, 0xf20, 0xf2a, 0xf35,
  0xf36, 0xf37, 0xf38, 0xf39, 0xf3a, 0xf3e, 0xf40, 0xf71, 0xf85, 0xf86, 0xf88, 0xf8d, 0xf98,
  0xf99, 0xfbd, 0xfc6, 0xfc7, 0x102b, 0x103f, 0x1040, 0x104a, 0x1056, 0x105a, 0x105e, 0x1061,
  0x1062, 0x1065, 0x1067, 0x106e, 0x1071, 0x1075, 0x1082, 0x108e, 0x108f, 0x109e, 0x135d, 0x1360,
  0x1369, 0x1372, 0x1712, 0x1716, 0x1732, 0x1735, 0x1752, 0x1754, 0x1772, 0x1774, 0x17b4, 0x17d4,
  0x17dd, 0x17de, 0x17e0, 0x17ea, 0x180b, 0x180e, 0x180f, 0x181a, 0x18a9, 0x18aa, 0x1920, 0x192c,
  0x1930, 0x193c, 0x1946, 0x1950, 0x19d0, 0x19db, 0x1a17, 0x1a1c, 0x1a55, 0x1a5f, 0x1a60, 0x1a7d,
  0x1a7f, 0x1a8a, 0x1a90, 0x1a9a, 0x1ab0, 0x1abe, 0x1abf, 0x1acf, 0x1b00, 0x1b05, 0x1b34, 0x1b45,
  0x1b50, 0x1b5a, 0x1b6b, 0x1b74, 0x1b80, 0x1b83, 0x1ba1, 0x1bae, 0x1bb0, 0x1bba, 0x1be6, 0x1bf4,
  0x1c24, 0x1c38, 0x1c40, 0x1c4a, 0x1c50, 0x1c5a, 0x1cd0, 0x1cd3, 0x1cd4, 0x1ce9, 0x1ced, 0x1cee,
  0x1cf4, 0x1cf5, 0x1cf7, 0x1cfa, 0x1dc0, 0x1e00, 0x203f, 0x2041, 0x2054, 0x2055, 0x20d0, 0x20dd,
  0x20e1, 0x20e2, 0x20e5, 0x20f1, 0x2cef, 0x2cf2, 0x2d7f, 0x2d80, 0x2de0, 0x2e00, 0x302a, 0x3030,
  0x3099, 0x309b, 0xa620, 0xa62a, 0xa66f, 0xa670, 0xa674, 0xa67e, 0xa69e, 0xa6a0, 0xa6f0, 0xa6f2,
  0xa802, 0xa803, 0xa806, 0xa807, 0xa80b, 0xa80c, 0xa823, 0xa828, 0xa82c, 0xa82d, 0xa880, 0xa882,
  0xa8b4, 0xa8c6, 0xa8d0, 0xa8da, 0xa8e0, 0xa8f2, 0xa8ff, 0xa90a, 0xa926, 0xa92e, 0xa947, 0xa954,
  0xa980, 0xa984, 0xa9b3, 0xa9c1, 0xa9d0, 0xa9da, 0xa9e5, 0xa9e6, 0xa9f0, 0xa9fa, 0xaa29, 0xaa37,
  0xaa43, 0xaa44, 0xaa4c, 0xaa4e, 0xaa50, 0xaa5a, 0xaa7b, 0xaa7e, 0xaab0, 0xaab1, 0xaab2, 0xaab5,
  0xaab7, 0xaab9, 0xaabe, 0xaac0, 0xaac1, 0xaac2, 0xaaeb, 0xaaf0, 0xaaf5, 0xaaf7, 0xabe3, 0xabeb,
  0xabec, 0xabee, 0xabf0, 0xabfa, 0xfb1e, 0xfb1f, 0xfe00, 0xfe10, 0xfe20, 0xfe30, 0xfe33, 0xfe35,
  0xfe4d, 0xfe50, 0xff10, 0xff1a, 0xff3f, 0xff40, 0xff9e, 0xffa0, 0x101fd, 0x101fe, 0x102e0,
  0x102e1, 0x10376, 0x1037b, 0x104a0, 0x104aa, 0x10a01, 0x10a04, 0x10a05, 0x10a07, 0x10a0c,
  0x10a10, 0x10a38, 0x10a3b, 0x10a3f, 0x10a40, 0x10ae5, 0x10ae7, 0x10d24, 0x10d28, 0x10d30,
  0x10d3a, 0x10eab, 0x10ead, 0x10f46, 0x10f51, 0x10f82, 0x10f86, 0x11000, 0x11003, 0x11038,
  0x11047, 0x11066, 0x11071, 0x11073, 0x11075, 0x1107f, 0x11083, 0x110b0, 0x110bb, 0x110c2,
  0x110c3, 0x110f0, 0x110fa, 0x11100, 0x11103, 0x11127, 0x11135, 0x11136, 0x11140, 0x11145,
  0x11147, 0x11173, 0x11174, 0x11180, 0x11183, 0x111b3, 0x111c1, 0x111c9, 0x111cd, 0x111ce,
  0x111da, 0x1122c, 0x11238, 0x1123e, 0x1123f, 0x112df, 0x112eb, 0x112f0, 0x112fa, 0x11300,
  0x11304, 0x1133b, 0x1133d, 0x1133e, 0x11345, 0x11347, 0x11349, 0x1134b, 0x1134e, 0x11357,
  0x11358, 0x11362, 0x11364, 0x11366, 0x1136d, 0x11370, 0x11375, 0x11435, 0x11447, 0x11450,
  0x1145a, 0x1145e, 0x1145f, 0x114b0, 0x114c4, 0x114d0, 0x114da, 0x115af, 0x115b6, 0x115b8,
  0x115c1, 0x115dc, 0x115de, 0x11630, 0x11641, 0x11650, 0x1165a, 0x116ab, 0x116b8, 0x116c0,
  0x116ca, 0x1171d, 0x1172c, 0x11730, 0x1173a, 0x1182c, 0x1183b, 0x118e0, 0x118ea, 0x11930,
  0x11936, 0x11937, 0x11939, 0x1193b, 0x1193f, 0x11940, 0x11941, 0x11942, 0x11944, 0x11950,
  0x1195a, 0x119d1, 0x119d8, 0x119da, 0x119e1, 0x119e4, 0x119e5, 0x11a01, 0x11a0b, 0x11a33,
  0x11a3a, 0x11a3b, 0x11a3f, 0x11a47, 0x11a48, 0x11a51, 0x11a5c, 0x11a8a, 0x11a9a, 0x11c2f,
  0x11c37, 0x11c38, 0x11c40, 0x11c50, 0x11c5a, 0x11c92, 0x11ca8, 0x11ca9, 0x11cb7, 0x11d31,
  0x11d37, 0x11d3a, 0x11d3b, 0x11d3c, 0x11d3e, 0x11d3f, 0x11d46, 0x11d47, 0x11d48, 0x11d50,
  0x11d5a, 0x11d8a, 0x11d8f, 0x11d90, 0x11d92, 0x11d93, 0x11d98, 0x11da0, 0x11daa, 0x11ef3,
  0x11ef7, 0x16a60, 0x16a6a, 0x16ac0, 0x16aca, 0x16af0, 0x16af5, 0x16b30, 0x16b37, 0x16b50,
  0x16b5a, 0x16f4f, 0x16f50, 0x16f51, 0x16f88, 0x16f8f, 0x16f93, 0x16fe4, 0x16fe5, 0x16ff0,
  0x16ff2, 0x1bc9d, 0x1bc9f, 0x1cf00, 0x1cf2e, 0x1cf30, 0x1cf47, 0x1d165, 0x1d16a, 0x1d16d,
  0x1d173, 0x1d17b, 0x1d183, 0x1d185, 0x1d18c, 0x1d1aa, 0x1d1ae, 0x1d242, 0x1d245, 0x1d7ce,
  0x1d800, 0x1da00, 0x1da37, 0x1da3b, 0x1da6d, 0x1da75, 0x1da76, 0x1da84, 0x1da85, 0x1da9b,
  0x1daa0, 0x1daa1, 0x1dab0, 0x1e000, 0x1e007, 0x1e008, 0x1e019, 0x1e01b, 0x1e022, 0x1e023,
  0x1e025, 0x1e026, 0x1e02b, 0x1e130, 0x1e137, 0x1e140, 0x1e14a, 0x1e2ae, 0x1e2af, 0x1e2ec,
  0x1e2fa, 0x1e8d0, 0x1e8d7, 0x1e944, 0x1e94b, 0x1e950, 0x1e95a, 0x1fbf0, 0x1fbfa, 0xe0100,
  0xe01f0]⟩

/-- Whether the character may start an identifier. -/
def isIdentifierStart (c : Char) : Bool :=
  isLetter c != identifierStartExceptions.contains c

/-- Whether the character may stand in an identifier after its first character. -/
def isIdentifierTail (c : Char) : Bool :=
  isIdentifierStart c || identifierTailSet.contains c

/-- Whether the text is an identifier. -/
def isIdentifier : List Char → Bool
  | [] => false
  | c :: rest => isIdentifierStart c && rest.all isIdentifierTail

end QuasiGrammar.Text
