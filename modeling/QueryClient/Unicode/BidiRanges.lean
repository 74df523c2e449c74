import QueryClient.Unicode.Ranges

/-!
# Directions of characters

Bounds of the ranges of every bidirectional class that a domain name may hold, left-to-right letters
apart.
-/

namespace QueryClient.Unicode

/-- Right-to-left letters. -/
def rightToLeftBounds : List Nat :=
  [0x590, 0x591, 0x5be, 0x5bf, 0x5c0, 0x5c1, 0x5c3, 0x5c4, 0x5c6, 0x5c7, 0x5c9, 0x600, 0x7c0,
   0x7eb, 0x7f4, 0x7f6, 0x7fa, 0x7fd, 0x7fe, 0x816, 0x81a, 0x81b, 0x824, 0x825, 0x828, 0x829,
   0x82e, 0x859, 0x85c, 0x860, 0x200f, 0x2010, 0xfb1d, 0xfb1e, 0xfb1f, 0xfb29, 0xfb2a, 0xfb50,
   0x10800, 0x1091f, 0x10920, 0x10a01, 0x10a04, 0x10a05, 0x10a07, 0x10a0c, 0x10a10, 0x10a38,
   0x10a3b, 0x10a3f, 0x10a40, 0x10ae5, 0x10ae7, 0x10b39, 0x10b40, 0x10d00, 0x10d4a, 0x10d69,
   0x10d6f, 0x10e60, 0x10e7f, 0x10eab, 0x10ead, 0x10ec0, 0x10f00, 0x10f30, 0x10f70, 0x10f82,
   0x10f86, 0x11000, 0x1e800, 0x1e8d0, 0x1e8d7, 0x1e944, 0x1e94b, 0x1ec70, 0x1ecc0, 0x1ed00,
   0x1ed50, 0x1ee00, 0x1ef00, 0x1f000]

/-- Letters of Arabic and its relatives. -/
def arabicLetterBounds : List Nat :=
  [0x608, 0x609, 0x60b, 0x60c, 0x60d, 0x60e, 0x61b, 0x64b, 0x66d, 0x670, 0x671, 0x6d6, 0x6e5,
   0x6e7, 0x6ee, 0x6f0, 0x6fa, 0x711, 0x712, 0x730, 0x74b, 0x7a6, 0x7b1, 0x7c0, 0x860, 0x890,
   0x892, 0x897, 0x8a0, 0x8ca, 0xfb50, 0xfbc3, 0xfbd3, 0xfd3e, 0xfd50, 0xfd90, 0xfd92, 0xfdc8,
   0xfdf0, 0xfdfd, 0xfe70, 0xfeff, 0x10d00, 0x10d24, 0x10d28, 0x10d30, 0x10d3a, 0x10d40, 0x10ec0,
   0x10ec8, 0x10ecc, 0x10ed0, 0x10ed9, 0x10efa, 0x10f30, 0x10f46, 0x10f51, 0x10f70, 0x1ec70,
   0x1ecc0, 0x1ed00, 0x1ed50, 0x1ee00, 0x1eef0, 0x1eef2, 0x1ef00]

/-- Arabic numbers. -/
def arabicNumberBounds : List Nat :=
  [0x600, 0x606, 0x660, 0x66a, 0x66b, 0x66d, 0x6dd, 0x6de, 0x890, 0x892, 0x8e2, 0x8e3, 0x10d30,
   0x10d3a, 0x10d40, 0x10d4a, 0x10e60, 0x10e7f]

/-- European numbers. -/
def europeanNumberBounds : List Nat :=
  [0x30, 0x3a, 0xb2, 0xb4, 0xb9, 0xba, 0x6f0, 0x6fa, 0x2070, 0x2071, 0x2074, 0x207a, 0x2080,
   0x208a, 0x2488, 0x249c, 0xff10, 0xff1a, 0x102e1, 0x102fc, 0x1ccf0, 0x1ccfa, 0x1d7ce, 0x1d800,
   0x1f100, 0x1f10b, 0x1fbf0, 0x1fbfa]

/-- Signs of European numbers. -/
def europeanSeparatorBounds : List Nat :=
  [0x2b, 0x2c, 0x2d, 0x2e, 0x207a, 0x207c, 0x208a, 0x208c, 0x2212, 0x2213, 0xfb29, 0xfb2a, 0xfe62,
   0xfe64, 0xff0b, 0xff0c, 0xff0d, 0xff0e]

/-- Marks around European numbers. -/
def europeanTerminatorBounds : List Nat :=
  [0x23, 0x26, 0xa2, 0xa6, 0xb0, 0xb2, 0x58f, 0x590, 0x609, 0x60b, 0x66a, 0x66b, 0x9f2, 0x9f4,
   0x9fb, 0x9fc, 0xaf1, 0xaf2, 0xbf9, 0xbfa, 0xe3f, 0xe40, 0x17db, 0x17dc, 0x2030, 0x2035, 0x20a0,
   0x20c5, 0x212e, 0x212f, 0x2213, 0x2214, 0xa838, 0xa83a, 0xfe5f, 0xfe60, 0xfe69, 0xfe6b, 0xff03,
   0xff06, 0xffe0, 0xffe2, 0xffe5, 0xffe7, 0x11fdd, 0x11fe1, 0x1e2ff, 0x1e300]

/-- Separators of numbers. -/
def commonSeparatorBounds : List Nat :=
  [0x2c, 0x2d, 0x2e, 0x30, 0x3a, 0x3b, 0xa0, 0xa1, 0x60c, 0x60d, 0x202f, 0x2030, 0x2044, 0x2045,
   0xfe50, 0xfe51, 0xfe52, 0xfe53, 0xfe55, 0xfe56, 0xff0c, 0xff0d, 0xff0e, 0xff10, 0xff1a, 0xff1b]

/-- Marks without a width of their own. -/
def nonspacingMarkBounds : List Nat :=
  [0x300, 0x370, 0x483, 0x48a, 0x591, 0x5be, 0x5bf, 0x5c0, 0x5c1, 0x5c3, 0x5c4, 0x5c6, 0x5c7,
   0x5c9, 0x610, 0x61b, 0x64b, 0x660, 0x670, 0x671, 0x6d6, 0x6dd, 0x6df, 0x6e5, 0x6e7, 0x6e9,
   0x6ea, 0x6ee, 0x711, 0x712, 0x730, 0x74b, 0x7a6, 0x7b1, 0x7eb, 0x7f4, 0x7fd, 0x7fe, 0x816,
   0x81a, 0x81b, 0x824, 0x825, 0x828, 0x829, 0x82e, 0x859, 0x85c, 0x897, 0x8a0, 0x8ca, 0x8e2,
   0x8e3, 0x903, 0x93a, 0x93b, 0x93c, 0x93d, 0x941, 0x949, 0x94d, 0x94e, 0x951, 0x958, 0x962,
   0x964, 0x981, 0x982, 0x9bc, 0x9bd, 0x9c1, 0x9c5, 0x9cd, 0x9ce, 0x9e2, 0x9e4, 0x9fe, 0x9ff,
   0xa01, 0xa03, 0xa3c, 0xa3d, 0xa41, 0xa43, 0xa47, 0xa49, 0xa4b, 0xa4e, 0xa51, 0xa52, 0xa70,
   0xa72, 0xa75, 0xa76, 0xa81, 0xa83, 0xabc, 0xabd, 0xac1, 0xac6, 0xac7, 0xac9, 0xacd, 0xace,
   0xae2, 0xae4, 0xafa, 0xb00, 0xb01, 0xb02, 0xb3c, 0xb3d, 0xb3f, 0xb40, 0xb41, 0xb45, 0xb4d,
   0xb4e, 0xb53, 0xb57, 0xb62, 0xb64, 0xb82, 0xb83, 0xbc0, 0xbc1, 0xbcd, 0xbce, 0xc00, 0xc01,
   0xc04, 0xc05, 0xc3c, 0xc3d, 0xc3e, 0xc41, 0xc46, 0xc49, 0xc4a, 0xc4e, 0xc55, 0xc57, 0xc62,
   0xc64, 0xc81, 0xc82, 0xcbc, 0xcbd, 0xccc, 0xcce, 0xce2, 0xce4, 0xd00, 0xd02, 0xd3b, 0xd3d,
   0xd41, 0xd45, 0xd4d, 0xd4e, 0xd62, 0xd64, 0xd81, 0xd82, 0xdca, 0xdcb, 0xdd2, 0xdd5, 0xdd6,
   0xdd7, 0xe31, 0xe32, 0xe34, 0xe3b, 0xe47, 0xe4f, 0xeb1, 0xeb2, 0xeb4, 0xebd, 0xec8, 0xecf,
   0xf18, 0xf1a, 0xf35, 0xf36, 0xf37, 0xf38, 0xf39, 0xf3a, 0xf71, 0xf7f, 0xf80, 0xf85, 0xf86,
   0xf88, 0xf8d, 0xf98, 0xf99, 0xfbd, 0xfc6, 0xfc7, 0x102d, 0x1031, 0x1032, 0x1038, 0x1039,
   0x103b, 0x103d, 0x103f, 0x1058, 0x105a, 0x105e, 0x1061, 0x1071, 0x1075, 0x1082, 0x1083, 0x1085,
   0x1087, 0x108d, 0x108e, 0x109d, 0x109e, 0x135d, 0x1360, 0x1712, 0x1715, 0x1732, 0x1734, 0x1752,
   0x1754, 0x1772, 0x1774, 0x17b4, 0x17b6, 0x17b7, 0x17be, 0x17c6, 0x17c7, 0x17c9, 0x17d4, 0x17dd,
   0x17de, 0x180b, 0x180e, 0x180f, 0x1810, 0x1885, 0x1887, 0x18a9, 0x18aa, 0x1920, 0x1923, 0x1927,
   0x1929, 0x1932, 0x1933, 0x1939, 0x193c, 0x1a17, 0x1a19, 0x1a1b, 0x1a1c, 0x1a56, 0x1a57, 0x1a58,
   0x1a5f, 0x1a60, 0x1a61, 0x1a62, 0x1a63, 0x1a65, 0x1a6d, 0x1a73, 0x1a7d, 0x1a7f, 0x1a80, 0x1ab0,
   0x1aed, 0x1b00, 0x1b04, 0x1b34, 0x1b35, 0x1b36, 0x1b3b, 0x1b3c, 0x1b3d, 0x1b42, 0x1b43, 0x1b6b,
   0x1b74, 0x1b80, 0x1b82, 0x1ba2, 0x1ba6, 0x1ba8, 0x1baa, 0x1bab, 0x1bae, 0x1be6, 0x1be7, 0x1be8,
   0x1bea, 0x1bed, 0x1bee, 0x1bef, 0x1bf2, 0x1c2c, 0x1c34, 0x1c36, 0x1c38, 0x1cd0, 0x1cd3, 0x1cd4,
   0x1ce1, 0x1ce2, 0x1ce9, 0x1ced, 0x1cee, 0x1cf4, 0x1cf5, 0x1cf8, 0x1cfa, 0x1dc0, 0x1e00, 0x20d0,
   0x20f1, 0x2cef, 0x2cf2, 0x2d7f, 0x2d80, 0x2de0, 0x2e00, 0x302a, 0x302e, 0x3099, 0x309b, 0xa66f,
   0xa673, 0xa674, 0xa67e, 0xa69e, 0xa6a0, 0xa6f0, 0xa6f2, 0xa802, 0xa803, 0xa806, 0xa807, 0xa80b,
   0xa80c, 0xa825, 0xa827, 0xa82c, 0xa82d, 0xa8c4, 0xa8c6, 0xa8e0, 0xa8f2, 0xa8ff, 0xa900, 0xa926,
   0xa92e, 0xa947, 0xa952, 0xa980, 0xa983, 0xa9b3, 0xa9b4, 0xa9b6, 0xa9ba, 0xa9bc, 0xa9be, 0xa9e5,
   0xa9e6, 0xaa29, 0xaa2f, 0xaa31, 0xaa33, 0xaa35, 0xaa37, 0xaa43, 0xaa44, 0xaa4c, 0xaa4d, 0xaa7c,
   0xaa7d, 0xaab0, 0xaab1, 0xaab2, 0xaab5, 0xaab7, 0xaab9, 0xaabe, 0xaac0, 0xaac1, 0xaac2, 0xaaec,
   0xaaee, 0xaaf6, 0xaaf7, 0xabe5, 0xabe6, 0xabe8, 0xabe9, 0xabed, 0xabee, 0xfb1e, 0xfb1f, 0xfe00,
   0xfe10, 0xfe20, 0xfe30, 0x101fd, 0x101fe, 0x102e0, 0x102e1, 0x10376, 0x1037b, 0x10a01, 0x10a04,
   0x10a05, 0x10a07, 0x10a0c, 0x10a10, 0x10a38, 0x10a3b, 0x10a3f, 0x10a40, 0x10ae5, 0x10ae7,
   0x10d24, 0x10d28, 0x10d69, 0x10d6e, 0x10eab, 0x10ead, 0x10efa, 0x10f00, 0x10f46, 0x10f51,
   0x10f82, 0x10f86, 0x11001, 0x11002, 0x11038, 0x11047, 0x11070, 0x11071, 0x11073, 0x11075,
   0x1107f, 0x11082, 0x110b3, 0x110b7, 0x110b9, 0x110bb, 0x110c2, 0x110c3, 0x11100, 0x11103,
   0x11127, 0x1112c, 0x1112d, 0x11135, 0x11173, 0x11174, 0x11180, 0x11182, 0x111b6, 0x111bf,
   0x111c9, 0x111cd, 0x111cf, 0x111d0, 0x1122f, 0x11232, 0x11234, 0x11235, 0x11236, 0x11238,
   0x1123e, 0x1123f, 0x11241, 0x11242, 0x112df, 0x112e0, 0x112e3, 0x112eb, 0x11300, 0x11302,
   0x1133b, 0x1133d, 0x11340, 0x11341, 0x11366, 0x1136d, 0x11370, 0x11375, 0x113bb, 0x113c1,
   0x113ce, 0x113cf, 0x113d0, 0x113d1, 0x113d2, 0x113d3, 0x113e1, 0x113e3, 0x11438, 0x11440,
   0x11442, 0x11445, 0x11446, 0x11447, 0x1145e, 0x1145f, 0x114b3, 0x114b9, 0x114ba, 0x114bb,
   0x114bf, 0x114c1, 0x114c2, 0x114c4, 0x115b2, 0x115b6, 0x115bc, 0x115be, 0x115bf, 0x115c1,
   0x115dc, 0x115de, 0x11633, 0x1163b, 0x1163d, 0x1163e, 0x1163f, 0x11641, 0x116ab, 0x116ac,
   0x116ad, 0x116ae, 0x116b0, 0x116b6, 0x116b7, 0x116b8, 0x1171d, 0x1171e, 0x1171f, 0x11720,
   0x11722, 0x11726, 0x11727, 0x1172c, 0x1182f, 0x11838, 0x11839, 0x1183b, 0x1193b, 0x1193d,
   0x1193e, 0x1193f, 0x11943, 0x11944, 0x119d4, 0x119d8, 0x119da, 0x119dc, 0x119e0, 0x119e1,
   0x11a01, 0x11a07, 0x11a09, 0x11a0b, 0x11a33, 0x11a39, 0x11a3b, 0x11a3f, 0x11a47, 0x11a48,
   0x11a51, 0x11a57, 0x11a59, 0x11a5c, 0x11a8a, 0x11a97, 0x11a98, 0x11a9a, 0x11b60, 0x11b61,
   0x11b62, 0x11b65, 0x11b66, 0x11b67, 0x11c30, 0x11c37, 0x11c38, 0x11c3e, 0x11c92, 0x11ca8,
   0x11caa, 0x11cb1, 0x11cb2, 0x11cb4, 0x11cb5, 0x11cb7, 0x11d31, 0x11d37, 0x11d3a, 0x11d3b,
   0x11d3c, 0x11d3e, 0x11d3f, 0x11d46, 0x11d47, 0x11d48, 0x11d90, 0x11d92, 0x11d95, 0x11d96,
   0x11d97, 0x11d98, 0x11ef3, 0x11ef5, 0x11f00, 0x11f02, 0x11f36, 0x11f3b, 0x11f40, 0x11f41,
   0x11f42, 0x11f43, 0x11f5a, 0x11f5b, 0x13440, 0x13441, 0x13447, 0x13456, 0x1611e, 0x1612a,
   0x1612d, 0x16130, 0x16af0, 0x16af5, 0x16b30, 0x16b37, 0x16f4f, 0x16f50, 0x16f8f, 0x16f93,
   0x16fe4, 0x16fe5, 0x1bc9d, 0x1bc9f, 0x1cf00, 0x1cf2e, 0x1cf30, 0x1cf47, 0x1d167, 0x1d16a,
   0x1d17b, 0x1d183, 0x1d185, 0x1d18c, 0x1d1aa, 0x1d1ae, 0x1d242, 0x1d245, 0x1da00, 0x1da37,
   0x1da3b, 0x1da6d, 0x1da75, 0x1da76, 0x1da84, 0x1da85, 0x1da9b, 0x1daa0, 0x1daa1, 0x1dab0,
   0x1e000, 0x1e007, 0x1e008, 0x1e019, 0x1e01b, 0x1e022, 0x1e023, 0x1e025, 0x1e026, 0x1e02b,
   0x1e08f, 0x1e090, 0x1e130, 0x1e137, 0x1e2ae, 0x1e2af, 0x1e2ec, 0x1e2f0, 0x1e4ec, 0x1e4f0,
   0x1e5ee, 0x1e5f0, 0x1e6e3, 0x1e6e4, 0x1e6e6, 0x1e6e7, 0x1e6ee, 0x1e6f0, 0x1e6f5, 0x1e6f6,
   0x1e8d0, 0x1e8d7, 0x1e944, 0x1e94b, 0xe0100, 0xe01f0]

/-- Characters without a place of their own. -/
def boundaryNeutralBounds : List Nat :=
  [0x0, 0x9, 0xe, 0x1c, 0x7f, 0x85, 0x86, 0xa0, 0xad, 0xae, 0x180e, 0x180f, 0x200b, 0x200e,
   0x2060, 0x2065, 0x206a, 0x2070, 0xfeff, 0xff00, 0x1bca0, 0x1bca4, 0x1d173, 0x1d17b, 0xe0000,
   0xe0100, 0xe01f0, 0xe1000]

/-- All other neutral characters. -/
def otherNeutralBounds : List Nat :=
  [0x21, 0x23, 0x26, 0x2b, 0x3b, 0x41, 0x5b, 0x61, 0x7b, 0x7f, 0xa1, 0xa2, 0xa6, 0xaa, 0xab, 0xad,
   0xae, 0xb0, 0xb4, 0xb5, 0xb6, 0xb9, 0xbb, 0xc0, 0xd7, 0xd8, 0xf7, 0xf8, 0x2b9, 0x2bb, 0x2c2,
   0x2d0, 0x2d2, 0x2e0, 0x2e5, 0x2ee, 0x2ef, 0x300, 0x374, 0x376, 0x37e, 0x37f, 0x384, 0x386,
   0x387, 0x388, 0x3f6, 0x3f7, 0x58a, 0x58b, 0x58d, 0x58f, 0x606, 0x608, 0x60e, 0x610, 0x6de,
   0x6df, 0x6e9, 0x6ea, 0x7f6, 0x7fa, 0xbf3, 0xbf9, 0xbfa, 0xbfb, 0xc78, 0xc7f, 0xf3a, 0xf3e,
   0x1390, 0x139a, 0x1400, 0x1401, 0x169b, 0x169d, 0x17f0, 0x17fa, 0x1800, 0x180b, 0x1940, 0x1941,
   0x1944, 0x1946, 0x19de, 0x1a00, 0x1fbd, 0x1fbe, 0x1fbf, 0x1fc2, 0x1fcd, 0x1fd0, 0x1fdd, 0x1fe0,
   0x1fed, 0x1ff0, 0x1ffd, 0x1fff, 0x2010, 0x2028, 0x2035, 0x2044, 0x2045, 0x205f, 0x207c, 0x207f,
   0x208c, 0x2090, 0x2100, 0x2102, 0x2103, 0x2107, 0x2108, 0x210a, 0x2114, 0x2115, 0x2116, 0x2119,
   0x211e, 0x2124, 0x2125, 0x2126, 0x2127, 0x2128, 0x2129, 0x212a, 0x213a, 0x213c, 0x2140, 0x2145,
   0x214a, 0x214e, 0x2150, 0x2160, 0x2189, 0x218c, 0x2190, 0x2212, 0x2214, 0x2336, 0x237b, 0x2395,
   0x2396, 0x242a, 0x2440, 0x244b, 0x2460, 0x2488, 0x24ea, 0x26ac, 0x26ad, 0x2800, 0x2900, 0x2b74,
   0x2b76, 0x2c00, 0x2ce5, 0x2ceb, 0x2cf9, 0x2d00, 0x2e00, 0x2e64, 0x2e80, 0x2e9a, 0x2e9b, 0x2ef4,
   0x2f00, 0x2fd6, 0x2ff0, 0x3000, 0x3001, 0x3005, 0x3008, 0x3021, 0x3030, 0x3031, 0x3036, 0x3038,
   0x303d, 0x3040, 0x309b, 0x309d, 0x30a0, 0x30a1, 0x30fb, 0x30fc, 0x31c0, 0x31e6, 0x31ef, 0x31f0,
   0x321d, 0x321f, 0x3250, 0x3260, 0x327c, 0x327f, 0x32b1, 0x32c0, 0x32cc, 0x32d0, 0x3377, 0x337b,
   0x33de, 0x33e0, 0x33ff, 0x3400, 0x4dc0, 0x4e00, 0xa490, 0xa4c7, 0xa60d, 0xa610, 0xa673, 0xa674,
   0xa67e, 0xa680, 0xa700, 0xa722, 0xa788, 0xa789, 0xa828, 0xa82c, 0xa874, 0xa878, 0xab6a, 0xab6c,
   0xfbc3, 0xfbd3, 0xfd3e, 0xfd50, 0xfd90, 0xfd92, 0xfdc8, 0xfdd0, 0xfdfd, 0xfe00, 0xfe10, 0xfe1a,
   0xfe30, 0xfe50, 0xfe51, 0xfe52, 0xfe54, 0xfe55, 0xfe56, 0xfe5f, 0xfe60, 0xfe62, 0xfe64, 0xfe67,
   0xfe68, 0xfe69, 0xfe6b, 0xfe6c, 0xff01, 0xff03, 0xff06, 0xff0b, 0xff1b, 0xff21, 0xff3b, 0xff41,
   0xff5b, 0xff66, 0xffe2, 0xffe5, 0xffe8, 0xffef, 0xfff9, 0xfffe, 0x10101, 0x10102, 0x10140,
   0x1018d, 0x10190, 0x1019d, 0x101a0, 0x101a1, 0x1091f, 0x10920, 0x10b39, 0x10b40, 0x10d6e,
   0x10d6f, 0x10ec8, 0x10ecc, 0x10ed0, 0x10ed9, 0x11052, 0x11066, 0x11660, 0x1166d, 0x11fd5,
   0x11fdd, 0x11fe1, 0x11ff2, 0x16fe2, 0x16fe3, 0x1cc00, 0x1ccf0, 0x1ccfa, 0x1ccfd, 0x1cd00,
   0x1ceb4, 0x1ceba, 0x1ced3, 0x1cee0, 0x1cef1, 0x1d127, 0x1d129, 0x1d1e9, 0x1d1eb, 0x1d200,
   0x1d242, 0x1d245, 0x1d246, 0x1d250, 0x1d290, 0x1d300, 0x1d357, 0x1d6db, 0x1d6dc, 0x1d715,
   0x1d716, 0x1d74f, 0x1d750, 0x1d789, 0x1d78a, 0x1d7c3, 0x1d7c4, 0x1db00, 0x1dc00, 0x1eef0,
   0x1eef2, 0x1f000, 0x1f02c, 0x1f030, 0x1f094, 0x1f0a0, 0x1f0af, 0x1f0b1, 0x1f0c0, 0x1f0c1,
   0x1f0d0, 0x1f0d1, 0x1f0f6, 0x1f10b, 0x1f110, 0x1f12f, 0x1f130, 0x1f16a, 0x1f170, 0x1f1ad,
   0x1f1af, 0x1f260, 0x1f266, 0x1f300, 0x1f6da, 0x1f6dc, 0x1f6ed, 0x1f6f0, 0x1f6fd, 0x1f700,
   0x1f7da, 0x1f7e0, 0x1f7ec, 0x1f7f0, 0x1f7f1, 0x1f800, 0x1f80c, 0x1f810, 0x1f848, 0x1f850,
   0x1f85a, 0x1f860, 0x1f888, 0x1f890, 0x1f8ae, 0x1f8b0, 0x1f8bc, 0x1f8c0, 0x1f8c2, 0x1f8d0,
   0x1f8d9, 0x1f900, 0x1fa58, 0x1fa60, 0x1fa6e, 0x1fa70, 0x1fa7d, 0x1fa80, 0x1fac7, 0x1fac8,
   0x1fac9, 0x1facd, 0x1fade, 0x1fadf, 0x1faec, 0x1faef, 0x1fafb, 0x1fb00, 0x1fb93, 0x1fb94,
   0x1fbf0, 0x1fbfa, 0x1fbfb]

end QueryClient.Unicode
