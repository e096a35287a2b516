import Fleet.Text.Mark

/-! # Directions of writing

The direction in which a character is written, or how it takes the direction of its
neighbours, as of Unicode 17. -/

namespace Fleet.Text

/-- Classes of characters by direction. -/
inductive Direction where
  | left
  | right
  | europeanNumber
  | arabicNumber
  /-- A mark goes with the character before it. -/
  | mark
  | neutral
  deriving DecidableEq, Repr

/-- The characters written from right to left; blocks of such scripts count as a whole. -/
def rightRanges : Ranges := [
    (0x590,0x590), (0x5be,0x5be), (0x5c0,0x5c0), (0x5c3,0x5c3), (0x5c6,0x5c6), (0x5c8,0x5ff),
    (0x608,0x608), (0x60b,0x60b), (0x60d,0x60d), (0x61b,0x64a), (0x66d,0x66f), (0x671,0x6d5),
    (0x6e5,0x6e6), (0x6ee,0x6ef), (0x6fa,0x710), (0x712,0x72f), (0x74b,0x7a5), (0x7b1,0x7ea),
    (0x7f4,0x7f5), (0x7fa,0x7fc), (0x7fe,0x815), (0x81a,0x81a), (0x824,0x824), (0x828,0x828),
    (0x82e,0x858), (0x85c,0x88f), (0x892,0x896), (0x8a0,0x8c9), (0x200f,0x200f), (0xfb1d,0xfb1d),
    (0xfb1f,0xfb28), (0xfb2a,0xfbc2), (0xfbd3,0xfd3d), (0xfd50,0xfd8f), (0xfd92,0xfdc7),
    (0xfdf0,0xfdfc), (0xfe70,0xfefe), (0x10800,0x1091e), (0x10920,0x10a00), (0x10a04,0x10a04),
    (0x10a07,0x10a0b), (0x10a10,0x10a37), (0x10a3b,0x10a3e), (0x10a40,0x10ae4), (0x10ae7,0x10b38),
    (0x10b40,0x10d23), (0x10d28,0x10d2f), (0x10d3a,0x10d68), (0x10d6f,0x10e5f), (0x10e7f,0x10eaa),
    (0x10ead,0x10ed0), (0x10ed9,0x10ef9), (0x10f00,0x10f45), (0x10f51,0x10f81), (0x10f86,0x10fff),
    (0x1e800,0x1e8cf), (0x1e8d7,0x1e943), (0x1e94b,0x1eeef), (0x1eef2,0x1efff)]

/-- The Arabic digits and signs of numbers. -/
def arabicNumberRanges : Ranges := [
    (0x600,0x605), (0x660,0x669), (0x66b,0x66c), (0x6dd,0x6dd), (0x890,0x891), (0x8e2,0x8e2),
    (0x10d30,0x10d39), (0x10e60,0x10e7e)]

/-- The digits beyond ASCII that are written like those of ASCII. -/
def europeanNumberRanges : Ranges := [
    (0xb2,0xb3), (0xb9,0xb9), (0x6f0,0x6f9), (0x2070,0x2070), (0x2074,0x2079), (0x2080,0x2089),
    (0x2488,0x249b), (0xff10,0xff19), (0x102e1,0x102fb), (0x1d7ce,0x1d7ff), (0x1f100,0x1f10a),
    (0x1fbf0,0x1fbf9)]

/-- The characters beyond ASCII without a direction. -/
def neutralRanges : Ranges := [
    (0x80,0xa9), (0xab,0xb1), (0xb4,0xb4), (0xb6,0xb8), (0xbb,0xbf), (0xd7,0xd7), (0xf7,0xf7),
    (0x2b9,0x2ba), (0x2c2,0x2cf), (0x2d2,0x2df), (0x2e5,0x2ed), (0x2ef,0x2ff), (0x374,0x375),
    (0x37e,0x37e), (0x384,0x385), (0x387,0x387), (0x3f6,0x3f6), (0x58a,0x58a), (0x58d,0x58f),
    (0x606,0x607), (0x609,0x60a), (0x60c,0x60c), (0x60e,0x60f), (0x66a,0x66a), (0x6de,0x6de),
    (0x6e9,0x6e9), (0x7f6,0x7f9), (0x9f2,0x9f3), (0x9fb,0x9fb), (0xaf1,0xaf1), (0xbf3,0xbfa),
    (0xc78,0xc7e), (0xe3f,0xe3f), (0xf3a,0xf3d), (0x1390,0x1399), (0x1400,0x1400), (0x1680,0x1680),
    (0x169b,0x169c), (0x17db,0x17db), (0x17f0,0x17f9), (0x1800,0x180a), (0x180e,0x180e),
    (0x1940,0x1940), (0x1944,0x1945), (0x19de,0x19ff), (0x1fbd,0x1fbd), (0x1fbf,0x1fc1),
    (0x1fcd,0x1fcf), (0x1fdd,0x1fdf), (0x1fed,0x1fef), (0x1ffd,0x1ffe), (0x2000,0x200d),
    (0x2010,0x206f), (0x207a,0x207e), (0x208a,0x208e), (0x20a0,0x20cf), (0x2100,0x2101),
    (0x2103,0x2106), (0x2108,0x2109), (0x2114,0x2114), (0x2116,0x2118), (0x211e,0x2123),
    (0x2125,0x2125), (0x2127,0x2127), (0x2129,0x2129), (0x212e,0x212e), (0x213a,0x213b),
    (0x2140,0x2144), (0x214a,0x214d), (0x2150,0x215f), (0x2189,0x218b), (0x2190,0x2335),
    (0x237b,0x2394), (0x2396,0x2429), (0x2440,0x244a), (0x2460,0x2487), (0x24ea,0x26ab),
    (0x26ad,0x27ff), (0x2900,0x2b73), (0x2b76,0x2bff), (0x2ce5,0x2cea), (0x2cf9,0x2cff),
    (0x2e00,0x2e5d), (0x2e80,0x2e99), (0x2e9b,0x2ef3), (0x2f00,0x2fd5), (0x2ff0,0x3004),
    (0x3008,0x3020), (0x3030,0x3030), (0x3036,0x3037), (0x303d,0x303f), (0x309b,0x309c),
    (0x30a0,0x30a0), (0x30fb,0x30fb), (0x31c0,0x31e5), (0x31ef,0x31ef), (0x321d,0x321e),
    (0x3250,0x325f), (0x327c,0x327e), (0x32b1,0x32bf), (0x32cc,0x32cf), (0x3377,0x337a),
    (0x33de,0x33df), (0x33ff,0x33ff), (0x4dc0,0x4dff), (0xa490,0xa4c6), (0xa60d,0xa60f),
    (0xa673,0xa673), (0xa67e,0xa67f), (0xa700,0xa721), (0xa788,0xa788), (0xa828,0xa82b),
    (0xa838,0xa839), (0xa874,0xa877), (0xab6a,0xab6b), (0xfb29,0xfb29), (0xfbc3,0xfbd2),
    (0xfd3e,0xfd4f), (0xfd90,0xfd91), (0xfdc8,0xfdef), (0xfdfd,0xfdff), (0xfe10,0xfe19),
    (0xfe30,0xfe52), (0xfe54,0xfe66), (0xfe68,0xfe6b), (0xfeff,0xfeff), (0xff01,0xff0f),
    (0xff1a,0xff20), (0xff3b,0xff40), (0xff5b,0xff65), (0xffe0,0xffe6), (0xffe8,0xffee),
    (0xfff0,0xffff), (0x10101,0x10101), (0x10140,0x1018c), (0x10190,0x1019c), (0x101a0,0x101a0),
    (0x1091f,0x1091f), (0x10b39,0x10b3f), (0x10d6e,0x10d6e), (0x10ed1,0x10ed8), (0x11052,0x11065),
    (0x11660,0x1166c), (0x11fd5,0x11ff1), (0x16fe2,0x16fe2), (0x1bca0,0x1bca3), (0x1cc00,0x1ccef),
    (0x1ccfa,0x1ccfc), (0x1cd00,0x1ceb3), (0x1ceba,0x1ced0), (0x1cee0,0x1cef0), (0x1d173,0x1d17a),
    (0x1d1e9,0x1d1ea), (0x1d200,0x1d241), (0x1d245,0x1d245), (0x1d300,0x1d356), (0x1d6db,0x1d6db),
    (0x1d715,0x1d715), (0x1d74f,0x1d74f), (0x1d789,0x1d789), (0x1d7c3,0x1d7c3), (0x1e2ff,0x1e2ff),
    (0x1eef0,0x1eef1), (0x1f000,0x1f02b), (0x1f030,0x1f093), (0x1f0a0,0x1f0ae), (0x1f0b1,0x1f0bf),
    (0x1f0c1,0x1f0cf), (0x1f0d1,0x1f0f5), (0x1f10b,0x1f10f), (0x1f12f,0x1f12f), (0x1f16a,0x1f16f),
    (0x1f1ad,0x1f1ad), (0x1f260,0x1f265), (0x1f300,0x1f6d8), (0x1f6dc,0x1f6ec), (0x1f6f0,0x1f6fc),
    (0x1f700,0x1f7d9), (0x1f7e0,0x1f7eb), (0x1f7f0,0x1f7f0), (0x1f800,0x1f80b), (0x1f810,0x1f847),
    (0x1f850,0x1f859), (0x1f860,0x1f887), (0x1f890,0x1f8ad), (0x1f8b0,0x1f8bb), (0x1f8c0,0x1f8c1),
    (0x1f8d0,0x1f8d8), (0x1f900,0x1fa57), (0x1fa60,0x1fa6d), (0x1fa70,0x1fa7c), (0x1fa80,0x1fa8a),
    (0x1fa8e,0x1fac6), (0x1fac8,0x1fac8), (0x1facd,0x1fadc), (0x1fadf,0x1faea), (0x1faef,0x1faf8),
    (0x1fb00,0x1fb92), (0x1fb94,0x1fbef), (0x1fbfa,0x1fbfa), (0x1fffe,0x1ffff), (0x2fffe,0x2ffff),
    (0x3fffe,0x3ffff), (0x4fffe,0x4ffff), (0x5fffe,0x5ffff), (0x6fffe,0x6ffff), (0x7fffe,0x7ffff),
    (0x8fffe,0x8ffff), (0x9fffe,0x9ffff), (0xafffe,0xaffff), (0xbfffe,0xbffff), (0xcfffe,0xcffff),
    (0xdfffe,0xe00ff), (0xe01f0,0xe0fff), (0xefffe,0xeffff), (0xffffe,0xfffff), (0x10fffe,0x10ffff)]

/-- The marks without room that have a direction nonetheless, from left to right. -/
def leftMarks : List Nat := [0xcbf, 0xcc6, 0x11a07, 0x11a08, 0x11c3f]

/-- The class of a character. -/
def Direction.of (c : Char) : Direction :=
  if c.toNat < 0x80 then
    if c.isDigit then .europeanNumber else if c.isAlpha then .left else .neutral
  else if rightRanges.has c then .right
  else if arabicNumberRanges.has c then .arabicNumber
  else if europeanNumberRanges.has c then .europeanNumber
  else if neutralRanges.has c then .neutral
  else if isNonspacing c && !leftMarks.contains c.toNat then .mark
  else .left

end Fleet.Text
