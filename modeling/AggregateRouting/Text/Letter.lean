/-! # Letters with case

Which characters are upper-case letters, which are lower-case ones, and what an upper-case letter
becomes in lower case. One table answers all three, so no character is both. -/

namespace AggregateRouting

/-- A letter that has a case; an upper-case one carries its lower-case form. -/
inductive Letter
  | lower
  | upper (lowercase : List Char)
  deriving DecidableEq

namespace Letter

/-- What the characters of a run have in common: all are lower case, all are upper case and lie the
same distance from their lower-case forms (zero if there are none), or the two alternate. -/
inductive Pattern
  | lower
  | upper (shift : Int)
  | paired

structure Run where
  first : Nat
  last : Nat
  pattern : Pattern

def runs : List Run :=
  [⟨0x41, 0x5a, .upper 32⟩, ⟨0x61, 0x7a, .lower⟩, ⟨0xaa, 0xaa, .lower⟩, ⟨0xb5, 0xb5, .lower⟩,
    ⟨0xba, 0xba, .lower⟩, ⟨0xc0, 0xd6, .upper 32⟩, ⟨0xd8, 0xde, .upper 32⟩, ⟨0xdf, 0xf6, .lower⟩,
    ⟨0xf8, 0xff, .lower⟩, ⟨0x100, 0x12f, .paired⟩, ⟨0x130, 0x130, .upper 0⟩,
    ⟨0x131, 0x131, .lower⟩, ⟨0x132, 0x137, .paired⟩, ⟨0x138, 0x138, .lower⟩,
    ⟨0x139, 0x148, .paired⟩, ⟨0x149, 0x149, .lower⟩, ⟨0x14a, 0x177, .paired⟩,
    ⟨0x178, 0x178, .upper (-121)⟩, ⟨0x179, 0x17e, .paired⟩, ⟨0x17f, 0x180, .lower⟩,
    ⟨0x181, 0x181, .upper 210⟩, ⟨0x182, 0x185, .paired⟩, ⟨0x186, 0x186, .upper 206⟩,
    ⟨0x187, 0x188, .paired⟩, ⟨0x189, 0x18a, .upper 205⟩, ⟨0x18b, 0x18c, .paired⟩,
    ⟨0x18d, 0x18d, .lower⟩, ⟨0x18e, 0x18e, .upper 79⟩, ⟨0x18f, 0x18f, .upper 202⟩,
    ⟨0x190, 0x190, .upper 203⟩, ⟨0x191, 0x192, .paired⟩, ⟨0x193, 0x193, .upper 205⟩,
    ⟨0x194, 0x194, .upper 207⟩, ⟨0x195, 0x195, .lower⟩, ⟨0x196, 0x196, .upper 211⟩,
    ⟨0x197, 0x197, .upper 209⟩, ⟨0x198, 0x199, .paired⟩, ⟨0x19a, 0x19b, .lower⟩,
    ⟨0x19c, 0x19c, .upper 211⟩, ⟨0x19d, 0x19d, .upper 213⟩, ⟨0x19e, 0x19e, .lower⟩,
    ⟨0x19f, 0x19f, .upper 214⟩, ⟨0x1a0, 0x1a5, .paired⟩, ⟨0x1a6, 0x1a6, .upper 218⟩,
    ⟨0x1a7, 0x1a8, .paired⟩, ⟨0x1a9, 0x1a9, .upper 218⟩, ⟨0x1aa, 0x1ab, .lower⟩,
    ⟨0x1ac, 0x1ad, .paired⟩, ⟨0x1ae, 0x1ae, .upper 218⟩, ⟨0x1af, 0x1b0, .paired⟩,
    ⟨0x1b1, 0x1b2, .upper 217⟩, ⟨0x1b3, 0x1b6, .paired⟩, ⟨0x1b7, 0x1b7, .upper 219⟩,
    ⟨0x1b8, 0x1b9, .paired⟩, ⟨0x1ba, 0x1ba, .lower⟩, ⟨0x1bc, 0x1bd, .paired⟩,
    ⟨0x1be, 0x1bf, .lower⟩, ⟨0x1c4, 0x1c4, .upper 2⟩, ⟨0x1c6, 0x1c6, .lower⟩,
    ⟨0x1c7, 0x1c7, .upper 2⟩, ⟨0x1c9, 0x1c9, .lower⟩, ⟨0x1ca, 0x1ca, .upper 2⟩,
    ⟨0x1cc, 0x1cc, .lower⟩, ⟨0x1cd, 0x1dc, .paired⟩, ⟨0x1dd, 0x1dd, .lower⟩,
    ⟨0x1de, 0x1ef, .paired⟩, ⟨0x1f0, 0x1f0, .lower⟩, ⟨0x1f1, 0x1f1, .upper 2⟩,
    ⟨0x1f3, 0x1f3, .lower⟩, ⟨0x1f4, 0x1f5, .paired⟩, ⟨0x1f6, 0x1f6, .upper (-97)⟩,
    ⟨0x1f7, 0x1f7, .upper (-56)⟩, ⟨0x1f8, 0x21f, .paired⟩, ⟨0x220, 0x220, .upper (-130)⟩,
    ⟨0x221, 0x221, .lower⟩, ⟨0x222, 0x233, .paired⟩, ⟨0x234, 0x239, .lower⟩,
    ⟨0x23a, 0x23a, .upper 10795⟩, ⟨0x23b, 0x23c, .paired⟩, ⟨0x23d, 0x23d, .upper (-163)⟩,
    ⟨0x23e, 0x23e, .upper 10792⟩, ⟨0x23f, 0x240, .lower⟩, ⟨0x241, 0x242, .paired⟩,
    ⟨0x243, 0x243, .upper (-195)⟩, ⟨0x244, 0x244, .upper 69⟩, ⟨0x245, 0x245, .upper 71⟩,
    ⟨0x246, 0x24f, .paired⟩, ⟨0x250, 0x293, .lower⟩, ⟨0x296, 0x2b8, .lower⟩,
    ⟨0x2c0, 0x2c1, .lower⟩, ⟨0x2e0, 0x2e4, .lower⟩, ⟨0x345, 0x345, .lower⟩,
    ⟨0x370, 0x373, .paired⟩, ⟨0x376, 0x377, .paired⟩, ⟨0x37a, 0x37d, .lower⟩,
    ⟨0x37f, 0x37f, .upper 116⟩, ⟨0x386, 0x386, .upper 38⟩, ⟨0x388, 0x38a, .upper 37⟩,
    ⟨0x38c, 0x38c, .upper 64⟩, ⟨0x38e, 0x38f, .upper 63⟩, ⟨0x390, 0x390, .lower⟩,
    ⟨0x391, 0x3a1, .upper 32⟩, ⟨0x3a3, 0x3ab, .upper 32⟩, ⟨0x3ac, 0x3ce, .lower⟩,
    ⟨0x3cf, 0x3cf, .upper 8⟩, ⟨0x3d0, 0x3d1, .lower⟩, ⟨0x3d2, 0x3d4, .upper 0⟩,
    ⟨0x3d5, 0x3d7, .lower⟩, ⟨0x3d8, 0x3ef, .paired⟩, ⟨0x3f0, 0x3f3, .lower⟩,
    ⟨0x3f4, 0x3f4, .upper (-60)⟩, ⟨0x3f5, 0x3f5, .lower⟩, ⟨0x3f7, 0x3f8, .paired⟩,
    ⟨0x3f9, 0x3f9, .upper (-7)⟩, ⟨0x3fa, 0x3fb, .paired⟩, ⟨0x3fc, 0x3fc, .lower⟩,
    ⟨0x3fd, 0x3ff, .upper (-130)⟩, ⟨0x400, 0x40f, .upper 80⟩, ⟨0x410, 0x42f, .upper 32⟩,
    ⟨0x430, 0x45f, .lower⟩, ⟨0x460, 0x481, .paired⟩, ⟨0x48a, 0x4bf, .paired⟩,
    ⟨0x4c0, 0x4c0, .upper 15⟩, ⟨0x4c1, 0x4ce, .paired⟩, ⟨0x4cf, 0x4cf, .lower⟩,
    ⟨0x4d0, 0x52f, .paired⟩, ⟨0x531, 0x556, .upper 48⟩, ⟨0x560, 0x588, .lower⟩,
    ⟨0x10a0, 0x10c5, .upper 7264⟩, ⟨0x10c7, 0x10c7, .upper 7264⟩, ⟨0x10cd, 0x10cd, .upper 7264⟩,
    ⟨0x10d0, 0x10fa, .lower⟩, ⟨0x10fc, 0x10ff, .lower⟩, ⟨0x13a0, 0x13ef, .upper 38864⟩,
    ⟨0x13f0, 0x13f5, .upper 8⟩, ⟨0x13f8, 0x13fd, .lower⟩, ⟨0x1c80, 0x1c88, .lower⟩,
    ⟨0x1c89, 0x1c8a, .paired⟩, ⟨0x1c90, 0x1cba, .upper (-3008)⟩, ⟨0x1cbd, 0x1cbf, .upper (-3008)⟩,
    ⟨0x1d00, 0x1dbf, .lower⟩, ⟨0x1e00, 0x1e95, .paired⟩, ⟨0x1e96, 0x1e9d, .lower⟩,
    ⟨0x1e9e, 0x1e9e, .upper (-7615)⟩, ⟨0x1e9f, 0x1e9f, .lower⟩, ⟨0x1ea0, 0x1eff, .paired⟩,
    ⟨0x1f00, 0x1f07, .lower⟩, ⟨0x1f08, 0x1f0f, .upper (-8)⟩, ⟨0x1f10, 0x1f15, .lower⟩,
    ⟨0x1f18, 0x1f1d, .upper (-8)⟩, ⟨0x1f20, 0x1f27, .lower⟩, ⟨0x1f28, 0x1f2f, .upper (-8)⟩,
    ⟨0x1f30, 0x1f37, .lower⟩, ⟨0x1f38, 0x1f3f, .upper (-8)⟩, ⟨0x1f40, 0x1f45, .lower⟩,
    ⟨0x1f48, 0x1f4d, .upper (-8)⟩, ⟨0x1f50, 0x1f57, .lower⟩, ⟨0x1f59, 0x1f59, .upper (-8)⟩,
    ⟨0x1f5b, 0x1f5b, .upper (-8)⟩, ⟨0x1f5d, 0x1f5d, .upper (-8)⟩, ⟨0x1f5f, 0x1f5f, .upper (-8)⟩,
    ⟨0x1f60, 0x1f67, .lower⟩, ⟨0x1f68, 0x1f6f, .upper (-8)⟩, ⟨0x1f70, 0x1f7d, .lower⟩,
    ⟨0x1f80, 0x1f87, .lower⟩, ⟨0x1f90, 0x1f97, .lower⟩, ⟨0x1fa0, 0x1fa7, .lower⟩,
    ⟨0x1fb0, 0x1fb4, .lower⟩, ⟨0x1fb6, 0x1fb7, .lower⟩, ⟨0x1fb8, 0x1fb9, .upper (-8)⟩,
    ⟨0x1fba, 0x1fbb, .upper (-74)⟩, ⟨0x1fbe, 0x1fbe, .lower⟩, ⟨0x1fc2, 0x1fc4, .lower⟩,
    ⟨0x1fc6, 0x1fc7, .lower⟩, ⟨0x1fc8, 0x1fcb, .upper (-86)⟩, ⟨0x1fd0, 0x1fd3, .lower⟩,
    ⟨0x1fd6, 0x1fd7, .lower⟩, ⟨0x1fd8, 0x1fd9, .upper (-8)⟩, ⟨0x1fda, 0x1fdb, .upper (-100)⟩,
    ⟨0x1fe0, 0x1fe7, .lower⟩, ⟨0x1fe8, 0x1fe9, .upper (-8)⟩, ⟨0x1fea, 0x1feb, .upper (-112)⟩,
    ⟨0x1fec, 0x1fec, .upper (-7)⟩, ⟨0x1ff2, 0x1ff4, .lower⟩, ⟨0x1ff6, 0x1ff7, .lower⟩,
    ⟨0x1ff8, 0x1ff9, .upper (-128)⟩, ⟨0x1ffa, 0x1ffb, .upper (-126)⟩, ⟨0x2071, 0x2071, .lower⟩,
    ⟨0x207f, 0x207f, .lower⟩, ⟨0x2090, 0x209c, .lower⟩, ⟨0x2102, 0x2102, .upper 0⟩,
    ⟨0x2107, 0x2107, .upper 0⟩, ⟨0x210a, 0x210a, .lower⟩, ⟨0x210b, 0x210d, .upper 0⟩,
    ⟨0x210e, 0x210f, .lower⟩, ⟨0x2110, 0x2112, .upper 0⟩, ⟨0x2113, 0x2113, .lower⟩,
    ⟨0x2115, 0x2115, .upper 0⟩, ⟨0x2119, 0x211d, .upper 0⟩, ⟨0x2124, 0x2124, .upper 0⟩,
    ⟨0x2126, 0x2126, .upper (-7517)⟩, ⟨0x2128, 0x2128, .upper 0⟩,
    ⟨0x212a, 0x212a, .upper (-8383)⟩, ⟨0x212b, 0x212b, .upper (-8262)⟩,
    ⟨0x212c, 0x212d, .upper 0⟩, ⟨0x212f, 0x212f, .lower⟩, ⟨0x2130, 0x2131, .upper 0⟩,
    ⟨0x2132, 0x2132, .upper 28⟩, ⟨0x2133, 0x2133, .upper 0⟩, ⟨0x2134, 0x2134, .lower⟩,
    ⟨0x2139, 0x2139, .lower⟩, ⟨0x213c, 0x213d, .lower⟩, ⟨0x213e, 0x213f, .upper 0⟩,
    ⟨0x2145, 0x2145, .upper 0⟩, ⟨0x2146, 0x2149, .lower⟩, ⟨0x214e, 0x214e, .lower⟩,
    ⟨0x2160, 0x216f, .upper 16⟩, ⟨0x2170, 0x217f, .lower⟩, ⟨0x2183, 0x2184, .paired⟩,
    ⟨0x24b6, 0x24cf, .upper 26⟩, ⟨0x24d0, 0x24e9, .lower⟩, ⟨0x2c00, 0x2c2f, .upper 48⟩,
    ⟨0x2c30, 0x2c5f, .lower⟩, ⟨0x2c60, 0x2c61, .paired⟩, ⟨0x2c62, 0x2c62, .upper (-10743)⟩,
    ⟨0x2c63, 0x2c63, .upper (-3814)⟩, ⟨0x2c64, 0x2c64, .upper (-10727)⟩, ⟨0x2c65, 0x2c66, .lower⟩,
    ⟨0x2c67, 0x2c6c, .paired⟩, ⟨0x2c6d, 0x2c6d, .upper (-10780)⟩,
    ⟨0x2c6e, 0x2c6e, .upper (-10749)⟩, ⟨0x2c6f, 0x2c6f, .upper (-10783)⟩,
    ⟨0x2c70, 0x2c70, .upper (-10782)⟩, ⟨0x2c71, 0x2c71, .lower⟩, ⟨0x2c72, 0x2c73, .paired⟩,
    ⟨0x2c74, 0x2c74, .lower⟩, ⟨0x2c75, 0x2c76, .paired⟩, ⟨0x2c77, 0x2c7d, .lower⟩,
    ⟨0x2c7e, 0x2c7f, .upper (-10815)⟩, ⟨0x2c80, 0x2ce3, .paired⟩, ⟨0x2ce4, 0x2ce4, .lower⟩,
    ⟨0x2ceb, 0x2cee, .paired⟩, ⟨0x2cf2, 0x2cf3, .paired⟩, ⟨0x2d00, 0x2d25, .lower⟩,
    ⟨0x2d27, 0x2d27, .lower⟩, ⟨0x2d2d, 0x2d2d, .lower⟩, ⟨0xa640, 0xa66d, .paired⟩,
    ⟨0xa680, 0xa69b, .paired⟩, ⟨0xa69c, 0xa69d, .lower⟩, ⟨0xa722, 0xa72f, .paired⟩,
    ⟨0xa730, 0xa731, .lower⟩, ⟨0xa732, 0xa76f, .paired⟩, ⟨0xa770, 0xa778, .lower⟩,
    ⟨0xa779, 0xa77c, .paired⟩, ⟨0xa77d, 0xa77d, .upper (-35332)⟩, ⟨0xa77e, 0xa787, .paired⟩,
    ⟨0xa78b, 0xa78c, .paired⟩, ⟨0xa78d, 0xa78d, .upper (-42280)⟩, ⟨0xa78e, 0xa78e, .lower⟩,
    ⟨0xa790, 0xa793, .paired⟩, ⟨0xa794, 0xa795, .lower⟩, ⟨0xa796, 0xa7a9, .paired⟩,
    ⟨0xa7aa, 0xa7aa, .upper (-42308)⟩, ⟨0xa7ab, 0xa7ab, .upper (-42319)⟩,
    ⟨0xa7ac, 0xa7ac, .upper (-42315)⟩, ⟨0xa7ad, 0xa7ad, .upper (-42305)⟩,
    ⟨0xa7ae, 0xa7ae, .upper (-42308)⟩, ⟨0xa7af, 0xa7af, .lower⟩,
    ⟨0xa7b0, 0xa7b0, .upper (-42258)⟩, ⟨0xa7b1, 0xa7b1, .upper (-42282)⟩,
    ⟨0xa7b2, 0xa7b2, .upper (-42261)⟩, ⟨0xa7b3, 0xa7b3, .upper 928⟩, ⟨0xa7b4, 0xa7c3, .paired⟩,
    ⟨0xa7c4, 0xa7c4, .upper (-48)⟩, ⟨0xa7c5, 0xa7c5, .upper (-42307)⟩,
    ⟨0xa7c6, 0xa7c6, .upper (-35384)⟩, ⟨0xa7c7, 0xa7ca, .paired⟩,
    ⟨0xa7cb, 0xa7cb, .upper (-42343)⟩, ⟨0xa7cc, 0xa7db, .paired⟩,
    ⟨0xa7dc, 0xa7dc, .upper (-42561)⟩, ⟨0xa7f1, 0xa7f4, .lower⟩, ⟨0xa7f5, 0xa7f6, .paired⟩,
    ⟨0xa7f8, 0xa7fa, .lower⟩, ⟨0xab30, 0xab5a, .lower⟩, ⟨0xab5c, 0xab69, .lower⟩,
    ⟨0xab70, 0xabbf, .lower⟩, ⟨0xfb00, 0xfb06, .lower⟩, ⟨0xfb13, 0xfb17, .lower⟩,
    ⟨0xff21, 0xff3a, .upper 32⟩, ⟨0xff41, 0xff5a, .lower⟩, ⟨0x10400, 0x10427, .upper 40⟩,
    ⟨0x10428, 0x1044f, .lower⟩, ⟨0x104b0, 0x104d3, .upper 40⟩, ⟨0x104d8, 0x104fb, .lower⟩,
    ⟨0x10570, 0x1057a, .upper 39⟩, ⟨0x1057c, 0x1058a, .upper 39⟩, ⟨0x1058c, 0x10592, .upper 39⟩,
    ⟨0x10594, 0x10595, .upper 39⟩, ⟨0x10597, 0x105a1, .lower⟩, ⟨0x105a3, 0x105b1, .lower⟩,
    ⟨0x105b3, 0x105b9, .lower⟩, ⟨0x105bb, 0x105bc, .lower⟩, ⟨0x10780, 0x10780, .lower⟩,
    ⟨0x10783, 0x10785, .lower⟩, ⟨0x10787, 0x107b0, .lower⟩, ⟨0x107b2, 0x107ba, .lower⟩,
    ⟨0x10c80, 0x10cb2, .upper 64⟩, ⟨0x10cc0, 0x10cf2, .lower⟩, ⟨0x10d50, 0x10d65, .upper 32⟩,
    ⟨0x10d70, 0x10d85, .lower⟩, ⟨0x118a0, 0x118bf, .upper 32⟩, ⟨0x118c0, 0x118df, .lower⟩,
    ⟨0x16e40, 0x16e5f, .upper 32⟩, ⟨0x16e60, 0x16e7f, .lower⟩, ⟨0x16ea0, 0x16eb8, .upper 27⟩,
    ⟨0x16ebb, 0x16ed3, .lower⟩, ⟨0x1d400, 0x1d419, .upper 0⟩, ⟨0x1d41a, 0x1d433, .lower⟩,
    ⟨0x1d434, 0x1d44d, .upper 0⟩, ⟨0x1d44e, 0x1d454, .lower⟩, ⟨0x1d456, 0x1d467, .lower⟩,
    ⟨0x1d468, 0x1d481, .upper 0⟩, ⟨0x1d482, 0x1d49b, .lower⟩, ⟨0x1d49c, 0x1d49c, .upper 0⟩,
    ⟨0x1d49e, 0x1d49f, .upper 0⟩, ⟨0x1d4a2, 0x1d4a2, .upper 0⟩, ⟨0x1d4a5, 0x1d4a6, .upper 0⟩,
    ⟨0x1d4a9, 0x1d4ac, .upper 0⟩, ⟨0x1d4ae, 0x1d4b5, .upper 0⟩, ⟨0x1d4b6, 0x1d4b9, .lower⟩,
    ⟨0x1d4bb, 0x1d4bb, .lower⟩, ⟨0x1d4bd, 0x1d4c3, .lower⟩, ⟨0x1d4c5, 0x1d4cf, .lower⟩,
    ⟨0x1d4d0, 0x1d4e9, .upper 0⟩, ⟨0x1d4ea, 0x1d503, .lower⟩, ⟨0x1d504, 0x1d505, .upper 0⟩,
    ⟨0x1d507, 0x1d50a, .upper 0⟩, ⟨0x1d50d, 0x1d514, .upper 0⟩, ⟨0x1d516, 0x1d51c, .upper 0⟩,
    ⟨0x1d51e, 0x1d537, .lower⟩, ⟨0x1d538, 0x1d539, .upper 0⟩, ⟨0x1d53b, 0x1d53e, .upper 0⟩,
    ⟨0x1d540, 0x1d544, .upper 0⟩, ⟨0x1d546, 0x1d546, .upper 0⟩, ⟨0x1d54a, 0x1d550, .upper 0⟩,
    ⟨0x1d552, 0x1d56b, .lower⟩, ⟨0x1d56c, 0x1d585, .upper 0⟩, ⟨0x1d586, 0x1d59f, .lower⟩,
    ⟨0x1d5a0, 0x1d5b9, .upper 0⟩, ⟨0x1d5ba, 0x1d5d3, .lower⟩, ⟨0x1d5d4, 0x1d5ed, .upper 0⟩,
    ⟨0x1d5ee, 0x1d607, .lower⟩, ⟨0x1d608, 0x1d621, .upper 0⟩, ⟨0x1d622, 0x1d63b, .lower⟩,
    ⟨0x1d63c, 0x1d655, .upper 0⟩, ⟨0x1d656, 0x1d66f, .lower⟩, ⟨0x1d670, 0x1d689, .upper 0⟩,
    ⟨0x1d68a, 0x1d6a5, .lower⟩, ⟨0x1d6a8, 0x1d6c0, .upper 0⟩, ⟨0x1d6c2, 0x1d6da, .lower⟩,
    ⟨0x1d6dc, 0x1d6e1, .lower⟩, ⟨0x1d6e2, 0x1d6fa, .upper 0⟩, ⟨0x1d6fc, 0x1d714, .lower⟩,
    ⟨0x1d716, 0x1d71b, .lower⟩, ⟨0x1d71c, 0x1d734, .upper 0⟩, ⟨0x1d736, 0x1d74e, .lower⟩,
    ⟨0x1d750, 0x1d755, .lower⟩, ⟨0x1d756, 0x1d76e, .upper 0⟩, ⟨0x1d770, 0x1d788, .lower⟩,
    ⟨0x1d78a, 0x1d78f, .lower⟩, ⟨0x1d790, 0x1d7a8, .upper 0⟩, ⟨0x1d7aa, 0x1d7c2, .lower⟩,
    ⟨0x1d7c4, 0x1d7c9, .lower⟩, ⟨0x1d7ca, 0x1d7ca, .upper 0⟩, ⟨0x1d7cb, 0x1d7cb, .lower⟩,
    ⟨0x1df00, 0x1df09, .lower⟩, ⟨0x1df0b, 0x1df1e, .lower⟩, ⟨0x1df25, 0x1df2a, .lower⟩,
    ⟨0x1e030, 0x1e06d, .lower⟩, ⟨0x1e900, 0x1e921, .upper 34⟩, ⟨0x1e922, 0x1e943, .lower⟩,
    ⟨0x1f130, 0x1f149, .upper 0⟩, ⟨0x1f150, 0x1f169, .upper 0⟩, ⟨0x1f170, 0x1f189, .upper 0⟩]

def Run.letter (r : Run) (n : Nat) : Letter :=
  match r.pattern with
  | .lower => .lower
  | .upper shift => .upper [Char.ofNat (n + shift).toNat]
  | .paired => if (n - r.first) % 2 = 0 then .upper [Char.ofNat (n + 1)] else .lower

/-- The letter that a character is, if it has a case. The dotted capital I is the one letter whose
lower-case form has two characters. -/
def ofChar? (c : Char) : Option Letter :=
  if c = '\u0130' then some (.upper ['i', '\u0307'])
  else (runs.find? fun r => r.first ≤ c.toNat && c.toNat ≤ r.last).map (·.letter c.toNat)

def isUpper (c : Char) : Bool :=
  match ofChar? c with
  | some (.upper _) => true
  | _ => false

def isLower (c : Char) : Bool :=
  ofChar? c == some .lower

/-- The lower-case form of an upper-case letter; any other character is its own. -/
def lowercase (c : Char) : List Char :=
  match ofChar? c with
  | some (.upper cs) => cs
  | _ => [c]

theorem isUpper_iff {c : Char} : isUpper c = true ↔ ofChar? c = some (.upper (lowercase c)) := by
  unfold isUpper lowercase
  split <;> simp_all

theorem not_isLower_of_isUpper {c : Char} (h : isUpper c = true) : isLower c = false := by
  simp [isLower, isUpper_iff.1 h]

end Letter
end AggregateRouting
