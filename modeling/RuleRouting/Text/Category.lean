import RuleRouting.Text.CodeRanges

/-!
# General categories

Every code point has one general category of the Unicode standard (version 15.0.0), named by a
two-letter code; unassigned code points are `Cn`. The table lists maximal runs of code points
of one category, sorted, covering `0 … 0x10FFFF`. A category group (`L`, `LC`, `M`, `N`, `P`,
`S`, `Z`, `C`) is the union of the categories whose code starts with its letter (`LC`: `Lu`,
`Ll`, `Lt`).
-/

namespace RuleRouting.Text

/-- The codes of the categories, by index. -/
def categoryCodes : Array String :=
  #["Cc", "Cf", "Cn", "Co", "Cs", "Ll", "Lm", "Lo", "Lt", "Lu", "Mc", "Me", "Mn", "Nd", "Nl", "No", "Pc", "Pd", "Pe", "Pf", "Pi", "Po", "Ps", "Sc", "Sk", "Sm", "So", "Zl", "Zp", "Zs"]

/-- Entries 0 onwards of `categoryRuns`. -/
def categoryRunsPart0 : Array (Nat × Nat × Nat) := #[
  (0x0, 0x1F, 0), (0x20, 0x20, 29), (0x21, 0x23, 21), (0x24, 0x24, 23), (0x25, 0x27, 21), (0x28, 0x28, 22),
  (0x29, 0x29, 18), (0x2A, 0x2A, 21), (0x2B, 0x2B, 25), (0x2C, 0x2C, 21), (0x2D, 0x2D, 17), (0x2E, 0x2F, 21),
  (0x30, 0x39, 13), (0x3A, 0x3B, 21), (0x3C, 0x3E, 25), (0x3F, 0x40, 21), (0x41, 0x5A, 9), (0x5B, 0x5B, 22),
  (0x5C, 0x5C, 21), (0x5D, 0x5D, 18), (0x5E, 0x5E, 24), (0x5F, 0x5F, 16), (0x60, 0x60, 24), (0x61, 0x7A, 5),
  (0x7B, 0x7B, 22), (0x7C, 0x7C, 25), (0x7D, 0x7D, 18), (0x7E, 0x7E, 25), (0x7F, 0x9F, 0), (0xA0, 0xA0, 29),
  (0xA1, 0xA1, 21), (0xA2, 0xA5, 23), (0xA6, 0xA6, 26), (0xA7, 0xA7, 21), (0xA8, 0xA8, 24), (0xA9, 0xA9, 26),
  (0xAA, 0xAA, 7), (0xAB, 0xAB, 20), (0xAC, 0xAC, 25), (0xAD, 0xAD, 1), (0xAE, 0xAE, 26), (0xAF, 0xAF, 24),
  (0xB0, 0xB0, 26), (0xB1, 0xB1, 25), (0xB2, 0xB3, 15), (0xB4, 0xB4, 24), (0xB5, 0xB5, 5), (0xB6, 0xB7, 21),
  (0xB8, 0xB8, 24), (0xB9, 0xB9, 15), (0xBA, 0xBA, 7), (0xBB, 0xBB, 19), (0xBC, 0xBE, 15), (0xBF, 0xBF, 21),
  (0xC0, 0xD6, 9), (0xD7, 0xD7, 25), (0xD8, 0xDE, 9), (0xDF, 0xF6, 5), (0xF7, 0xF7, 25), (0xF8, 0xFF, 5),
  (0x100, 0x100, 9), (0x101, 0x101, 5), (0x102, 0x102, 9), (0x103, 0x103, 5), (0x104, 0x104, 9), (0x105, 0x105, 5),
  (0x106, 0x106, 9), (0x107, 0x107, 5), (0x108, 0x108, 9), (0x109, 0x109, 5), (0x10A, 0x10A, 9), (0x10B, 0x10B, 5),
  (0x10C, 0x10C, 9), (0x10D, 0x10D, 5), (0x10E, 0x10E, 9), (0x10F, 0x10F, 5), (0x110, 0x110, 9), (0x111, 0x111, 5),
  (0x112, 0x112, 9), (0x113, 0x113, 5), (0x114, 0x114, 9), (0x115, 0x115, 5), (0x116, 0x116, 9), (0x117, 0x117, 5),
  (0x118, 0x118, 9), (0x119, 0x119, 5), (0x11A, 0x11A, 9), (0x11B, 0x11B, 5), (0x11C, 0x11C, 9), (0x11D, 0x11D, 5),
  (0x11E, 0x11E, 9), (0x11F, 0x11F, 5), (0x120, 0x120, 9), (0x121, 0x121, 5), (0x122, 0x122, 9), (0x123, 0x123, 5),
  (0x124, 0x124, 9), (0x125, 0x125, 5), (0x126, 0x126, 9), (0x127, 0x127, 5), (0x128, 0x128, 9), (0x129, 0x129, 5),
  (0x12A, 0x12A, 9), (0x12B, 0x12B, 5), (0x12C, 0x12C, 9), (0x12D, 0x12D, 5), (0x12E, 0x12E, 9), (0x12F, 0x12F, 5),
  (0x130, 0x130, 9), (0x131, 0x131, 5), (0x132, 0x132, 9), (0x133, 0x133, 5), (0x134, 0x134, 9), (0x135, 0x135, 5),
  (0x136, 0x136, 9), (0x137, 0x138, 5), (0x139, 0x139, 9), (0x13A, 0x13A, 5), (0x13B, 0x13B, 9), (0x13C, 0x13C, 5),
  (0x13D, 0x13D, 9), (0x13E, 0x13E, 5), (0x13F, 0x13F, 9), (0x140, 0x140, 5), (0x141, 0x141, 9), (0x142, 0x142, 5),
  (0x143, 0x143, 9), (0x144, 0x144, 5), (0x145, 0x145, 9), (0x146, 0x146, 5), (0x147, 0x147, 9), (0x148, 0x149, 5),
  (0x14A, 0x14A, 9), (0x14B, 0x14B, 5), (0x14C, 0x14C, 9), (0x14D, 0x14D, 5), (0x14E, 0x14E, 9), (0x14F, 0x14F, 5),
  (0x150, 0x150, 9), (0x151, 0x151, 5), (0x152, 0x152, 9), (0x153, 0x153, 5), (0x154, 0x154, 9), (0x155, 0x155, 5),
  (0x156, 0x156, 9), (0x157, 0x157, 5), (0x158, 0x158, 9), (0x159, 0x159, 5), (0x15A, 0x15A, 9), (0x15B, 0x15B, 5),
  (0x15C, 0x15C, 9), (0x15D, 0x15D, 5), (0x15E, 0x15E, 9), (0x15F, 0x15F, 5), (0x160, 0x160, 9), (0x161, 0x161, 5),
  (0x162, 0x162, 9), (0x163, 0x163, 5), (0x164, 0x164, 9), (0x165, 0x165, 5), (0x166, 0x166, 9), (0x167, 0x167, 5),
  (0x168, 0x168, 9), (0x169, 0x169, 5), (0x16A, 0x16A, 9), (0x16B, 0x16B, 5), (0x16C, 0x16C, 9), (0x16D, 0x16D, 5),
  (0x16E, 0x16E, 9), (0x16F, 0x16F, 5), (0x170, 0x170, 9), (0x171, 0x171, 5), (0x172, 0x172, 9), (0x173, 0x173, 5),
  (0x174, 0x174, 9), (0x175, 0x175, 5), (0x176, 0x176, 9), (0x177, 0x177, 5), (0x178, 0x179, 9), (0x17A, 0x17A, 5),
  (0x17B, 0x17B, 9), (0x17C, 0x17C, 5), (0x17D, 0x17D, 9), (0x17E, 0x180, 5), (0x181, 0x182, 9), (0x183, 0x183, 5),
  (0x184, 0x184, 9), (0x185, 0x185, 5), (0x186, 0x187, 9), (0x188, 0x188, 5), (0x189, 0x18B, 9), (0x18C, 0x18D, 5),
  (0x18E, 0x191, 9), (0x192, 0x192, 5), (0x193, 0x194, 9), (0x195, 0x195, 5), (0x196, 0x198, 9), (0x199, 0x19B, 5),
  (0x19C, 0x19D, 9), (0x19E, 0x19E, 5), (0x19F, 0x1A0, 9), (0x1A1, 0x1A1, 5), (0x1A2, 0x1A2, 9), (0x1A3, 0x1A3, 5),
  (0x1A4, 0x1A4, 9), (0x1A5, 0x1A5, 5), (0x1A6, 0x1A7, 9), (0x1A8, 0x1A8, 5), (0x1A9, 0x1A9, 9), (0x1AA, 0x1AB, 5),
  (0x1AC, 0x1AC, 9), (0x1AD, 0x1AD, 5), (0x1AE, 0x1AF, 9), (0x1B0, 0x1B0, 5), (0x1B1, 0x1B3, 9), (0x1B4, 0x1B4, 5),
  (0x1B5, 0x1B5, 9), (0x1B6, 0x1B6, 5), (0x1B7, 0x1B8, 9), (0x1B9, 0x1BA, 5), (0x1BB, 0x1BB, 7), (0x1BC, 0x1BC, 9),
  (0x1BD, 0x1BF, 5), (0x1C0, 0x1C3, 7), (0x1C4, 0x1C4, 9), (0x1C5, 0x1C5, 8), (0x1C6, 0x1C6, 5), (0x1C7, 0x1C7, 9),
  (0x1C8, 0x1C8, 8), (0x1C9, 0x1C9, 5), (0x1CA, 0x1CA, 9), (0x1CB, 0x1CB, 8), (0x1CC, 0x1CC, 5), (0x1CD, 0x1CD, 9),
  (0x1CE, 0x1CE, 5), (0x1CF, 0x1CF, 9), (0x1D0, 0x1D0, 5), (0x1D1, 0x1D1, 9), (0x1D2, 0x1D2, 5), (0x1D3, 0x1D3, 9),
  (0x1D4, 0x1D4, 5), (0x1D5, 0x1D5, 9), (0x1D6, 0x1D6, 5), (0x1D7, 0x1D7, 9), (0x1D8, 0x1D8, 5), (0x1D9, 0x1D9, 9),
  (0x1DA, 0x1DA, 5), (0x1DB, 0x1DB, 9), (0x1DC, 0x1DD, 5), (0x1DE, 0x1DE, 9), (0x1DF, 0x1DF, 5), (0x1E0, 0x1E0, 9),
  (0x1E1, 0x1E1, 5), (0x1E2, 0x1E2, 9), (0x1E3, 0x1E3, 5), (0x1E4, 0x1E4, 9), (0x1E5, 0x1E5, 5), (0x1E6, 0x1E6, 9),
  (0x1E7, 0x1E7, 5), (0x1E8, 0x1E8, 9), (0x1E9, 0x1E9, 5), (0x1EA, 0x1EA, 9), (0x1EB, 0x1EB, 5), (0x1EC, 0x1EC, 9),
  (0x1ED, 0x1ED, 5), (0x1EE, 0x1EE, 9), (0x1EF, 0x1F0, 5), (0x1F1, 0x1F1, 9), (0x1F2, 0x1F2, 8), (0x1F3, 0x1F3, 5),
  (0x1F4, 0x1F4, 9), (0x1F5, 0x1F5, 5), (0x1F6, 0x1F8, 9), (0x1F9, 0x1F9, 5), (0x1FA, 0x1FA, 9), (0x1FB, 0x1FB, 5),
  (0x1FC, 0x1FC, 9), (0x1FD, 0x1FD, 5), (0x1FE, 0x1FE, 9), (0x1FF, 0x1FF, 5), (0x200, 0x200, 9), (0x201, 0x201, 5),
  (0x202, 0x202, 9), (0x203, 0x203, 5), (0x204, 0x204, 9), (0x205, 0x205, 5), (0x206, 0x206, 9), (0x207, 0x207, 5),
  (0x208, 0x208, 9), (0x209, 0x209, 5), (0x20A, 0x20A, 9), (0x20B, 0x20B, 5), (0x20C, 0x20C, 9), (0x20D, 0x20D, 5),
  (0x20E, 0x20E, 9), (0x20F, 0x20F, 5), (0x210, 0x210, 9), (0x211, 0x211, 5), (0x212, 0x212, 9), (0x213, 0x213, 5),
  (0x214, 0x214, 9), (0x215, 0x215, 5), (0x216, 0x216, 9), (0x217, 0x217, 5), (0x218, 0x218, 9), (0x219, 0x219, 5),
  (0x21A, 0x21A, 9), (0x21B, 0x21B, 5), (0x21C, 0x21C, 9), (0x21D, 0x21D, 5), (0x21E, 0x21E, 9), (0x21F, 0x21F, 5),
  (0x220, 0x220, 9), (0x221, 0x221, 5), (0x222, 0x222, 9), (0x223, 0x223, 5), (0x224, 0x224, 9), (0x225, 0x225, 5),
  (0x226, 0x226, 9), (0x227, 0x227, 5), (0x228, 0x228, 9), (0x229, 0x229, 5), (0x22A, 0x22A, 9), (0x22B, 0x22B, 5),
  (0x22C, 0x22C, 9), (0x22D, 0x22D, 5), (0x22E, 0x22E, 9), (0x22F, 0x22F, 5), (0x230, 0x230, 9), (0x231, 0x231, 5),
  (0x232, 0x232, 9), (0x233, 0x239, 5), (0x23A, 0x23B, 9), (0x23C, 0x23C, 5), (0x23D, 0x23E, 9), (0x23F, 0x240, 5),
  (0x241, 0x241, 9), (0x242, 0x242, 5), (0x243, 0x246, 9), (0x247, 0x247, 5), (0x248, 0x248, 9), (0x249, 0x249, 5),
  (0x24A, 0x24A, 9), (0x24B, 0x24B, 5), (0x24C, 0x24C, 9), (0x24D, 0x24D, 5), (0x24E, 0x24E, 9), (0x24F, 0x293, 5),
  (0x294, 0x294, 7), (0x295, 0x2AF, 5), (0x2B0, 0x2C1, 6), (0x2C2, 0x2C5, 24), (0x2C6, 0x2D1, 6), (0x2D2, 0x2DF, 24),
  (0x2E0, 0x2E4, 6), (0x2E5, 0x2EB, 24), (0x2EC, 0x2EC, 6), (0x2ED, 0x2ED, 24), (0x2EE, 0x2EE, 6), (0x2EF, 0x2FF, 24),
  (0x300, 0x36F, 12), (0x370, 0x370, 9), (0x371, 0x371, 5), (0x372, 0x372, 9), (0x373, 0x373, 5), (0x374, 0x374, 6),
  (0x375, 0x375, 24), (0x376, 0x376, 9), (0x377, 0x377, 5), (0x378, 0x379, 2), (0x37A, 0x37A, 6), (0x37B, 0x37D, 5),
  (0x37E, 0x37E, 21), (0x37F, 0x37F, 9), (0x380, 0x383, 2), (0x384, 0x385, 24), (0x386, 0x386, 9), (0x387, 0x387, 21),
  (0x388, 0x38A, 9), (0x38B, 0x38B, 2), (0x38C, 0x38C, 9), (0x38D, 0x38D, 2), (0x38E, 0x38F, 9), (0x390, 0x390, 5),
  (0x391, 0x3A1, 9), (0x3A2, 0x3A2, 2), (0x3A3, 0x3AB, 9), (0x3AC, 0x3CE, 5), (0x3CF, 0x3CF, 9), (0x3D0, 0x3D1, 5),
  (0x3D2, 0x3D4, 9), (0x3D5, 0x3D7, 5), (0x3D8, 0x3D8, 9), (0x3D9, 0x3D9, 5), (0x3DA, 0x3DA, 9), (0x3DB, 0x3DB, 5),
  (0x3DC, 0x3DC, 9), (0x3DD, 0x3DD, 5), (0x3DE, 0x3DE, 9), (0x3DF, 0x3DF, 5)]

/-- Entries 400 onwards of `categoryRuns`. -/
def categoryRunsPart1 : Array (Nat × Nat × Nat) := #[
  (0x3E0, 0x3E0, 9), (0x3E1, 0x3E1, 5), (0x3E2, 0x3E2, 9), (0x3E3, 0x3E3, 5), (0x3E4, 0x3E4, 9), (0x3E5, 0x3E5, 5),
  (0x3E6, 0x3E6, 9), (0x3E7, 0x3E7, 5), (0x3E8, 0x3E8, 9), (0x3E9, 0x3E9, 5), (0x3EA, 0x3EA, 9), (0x3EB, 0x3EB, 5),
  (0x3EC, 0x3EC, 9), (0x3ED, 0x3ED, 5), (0x3EE, 0x3EE, 9), (0x3EF, 0x3F3, 5), (0x3F4, 0x3F4, 9), (0x3F5, 0x3F5, 5),
  (0x3F6, 0x3F6, 25), (0x3F7, 0x3F7, 9), (0x3F8, 0x3F8, 5), (0x3F9, 0x3FA, 9), (0x3FB, 0x3FC, 5), (0x3FD, 0x42F, 9),
  (0x430, 0x45F, 5), (0x460, 0x460, 9), (0x461, 0x461, 5), (0x462, 0x462, 9), (0x463, 0x463, 5), (0x464, 0x464, 9),
  (0x465, 0x465, 5), (0x466, 0x466, 9), (0x467, 0x467, 5), (0x468, 0x468, 9), (0x469, 0x469, 5), (0x46A, 0x46A, 9),
  (0x46B, 0x46B, 5), (0x46C, 0x46C, 9), (0x46D, 0x46D, 5), (0x46E, 0x46E, 9), (0x46F, 0x46F, 5), (0x470, 0x470, 9),
  (0x471, 0x471, 5), (0x472, 0x472, 9), (0x473, 0x473, 5), (0x474, 0x474, 9), (0x475, 0x475, 5), (0x476, 0x476, 9),
  (0x477, 0x477, 5), (0x478, 0x478, 9), (0x479, 0x479, 5), (0x47A, 0x47A, 9), (0x47B, 0x47B, 5), (0x47C, 0x47C, 9),
  (0x47D, 0x47D, 5), (0x47E, 0x47E, 9), (0x47F, 0x47F, 5), (0x480, 0x480, 9), (0x481, 0x481, 5), (0x482, 0x482, 26),
  (0x483, 0x487, 12), (0x488, 0x489, 11), (0x48A, 0x48A, 9), (0x48B, 0x48B, 5), (0x48C, 0x48C, 9), (0x48D, 0x48D, 5),
  (0x48E, 0x48E, 9), (0x48F, 0x48F, 5), (0x490, 0x490, 9), (0x491, 0x491, 5), (0x492, 0x492, 9), (0x493, 0x493, 5),
  (0x494, 0x494, 9), (0x495, 0x495, 5), (0x496, 0x496, 9), (0x497, 0x497, 5), (0x498, 0x498, 9), (0x499, 0x499, 5),
  (0x49A, 0x49A, 9), (0x49B, 0x49B, 5), (0x49C, 0x49C, 9), (0x49D, 0x49D, 5), (0x49E, 0x49E, 9), (0x49F, 0x49F, 5),
  (0x4A0, 0x4A0, 9), (0x4A1, 0x4A1, 5), (0x4A2, 0x4A2, 9), (0x4A3, 0x4A3, 5), (0x4A4, 0x4A4, 9), (0x4A5, 0x4A5, 5),
  (0x4A6, 0x4A6, 9), (0x4A7, 0x4A7, 5), (0x4A8, 0x4A8, 9), (0x4A9, 0x4A9, 5), (0x4AA, 0x4AA, 9), (0x4AB, 0x4AB, 5),
  (0x4AC, 0x4AC, 9), (0x4AD, 0x4AD, 5), (0x4AE, 0x4AE, 9), (0x4AF, 0x4AF, 5), (0x4B0, 0x4B0, 9), (0x4B1, 0x4B1, 5),
  (0x4B2, 0x4B2, 9), (0x4B3, 0x4B3, 5), (0x4B4, 0x4B4, 9), (0x4B5, 0x4B5, 5), (0x4B6, 0x4B6, 9), (0x4B7, 0x4B7, 5),
  (0x4B8, 0x4B8, 9), (0x4B9, 0x4B9, 5), (0x4BA, 0x4BA, 9), (0x4BB, 0x4BB, 5), (0x4BC, 0x4BC, 9), (0x4BD, 0x4BD, 5),
  (0x4BE, 0x4BE, 9), (0x4BF, 0x4BF, 5), (0x4C0, 0x4C1, 9), (0x4C2, 0x4C2, 5), (0x4C3, 0x4C3, 9), (0x4C4, 0x4C4, 5),
  (0x4C5, 0x4C5, 9), (0x4C6, 0x4C6, 5), (0x4C7, 0x4C7, 9), (0x4C8, 0x4C8, 5), (0x4C9, 0x4C9, 9), (0x4CA, 0x4CA, 5),
  (0x4CB, 0x4CB, 9), (0x4CC, 0x4CC, 5), (0x4CD, 0x4CD, 9), (0x4CE, 0x4CF, 5), (0x4D0, 0x4D0, 9), (0x4D1, 0x4D1, 5),
  (0x4D2, 0x4D2, 9), (0x4D3, 0x4D3, 5), (0x4D4, 0x4D4, 9), (0x4D5, 0x4D5, 5), (0x4D6, 0x4D6, 9), (0x4D7, 0x4D7, 5),
  (0x4D8, 0x4D8, 9), (0x4D9, 0x4D9, 5), (0x4DA, 0x4DA, 9), (0x4DB, 0x4DB, 5), (0x4DC, 0x4DC, 9), (0x4DD, 0x4DD, 5),
  (0x4DE, 0x4DE, 9), (0x4DF, 0x4DF, 5), (0x4E0, 0x4E0, 9), (0x4E1, 0x4E1, 5), (0x4E2, 0x4E2, 9), (0x4E3, 0x4E3, 5),
  (0x4E4, 0x4E4, 9), (0x4E5, 0x4E5, 5), (0x4E6, 0x4E6, 9), (0x4E7, 0x4E7, 5), (0x4E8, 0x4E8, 9), (0x4E9, 0x4E9, 5),
  (0x4EA, 0x4EA, 9), (0x4EB, 0x4EB, 5), (0x4EC, 0x4EC, 9), (0x4ED, 0x4ED, 5), (0x4EE, 0x4EE, 9), (0x4EF, 0x4EF, 5),
  (0x4F0, 0x4F0, 9), (0x4F1, 0x4F1, 5), (0x4F2, 0x4F2, 9), (0x4F3, 0x4F3, 5), (0x4F4, 0x4F4, 9), (0x4F5, 0x4F5, 5),
  (0x4F6, 0x4F6, 9), (0x4F7, 0x4F7, 5), (0x4F8, 0x4F8, 9), (0x4F9, 0x4F9, 5), (0x4FA, 0x4FA, 9), (0x4FB, 0x4FB, 5),
  (0x4FC, 0x4FC, 9), (0x4FD, 0x4FD, 5), (0x4FE, 0x4FE, 9), (0x4FF, 0x4FF, 5), (0x500, 0x500, 9), (0x501, 0x501, 5),
  (0x502, 0x502, 9), (0x503, 0x503, 5), (0x504, 0x504, 9), (0x505, 0x505, 5), (0x506, 0x506, 9), (0x507, 0x507, 5),
  (0x508, 0x508, 9), (0x509, 0x509, 5), (0x50A, 0x50A, 9), (0x50B, 0x50B, 5), (0x50C, 0x50C, 9), (0x50D, 0x50D, 5),
  (0x50E, 0x50E, 9), (0x50F, 0x50F, 5), (0x510, 0x510, 9), (0x511, 0x511, 5), (0x512, 0x512, 9), (0x513, 0x513, 5),
  (0x514, 0x514, 9), (0x515, 0x515, 5), (0x516, 0x516, 9), (0x517, 0x517, 5), (0x518, 0x518, 9), (0x519, 0x519, 5),
  (0x51A, 0x51A, 9), (0x51B, 0x51B, 5), (0x51C, 0x51C, 9), (0x51D, 0x51D, 5), (0x51E, 0x51E, 9), (0x51F, 0x51F, 5),
  (0x520, 0x520, 9), (0x521, 0x521, 5), (0x522, 0x522, 9), (0x523, 0x523, 5), (0x524, 0x524, 9), (0x525, 0x525, 5),
  (0x526, 0x526, 9), (0x527, 0x527, 5), (0x528, 0x528, 9), (0x529, 0x529, 5), (0x52A, 0x52A, 9), (0x52B, 0x52B, 5),
  (0x52C, 0x52C, 9), (0x52D, 0x52D, 5), (0x52E, 0x52E, 9), (0x52F, 0x52F, 5), (0x530, 0x530, 2), (0x531, 0x556, 9),
  (0x557, 0x558, 2), (0x559, 0x559, 6), (0x55A, 0x55F, 21), (0x560, 0x588, 5), (0x589, 0x589, 21), (0x58A, 0x58A, 17),
  (0x58B, 0x58C, 2), (0x58D, 0x58E, 26), (0x58F, 0x58F, 23), (0x590, 0x590, 2), (0x591, 0x5BD, 12), (0x5BE, 0x5BE, 17),
  (0x5BF, 0x5BF, 12), (0x5C0, 0x5C0, 21), (0x5C1, 0x5C2, 12), (0x5C3, 0x5C3, 21), (0x5C4, 0x5C5, 12), (0x5C6, 0x5C6, 21),
  (0x5C7, 0x5C7, 12), (0x5C8, 0x5CF, 2), (0x5D0, 0x5EA, 7), (0x5EB, 0x5EE, 2), (0x5EF, 0x5F2, 7), (0x5F3, 0x5F4, 21),
  (0x5F5, 0x5FF, 2), (0x600, 0x605, 1), (0x606, 0x608, 25), (0x609, 0x60A, 21), (0x60B, 0x60B, 23), (0x60C, 0x60D, 21),
  (0x60E, 0x60F, 26), (0x610, 0x61A, 12), (0x61B, 0x61B, 21), (0x61C, 0x61C, 1), (0x61D, 0x61F, 21), (0x620, 0x63F, 7),
  (0x640, 0x640, 6), (0x641, 0x64A, 7), (0x64B, 0x65F, 12), (0x660, 0x669, 13), (0x66A, 0x66D, 21), (0x66E, 0x66F, 7),
  (0x670, 0x670, 12), (0x671, 0x6D3, 7), (0x6D4, 0x6D4, 21), (0x6D5, 0x6D5, 7), (0x6D6, 0x6DC, 12), (0x6DD, 0x6DD, 1),
  (0x6DE, 0x6DE, 26), (0x6DF, 0x6E4, 12), (0x6E5, 0x6E6, 6), (0x6E7, 0x6E8, 12), (0x6E9, 0x6E9, 26), (0x6EA, 0x6ED, 12),
  (0x6EE, 0x6EF, 7), (0x6F0, 0x6F9, 13), (0x6FA, 0x6FC, 7), (0x6FD, 0x6FE, 26), (0x6FF, 0x6FF, 7), (0x700, 0x70D, 21),
  (0x70E, 0x70E, 2), (0x70F, 0x70F, 1), (0x710, 0x710, 7), (0x711, 0x711, 12), (0x712, 0x72F, 7), (0x730, 0x74A, 12),
  (0x74B, 0x74C, 2), (0x74D, 0x7A5, 7), (0x7A6, 0x7B0, 12), (0x7B1, 0x7B1, 7), (0x7B2, 0x7BF, 2), (0x7C0, 0x7C9, 13),
  (0x7CA, 0x7EA, 7), (0x7EB, 0x7F3, 12), (0x7F4, 0x7F5, 6), (0x7F6, 0x7F6, 26), (0x7F7, 0x7F9, 21), (0x7FA, 0x7FA, 6),
  (0x7FB, 0x7FC, 2), (0x7FD, 0x7FD, 12), (0x7FE, 0x7FF, 23), (0x800, 0x815, 7), (0x816, 0x819, 12), (0x81A, 0x81A, 6),
  (0x81B, 0x823, 12), (0x824, 0x824, 6), (0x825, 0x827, 12), (0x828, 0x828, 6), (0x829, 0x82D, 12), (0x82E, 0x82F, 2),
  (0x830, 0x83E, 21), (0x83F, 0x83F, 2), (0x840, 0x858, 7), (0x859, 0x85B, 12), (0x85C, 0x85D, 2), (0x85E, 0x85E, 21),
  (0x85F, 0x85F, 2), (0x860, 0x86A, 7), (0x86B, 0x86F, 2), (0x870, 0x887, 7), (0x888, 0x888, 24), (0x889, 0x88E, 7),
  (0x88F, 0x88F, 2), (0x890, 0x891, 1), (0x892, 0x897, 2), (0x898, 0x89F, 12), (0x8A0, 0x8C8, 7), (0x8C9, 0x8C9, 6),
  (0x8CA, 0x8E1, 12), (0x8E2, 0x8E2, 1), (0x8E3, 0x902, 12), (0x903, 0x903, 10), (0x904, 0x939, 7), (0x93A, 0x93A, 12),
  (0x93B, 0x93B, 10), (0x93C, 0x93C, 12), (0x93D, 0x93D, 7), (0x93E, 0x940, 10), (0x941, 0x948, 12), (0x949, 0x94C, 10),
  (0x94D, 0x94D, 12), (0x94E, 0x94F, 10), (0x950, 0x950, 7), (0x951, 0x957, 12), (0x958, 0x961, 7), (0x962, 0x963, 12),
  (0x964, 0x965, 21), (0x966, 0x96F, 13), (0x970, 0x970, 21), (0x971, 0x971, 6), (0x972, 0x980, 7), (0x981, 0x981, 12),
  (0x982, 0x983, 10), (0x984, 0x984, 2), (0x985, 0x98C, 7), (0x98D, 0x98E, 2), (0x98F, 0x990, 7), (0x991, 0x992, 2),
  (0x993, 0x9A8, 7), (0x9A9, 0x9A9, 2), (0x9AA, 0x9B0, 7), (0x9B1, 0x9B1, 2), (0x9B2, 0x9B2, 7), (0x9B3, 0x9B5, 2),
  (0x9B6, 0x9B9, 7), (0x9BA, 0x9BB, 2), (0x9BC, 0x9BC, 12), (0x9BD, 0x9BD, 7), (0x9BE, 0x9C0, 10), (0x9C1, 0x9C4, 12),
  (0x9C5, 0x9C6, 2), (0x9C7, 0x9C8, 10), (0x9C9, 0x9CA, 2), (0x9CB, 0x9CC, 10), (0x9CD, 0x9CD, 12), (0x9CE, 0x9CE, 7),
  (0x9CF, 0x9D6, 2), (0x9D7, 0x9D7, 10), (0x9D8, 0x9DB, 2), (0x9DC, 0x9DD, 7), (0x9DE, 0x9DE, 2), (0x9DF, 0x9E1, 7),
  (0x9E2, 0x9E3, 12), (0x9E4, 0x9E5, 2), (0x9E6, 0x9EF, 13), (0x9F0, 0x9F1, 7), (0x9F2, 0x9F3, 23), (0x9F4, 0x9F9, 15),
  (0x9FA, 0x9FA, 26), (0x9FB, 0x9FB, 23), (0x9FC, 0x9FC, 7), (0x9FD, 0x9FD, 21)]

/-- Entries 800 onwards of `categoryRuns`. -/
def categoryRunsPart2 : Array (Nat × Nat × Nat) := #[
  (0x9FE, 0x9FE, 12), (0x9FF, 0xA00, 2), (0xA01, 0xA02, 12), (0xA03, 0xA03, 10), (0xA04, 0xA04, 2), (0xA05, 0xA0A, 7),
  (0xA0B, 0xA0E, 2), (0xA0F, 0xA10, 7), (0xA11, 0xA12, 2), (0xA13, 0xA28, 7), (0xA29, 0xA29, 2), (0xA2A, 0xA30, 7),
  (0xA31, 0xA31, 2), (0xA32, 0xA33, 7), (0xA34, 0xA34, 2), (0xA35, 0xA36, 7), (0xA37, 0xA37, 2), (0xA38, 0xA39, 7),
  (0xA3A, 0xA3B, 2), (0xA3C, 0xA3C, 12), (0xA3D, 0xA3D, 2), (0xA3E, 0xA40, 10), (0xA41, 0xA42, 12), (0xA43, 0xA46, 2),
  (0xA47, 0xA48, 12), (0xA49, 0xA4A, 2), (0xA4B, 0xA4D, 12), (0xA4E, 0xA50, 2), (0xA51, 0xA51, 12), (0xA52, 0xA58, 2),
  (0xA59, 0xA5C, 7), (0xA5D, 0xA5D, 2), (0xA5E, 0xA5E, 7), (0xA5F, 0xA65, 2), (0xA66, 0xA6F, 13), (0xA70, 0xA71, 12),
  (0xA72, 0xA74, 7), (0xA75, 0xA75, 12), (0xA76, 0xA76, 21), (0xA77, 0xA80, 2), (0xA81, 0xA82, 12), (0xA83, 0xA83, 10),
  (0xA84, 0xA84, 2), (0xA85, 0xA8D, 7), (0xA8E, 0xA8E, 2), (0xA8F, 0xA91, 7), (0xA92, 0xA92, 2), (0xA93, 0xAA8, 7),
  (0xAA9, 0xAA9, 2), (0xAAA, 0xAB0, 7), (0xAB1, 0xAB1, 2), (0xAB2, 0xAB3, 7), (0xAB4, 0xAB4, 2), (0xAB5, 0xAB9, 7),
  (0xABA, 0xABB, 2), (0xABC, 0xABC, 12), (0xABD, 0xABD, 7), (0xABE, 0xAC0, 10), (0xAC1, 0xAC5, 12), (0xAC6, 0xAC6, 2),
  (0xAC7, 0xAC8, 12), (0xAC9, 0xAC9, 10), (0xACA, 0xACA, 2), (0xACB, 0xACC, 10), (0xACD, 0xACD, 12), (0xACE, 0xACF, 2),
  (0xAD0, 0xAD0, 7), (0xAD1, 0xADF, 2), (0xAE0, 0xAE1, 7), (0xAE2, 0xAE3, 12), (0xAE4, 0xAE5, 2), (0xAE6, 0xAEF, 13),
  (0xAF0, 0xAF0, 21), (0xAF1, 0xAF1, 23), (0xAF2, 0xAF8, 2), (0xAF9, 0xAF9, 7), (0xAFA, 0xAFF, 12), (0xB00, 0xB00, 2),
  (0xB01, 0xB01, 12), (0xB02, 0xB03, 10), (0xB04, 0xB04, 2), (0xB05, 0xB0C, 7), (0xB0D, 0xB0E, 2), (0xB0F, 0xB10, 7),
  (0xB11, 0xB12, 2), (0xB13, 0xB28, 7), (0xB29, 0xB29, 2), (0xB2A, 0xB30, 7), (0xB31, 0xB31, 2), (0xB32, 0xB33, 7),
  (0xB34, 0xB34, 2), (0xB35, 0xB39, 7), (0xB3A, 0xB3B, 2), (0xB3C, 0xB3C, 12), (0xB3D, 0xB3D, 7), (0xB3E, 0xB3E, 10),
  (0xB3F, 0xB3F, 12), (0xB40, 0xB40, 10), (0xB41, 0xB44, 12), (0xB45, 0xB46, 2), (0xB47, 0xB48, 10), (0xB49, 0xB4A, 2),
  (0xB4B, 0xB4C, 10), (0xB4D, 0xB4D, 12), (0xB4E, 0xB54, 2), (0xB55, 0xB56, 12), (0xB57, 0xB57, 10), (0xB58, 0xB5B, 2),
  (0xB5C, 0xB5D, 7), (0xB5E, 0xB5E, 2), (0xB5F, 0xB61, 7), (0xB62, 0xB63, 12), (0xB64, 0xB65, 2), (0xB66, 0xB6F, 13),
  (0xB70, 0xB70, 26), (0xB71, 0xB71, 7), (0xB72, 0xB77, 15), (0xB78, 0xB81, 2), (0xB82, 0xB82, 12), (0xB83, 0xB83, 7),
  (0xB84, 0xB84, 2), (0xB85, 0xB8A, 7), (0xB8B, 0xB8D, 2), (0xB8E, 0xB90, 7), (0xB91, 0xB91, 2), (0xB92, 0xB95, 7),
  (0xB96, 0xB98, 2), (0xB99, 0xB9A, 7), (0xB9B, 0xB9B, 2), (0xB9C, 0xB9C, 7), (0xB9D, 0xB9D, 2), (0xB9E, 0xB9F, 7),
  (0xBA0, 0xBA2, 2), (0xBA3, 0xBA4, 7), (0xBA5, 0xBA7, 2), (0xBA8, 0xBAA, 7), (0xBAB, 0xBAD, 2), (0xBAE, 0xBB9, 7),
  (0xBBA, 0xBBD, 2), (0xBBE, 0xBBF, 10), (0xBC0, 0xBC0, 12), (0xBC1, 0xBC2, 10), (0xBC3, 0xBC5, 2), (0xBC6, 0xBC8, 10),
  (0xBC9, 0xBC9, 2), (0xBCA, 0xBCC, 10), (0xBCD, 0xBCD, 12), (0xBCE, 0xBCF, 2), (0xBD0, 0xBD0, 7), (0xBD1, 0xBD6, 2),
  (0xBD7, 0xBD7, 10), (0xBD8, 0xBE5, 2), (0xBE6, 0xBEF, 13), (0xBF0, 0xBF2, 15), (0xBF3, 0xBF8, 26), (0xBF9, 0xBF9, 23),
  (0xBFA, 0xBFA, 26), (0xBFB, 0xBFF, 2), (0xC00, 0xC00, 12), (0xC01, 0xC03, 10), (0xC04, 0xC04, 12), (0xC05, 0xC0C, 7),
  (0xC0D, 0xC0D, 2), (0xC0E, 0xC10, 7), (0xC11, 0xC11, 2), (0xC12, 0xC28, 7), (0xC29, 0xC29, 2), (0xC2A, 0xC39, 7),
  (0xC3A, 0xC3B, 2), (0xC3C, 0xC3C, 12), (0xC3D, 0xC3D, 7), (0xC3E, 0xC40, 12), (0xC41, 0xC44, 10), (0xC45, 0xC45, 2),
  (0xC46, 0xC48, 12), (0xC49, 0xC49, 2), (0xC4A, 0xC4D, 12), (0xC4E, 0xC54, 2), (0xC55, 0xC56, 12), (0xC57, 0xC57, 2),
  (0xC58, 0xC5A, 7), (0xC5B, 0xC5C, 2), (0xC5D, 0xC5D, 7), (0xC5E, 0xC5F, 2), (0xC60, 0xC61, 7), (0xC62, 0xC63, 12),
  (0xC64, 0xC65, 2), (0xC66, 0xC6F, 13), (0xC70, 0xC76, 2), (0xC77, 0xC77, 21), (0xC78, 0xC7E, 15), (0xC7F, 0xC7F, 26),
  (0xC80, 0xC80, 7), (0xC81, 0xC81, 12), (0xC82, 0xC83, 10), (0xC84, 0xC84, 21), (0xC85, 0xC8C, 7), (0xC8D, 0xC8D, 2),
  (0xC8E, 0xC90, 7), (0xC91, 0xC91, 2), (0xC92, 0xCA8, 7), (0xCA9, 0xCA9, 2), (0xCAA, 0xCB3, 7), (0xCB4, 0xCB4, 2),
  (0xCB5, 0xCB9, 7), (0xCBA, 0xCBB, 2), (0xCBC, 0xCBC, 12), (0xCBD, 0xCBD, 7), (0xCBE, 0xCBE, 10), (0xCBF, 0xCBF, 12),
  (0xCC0, 0xCC4, 10), (0xCC5, 0xCC5, 2), (0xCC6, 0xCC6, 12), (0xCC7, 0xCC8, 10), (0xCC9, 0xCC9, 2), (0xCCA, 0xCCB, 10),
  (0xCCC, 0xCCD, 12), (0xCCE, 0xCD4, 2), (0xCD5, 0xCD6, 10), (0xCD7, 0xCDC, 2), (0xCDD, 0xCDE, 7), (0xCDF, 0xCDF, 2),
  (0xCE0, 0xCE1, 7), (0xCE2, 0xCE3, 12), (0xCE4, 0xCE5, 2), (0xCE6, 0xCEF, 13), (0xCF0, 0xCF0, 2), (0xCF1, 0xCF2, 7),
  (0xCF3, 0xCF3, 10), (0xCF4, 0xCFF, 2), (0xD00, 0xD01, 12), (0xD02, 0xD03, 10), (0xD04, 0xD0C, 7), (0xD0D, 0xD0D, 2),
  (0xD0E, 0xD10, 7), (0xD11, 0xD11, 2), (0xD12, 0xD3A, 7), (0xD3B, 0xD3C, 12), (0xD3D, 0xD3D, 7), (0xD3E, 0xD40, 10),
  (0xD41, 0xD44, 12), (0xD45, 0xD45, 2), (0xD46, 0xD48, 10), (0xD49, 0xD49, 2), (0xD4A, 0xD4C, 10), (0xD4D, 0xD4D, 12),
  (0xD4E, 0xD4E, 7), (0xD4F, 0xD4F, 26), (0xD50, 0xD53, 2), (0xD54, 0xD56, 7), (0xD57, 0xD57, 10), (0xD58, 0xD5E, 15),
  (0xD5F, 0xD61, 7), (0xD62, 0xD63, 12), (0xD64, 0xD65, 2), (0xD66, 0xD6F, 13), (0xD70, 0xD78, 15), (0xD79, 0xD79, 26),
  (0xD7A, 0xD7F, 7), (0xD80, 0xD80, 2), (0xD81, 0xD81, 12), (0xD82, 0xD83, 10), (0xD84, 0xD84, 2), (0xD85, 0xD96, 7),
  (0xD97, 0xD99, 2), (0xD9A, 0xDB1, 7), (0xDB2, 0xDB2, 2), (0xDB3, 0xDBB, 7), (0xDBC, 0xDBC, 2), (0xDBD, 0xDBD, 7),
  (0xDBE, 0xDBF, 2), (0xDC0, 0xDC6, 7), (0xDC7, 0xDC9, 2), (0xDCA, 0xDCA, 12), (0xDCB, 0xDCE, 2), (0xDCF, 0xDD1, 10),
  (0xDD2, 0xDD4, 12), (0xDD5, 0xDD5, 2), (0xDD6, 0xDD6, 12), (0xDD7, 0xDD7, 2), (0xDD8, 0xDDF, 10), (0xDE0, 0xDE5, 2),
  (0xDE6, 0xDEF, 13), (0xDF0, 0xDF1, 2), (0xDF2, 0xDF3, 10), (0xDF4, 0xDF4, 21), (0xDF5, 0xE00, 2), (0xE01, 0xE30, 7),
  (0xE31, 0xE31, 12), (0xE32, 0xE33, 7), (0xE34, 0xE3A, 12), (0xE3B, 0xE3E, 2), (0xE3F, 0xE3F, 23), (0xE40, 0xE45, 7),
  (0xE46, 0xE46, 6), (0xE47, 0xE4E, 12), (0xE4F, 0xE4F, 21), (0xE50, 0xE59, 13), (0xE5A, 0xE5B, 21), (0xE5C, 0xE80, 2),
  (0xE81, 0xE82, 7), (0xE83, 0xE83, 2), (0xE84, 0xE84, 7), (0xE85, 0xE85, 2), (0xE86, 0xE8A, 7), (0xE8B, 0xE8B, 2),
  (0xE8C, 0xEA3, 7), (0xEA4, 0xEA4, 2), (0xEA5, 0xEA5, 7), (0xEA6, 0xEA6, 2), (0xEA7, 0xEB0, 7), (0xEB1, 0xEB1, 12),
  (0xEB2, 0xEB3, 7), (0xEB4, 0xEBC, 12), (0xEBD, 0xEBD, 7), (0xEBE, 0xEBF, 2), (0xEC0, 0xEC4, 7), (0xEC5, 0xEC5, 2),
  (0xEC6, 0xEC6, 6), (0xEC7, 0xEC7, 2), (0xEC8, 0xECE, 12), (0xECF, 0xECF, 2), (0xED0, 0xED9, 13), (0xEDA, 0xEDB, 2),
  (0xEDC, 0xEDF, 7), (0xEE0, 0xEFF, 2), (0xF00, 0xF00, 7), (0xF01, 0xF03, 26), (0xF04, 0xF12, 21), (0xF13, 0xF13, 26),
  (0xF14, 0xF14, 21), (0xF15, 0xF17, 26), (0xF18, 0xF19, 12), (0xF1A, 0xF1F, 26), (0xF20, 0xF29, 13), (0xF2A, 0xF33, 15),
  (0xF34, 0xF34, 26), (0xF35, 0xF35, 12), (0xF36, 0xF36, 26), (0xF37, 0xF37, 12), (0xF38, 0xF38, 26), (0xF39, 0xF39, 12),
  (0xF3A, 0xF3A, 22), (0xF3B, 0xF3B, 18), (0xF3C, 0xF3C, 22), (0xF3D, 0xF3D, 18), (0xF3E, 0xF3F, 10), (0xF40, 0xF47, 7),
  (0xF48, 0xF48, 2), (0xF49, 0xF6C, 7), (0xF6D, 0xF70, 2), (0xF71, 0xF7E, 12), (0xF7F, 0xF7F, 10), (0xF80, 0xF84, 12),
  (0xF85, 0xF85, 21), (0xF86, 0xF87, 12), (0xF88, 0xF8C, 7), (0xF8D, 0xF97, 12), (0xF98, 0xF98, 2), (0xF99, 0xFBC, 12),
  (0xFBD, 0xFBD, 2), (0xFBE, 0xFC5, 26), (0xFC6, 0xFC6, 12), (0xFC7, 0xFCC, 26), (0xFCD, 0xFCD, 2), (0xFCE, 0xFCF, 26),
  (0xFD0, 0xFD4, 21), (0xFD5, 0xFD8, 26), (0xFD9, 0xFDA, 21), (0xFDB, 0xFFF, 2), (0x1000, 0x102A, 7), (0x102B, 0x102C, 10),
  (0x102D, 0x1030, 12), (0x1031, 0x1031, 10), (0x1032, 0x1037, 12), (0x1038, 0x1038, 10), (0x1039, 0x103A, 12), (0x103B, 0x103C, 10),
  (0x103D, 0x103E, 12), (0x103F, 0x103F, 7), (0x1040, 0x1049, 13), (0x104A, 0x104F, 21), (0x1050, 0x1055, 7), (0x1056, 0x1057, 10),
  (0x1058, 0x1059, 12), (0x105A, 0x105D, 7), (0x105E, 0x1060, 12), (0x1061, 0x1061, 7), (0x1062, 0x1064, 10), (0x1065, 0x1066, 7),
  (0x1067, 0x106D, 10), (0x106E, 0x1070, 7), (0x1071, 0x1074, 12), (0x1075, 0x1081, 7), (0x1082, 0x1082, 12), (0x1083, 0x1084, 10),
  (0x1085, 0x1086, 12), (0x1087, 0x108C, 10), (0x108D, 0x108D, 12), (0x108E, 0x108E, 7)]

/-- Entries 1200 onwards of `categoryRuns`. -/
def categoryRunsPart3 : Array (Nat × Nat × Nat) := #[
  (0x108F, 0x108F, 10), (0x1090, 0x1099, 13), (0x109A, 0x109C, 10), (0x109D, 0x109D, 12), (0x109E, 0x109F, 26), (0x10A0, 0x10C5, 9),
  (0x10C6, 0x10C6, 2), (0x10C7, 0x10C7, 9), (0x10C8, 0x10CC, 2), (0x10CD, 0x10CD, 9), (0x10CE, 0x10CF, 2), (0x10D0, 0x10FA, 5),
  (0x10FB, 0x10FB, 21), (0x10FC, 0x10FC, 6), (0x10FD, 0x10FF, 5), (0x1100, 0x1248, 7), (0x1249, 0x1249, 2), (0x124A, 0x124D, 7),
  (0x124E, 0x124F, 2), (0x1250, 0x1256, 7), (0x1257, 0x1257, 2), (0x1258, 0x1258, 7), (0x1259, 0x1259, 2), (0x125A, 0x125D, 7),
  (0x125E, 0x125F, 2), (0x1260, 0x1288, 7), (0x1289, 0x1289, 2), (0x128A, 0x128D, 7), (0x128E, 0x128F, 2), (0x1290, 0x12B0, 7),
  (0x12B1, 0x12B1, 2), (0x12B2, 0x12B5, 7), (0x12B6, 0x12B7, 2), (0x12B8, 0x12BE, 7), (0x12BF, 0x12BF, 2), (0x12C0, 0x12C0, 7),
  (0x12C1, 0x12C1, 2), (0x12C2, 0x12C5, 7), (0x12C6, 0x12C7, 2), (0x12C8, 0x12D6, 7), (0x12D7, 0x12D7, 2), (0x12D8, 0x1310, 7),
  (0x1311, 0x1311, 2), (0x1312, 0x1315, 7), (0x1316, 0x1317, 2), (0x1318, 0x135A, 7), (0x135B, 0x135C, 2), (0x135D, 0x135F, 12),
  (0x1360, 0x1368, 21), (0x1369, 0x137C, 15), (0x137D, 0x137F, 2), (0x1380, 0x138F, 7), (0x1390, 0x1399, 26), (0x139A, 0x139F, 2),
  (0x13A0, 0x13F5, 9), (0x13F6, 0x13F7, 2), (0x13F8, 0x13FD, 5), (0x13FE, 0x13FF, 2), (0x1400, 0x1400, 17), (0x1401, 0x166C, 7),
  (0x166D, 0x166D, 26), (0x166E, 0x166E, 21), (0x166F, 0x167F, 7), (0x1680, 0x1680, 29), (0x1681, 0x169A, 7), (0x169B, 0x169B, 22),
  (0x169C, 0x169C, 18), (0x169D, 0x169F, 2), (0x16A0, 0x16EA, 7), (0x16EB, 0x16ED, 21), (0x16EE, 0x16F0, 14), (0x16F1, 0x16F8, 7),
  (0x16F9, 0x16FF, 2), (0x1700, 0x1711, 7), (0x1712, 0x1714, 12), (0x1715, 0x1715, 10), (0x1716, 0x171E, 2), (0x171F, 0x1731, 7),
  (0x1732, 0x1733, 12), (0x1734, 0x1734, 10), (0x1735, 0x1736, 21), (0x1737, 0x173F, 2), (0x1740, 0x1751, 7), (0x1752, 0x1753, 12),
  (0x1754, 0x175F, 2), (0x1760, 0x176C, 7), (0x176D, 0x176D, 2), (0x176E, 0x1770, 7), (0x1771, 0x1771, 2), (0x1772, 0x1773, 12),
  (0x1774, 0x177F, 2), (0x1780, 0x17B3, 7), (0x17B4, 0x17B5, 12), (0x17B6, 0x17B6, 10), (0x17B7, 0x17BD, 12), (0x17BE, 0x17C5, 10),
  (0x17C6, 0x17C6, 12), (0x17C7, 0x17C8, 10), (0x17C9, 0x17D3, 12), (0x17D4, 0x17D6, 21), (0x17D7, 0x17D7, 6), (0x17D8, 0x17DA, 21),
  (0x17DB, 0x17DB, 23), (0x17DC, 0x17DC, 7), (0x17DD, 0x17DD, 12), (0x17DE, 0x17DF, 2), (0x17E0, 0x17E9, 13), (0x17EA, 0x17EF, 2),
  (0x17F0, 0x17F9, 15), (0x17FA, 0x17FF, 2), (0x1800, 0x1805, 21), (0x1806, 0x1806, 17), (0x1807, 0x180A, 21), (0x180B, 0x180D, 12),
  (0x180E, 0x180E, 1), (0x180F, 0x180F, 12), (0x1810, 0x1819, 13), (0x181A, 0x181F, 2), (0x1820, 0x1842, 7), (0x1843, 0x1843, 6),
  (0x1844, 0x1878, 7), (0x1879, 0x187F, 2), (0x1880, 0x1884, 7), (0x1885, 0x1886, 12), (0x1887, 0x18A8, 7), (0x18A9, 0x18A9, 12),
  (0x18AA, 0x18AA, 7), (0x18AB, 0x18AF, 2), (0x18B0, 0x18F5, 7), (0x18F6, 0x18FF, 2), (0x1900, 0x191E, 7), (0x191F, 0x191F, 2),
  (0x1920, 0x1922, 12), (0x1923, 0x1926, 10), (0x1927, 0x1928, 12), (0x1929, 0x192B, 10), (0x192C, 0x192F, 2), (0x1930, 0x1931, 10),
  (0x1932, 0x1932, 12), (0x1933, 0x1938, 10), (0x1939, 0x193B, 12), (0x193C, 0x193F, 2), (0x1940, 0x1940, 26), (0x1941, 0x1943, 2),
  (0x1944, 0x1945, 21), (0x1946, 0x194F, 13), (0x1950, 0x196D, 7), (0x196E, 0x196F, 2), (0x1970, 0x1974, 7), (0x1975, 0x197F, 2),
  (0x1980, 0x19AB, 7), (0x19AC, 0x19AF, 2), (0x19B0, 0x19C9, 7), (0x19CA, 0x19CF, 2), (0x19D0, 0x19D9, 13), (0x19DA, 0x19DA, 15),
  (0x19DB, 0x19DD, 2), (0x19DE, 0x19FF, 26), (0x1A00, 0x1A16, 7), (0x1A17, 0x1A18, 12), (0x1A19, 0x1A1A, 10), (0x1A1B, 0x1A1B, 12),
  (0x1A1C, 0x1A1D, 2), (0x1A1E, 0x1A1F, 21), (0x1A20, 0x1A54, 7), (0x1A55, 0x1A55, 10), (0x1A56, 0x1A56, 12), (0x1A57, 0x1A57, 10),
  (0x1A58, 0x1A5E, 12), (0x1A5F, 0x1A5F, 2), (0x1A60, 0x1A60, 12), (0x1A61, 0x1A61, 10), (0x1A62, 0x1A62, 12), (0x1A63, 0x1A64, 10),
  (0x1A65, 0x1A6C, 12), (0x1A6D, 0x1A72, 10), (0x1A73, 0x1A7C, 12), (0x1A7D, 0x1A7E, 2), (0x1A7F, 0x1A7F, 12), (0x1A80, 0x1A89, 13),
  (0x1A8A, 0x1A8F, 2), (0x1A90, 0x1A99, 13), (0x1A9A, 0x1A9F, 2), (0x1AA0, 0x1AA6, 21), (0x1AA7, 0x1AA7, 6), (0x1AA8, 0x1AAD, 21),
  (0x1AAE, 0x1AAF, 2), (0x1AB0, 0x1ABD, 12), (0x1ABE, 0x1ABE, 11), (0x1ABF, 0x1ACE, 12), (0x1ACF, 0x1AFF, 2), (0x1B00, 0x1B03, 12),
  (0x1B04, 0x1B04, 10), (0x1B05, 0x1B33, 7), (0x1B34, 0x1B34, 12), (0x1B35, 0x1B35, 10), (0x1B36, 0x1B3A, 12), (0x1B3B, 0x1B3B, 10),
  (0x1B3C, 0x1B3C, 12), (0x1B3D, 0x1B41, 10), (0x1B42, 0x1B42, 12), (0x1B43, 0x1B44, 10), (0x1B45, 0x1B4C, 7), (0x1B4D, 0x1B4F, 2),
  (0x1B50, 0x1B59, 13), (0x1B5A, 0x1B60, 21), (0x1B61, 0x1B6A, 26), (0x1B6B, 0x1B73, 12), (0x1B74, 0x1B7C, 26), (0x1B7D, 0x1B7E, 21),
  (0x1B7F, 0x1B7F, 2), (0x1B80, 0x1B81, 12), (0x1B82, 0x1B82, 10), (0x1B83, 0x1BA0, 7), (0x1BA1, 0x1BA1, 10), (0x1BA2, 0x1BA5, 12),
  (0x1BA6, 0x1BA7, 10), (0x1BA8, 0x1BA9, 12), (0x1BAA, 0x1BAA, 10), (0x1BAB, 0x1BAD, 12), (0x1BAE, 0x1BAF, 7), (0x1BB0, 0x1BB9, 13),
  (0x1BBA, 0x1BE5, 7), (0x1BE6, 0x1BE6, 12), (0x1BE7, 0x1BE7, 10), (0x1BE8, 0x1BE9, 12), (0x1BEA, 0x1BEC, 10), (0x1BED, 0x1BED, 12),
  (0x1BEE, 0x1BEE, 10), (0x1BEF, 0x1BF1, 12), (0x1BF2, 0x1BF3, 10), (0x1BF4, 0x1BFB, 2), (0x1BFC, 0x1BFF, 21), (0x1C00, 0x1C23, 7),
  (0x1C24, 0x1C2B, 10), (0x1C2C, 0x1C33, 12), (0x1C34, 0x1C35, 10), (0x1C36, 0x1C37, 12), (0x1C38, 0x1C3A, 2), (0x1C3B, 0x1C3F, 21),
  (0x1C40, 0x1C49, 13), (0x1C4A, 0x1C4C, 2), (0x1C4D, 0x1C4F, 7), (0x1C50, 0x1C59, 13), (0x1C5A, 0x1C77, 7), (0x1C78, 0x1C7D, 6),
  (0x1C7E, 0x1C7F, 21), (0x1C80, 0x1C88, 5), (0x1C89, 0x1C8F, 2), (0x1C90, 0x1CBA, 9), (0x1CBB, 0x1CBC, 2), (0x1CBD, 0x1CBF, 9),
  (0x1CC0, 0x1CC7, 21), (0x1CC8, 0x1CCF, 2), (0x1CD0, 0x1CD2, 12), (0x1CD3, 0x1CD3, 21), (0x1CD4, 0x1CE0, 12), (0x1CE1, 0x1CE1, 10),
  (0x1CE2, 0x1CE8, 12), (0x1CE9, 0x1CEC, 7), (0x1CED, 0x1CED, 12), (0x1CEE, 0x1CF3, 7), (0x1CF4, 0x1CF4, 12), (0x1CF5, 0x1CF6, 7),
  (0x1CF7, 0x1CF7, 10), (0x1CF8, 0x1CF9, 12), (0x1CFA, 0x1CFA, 7), (0x1CFB, 0x1CFF, 2), (0x1D00, 0x1D2B, 5), (0x1D2C, 0x1D6A, 6),
  (0x1D6B, 0x1D77, 5), (0x1D78, 0x1D78, 6), (0x1D79, 0x1D9A, 5), (0x1D9B, 0x1DBF, 6), (0x1DC0, 0x1DFF, 12), (0x1E00, 0x1E00, 9),
  (0x1E01, 0x1E01, 5), (0x1E02, 0x1E02, 9), (0x1E03, 0x1E03, 5), (0x1E04, 0x1E04, 9), (0x1E05, 0x1E05, 5), (0x1E06, 0x1E06, 9),
  (0x1E07, 0x1E07, 5), (0x1E08, 0x1E08, 9), (0x1E09, 0x1E09, 5), (0x1E0A, 0x1E0A, 9), (0x1E0B, 0x1E0B, 5), (0x1E0C, 0x1E0C, 9),
  (0x1E0D, 0x1E0D, 5), (0x1E0E, 0x1E0E, 9), (0x1E0F, 0x1E0F, 5), (0x1E10, 0x1E10, 9), (0x1E11, 0x1E11, 5), (0x1E12, 0x1E12, 9),
  (0x1E13, 0x1E13, 5), (0x1E14, 0x1E14, 9), (0x1E15, 0x1E15, 5), (0x1E16, 0x1E16, 9), (0x1E17, 0x1E17, 5), (0x1E18, 0x1E18, 9),
  (0x1E19, 0x1E19, 5), (0x1E1A, 0x1E1A, 9), (0x1E1B, 0x1E1B, 5), (0x1E1C, 0x1E1C, 9), (0x1E1D, 0x1E1D, 5), (0x1E1E, 0x1E1E, 9),
  (0x1E1F, 0x1E1F, 5), (0x1E20, 0x1E20, 9), (0x1E21, 0x1E21, 5), (0x1E22, 0x1E22, 9), (0x1E23, 0x1E23, 5), (0x1E24, 0x1E24, 9),
  (0x1E25, 0x1E25, 5), (0x1E26, 0x1E26, 9), (0x1E27, 0x1E27, 5), (0x1E28, 0x1E28, 9), (0x1E29, 0x1E29, 5), (0x1E2A, 0x1E2A, 9),
  (0x1E2B, 0x1E2B, 5), (0x1E2C, 0x1E2C, 9), (0x1E2D, 0x1E2D, 5), (0x1E2E, 0x1E2E, 9), (0x1E2F, 0x1E2F, 5), (0x1E30, 0x1E30, 9),
  (0x1E31, 0x1E31, 5), (0x1E32, 0x1E32, 9), (0x1E33, 0x1E33, 5), (0x1E34, 0x1E34, 9), (0x1E35, 0x1E35, 5), (0x1E36, 0x1E36, 9),
  (0x1E37, 0x1E37, 5), (0x1E38, 0x1E38, 9), (0x1E39, 0x1E39, 5), (0x1E3A, 0x1E3A, 9), (0x1E3B, 0x1E3B, 5), (0x1E3C, 0x1E3C, 9),
  (0x1E3D, 0x1E3D, 5), (0x1E3E, 0x1E3E, 9), (0x1E3F, 0x1E3F, 5), (0x1E40, 0x1E40, 9), (0x1E41, 0x1E41, 5), (0x1E42, 0x1E42, 9),
  (0x1E43, 0x1E43, 5), (0x1E44, 0x1E44, 9), (0x1E45, 0x1E45, 5), (0x1E46, 0x1E46, 9), (0x1E47, 0x1E47, 5), (0x1E48, 0x1E48, 9),
  (0x1E49, 0x1E49, 5), (0x1E4A, 0x1E4A, 9), (0x1E4B, 0x1E4B, 5), (0x1E4C, 0x1E4C, 9), (0x1E4D, 0x1E4D, 5), (0x1E4E, 0x1E4E, 9),
  (0x1E4F, 0x1E4F, 5), (0x1E50, 0x1E50, 9), (0x1E51, 0x1E51, 5), (0x1E52, 0x1E52, 9), (0x1E53, 0x1E53, 5), (0x1E54, 0x1E54, 9),
  (0x1E55, 0x1E55, 5), (0x1E56, 0x1E56, 9), (0x1E57, 0x1E57, 5), (0x1E58, 0x1E58, 9), (0x1E59, 0x1E59, 5), (0x1E5A, 0x1E5A, 9),
  (0x1E5B, 0x1E5B, 5), (0x1E5C, 0x1E5C, 9), (0x1E5D, 0x1E5D, 5), (0x1E5E, 0x1E5E, 9), (0x1E5F, 0x1E5F, 5), (0x1E60, 0x1E60, 9),
  (0x1E61, 0x1E61, 5), (0x1E62, 0x1E62, 9), (0x1E63, 0x1E63, 5), (0x1E64, 0x1E64, 9), (0x1E65, 0x1E65, 5), (0x1E66, 0x1E66, 9),
  (0x1E67, 0x1E67, 5), (0x1E68, 0x1E68, 9), (0x1E69, 0x1E69, 5), (0x1E6A, 0x1E6A, 9), (0x1E6B, 0x1E6B, 5), (0x1E6C, 0x1E6C, 9),
  (0x1E6D, 0x1E6D, 5), (0x1E6E, 0x1E6E, 9), (0x1E6F, 0x1E6F, 5), (0x1E70, 0x1E70, 9), (0x1E71, 0x1E71, 5), (0x1E72, 0x1E72, 9),
  (0x1E73, 0x1E73, 5), (0x1E74, 0x1E74, 9), (0x1E75, 0x1E75, 5), (0x1E76, 0x1E76, 9), (0x1E77, 0x1E77, 5), (0x1E78, 0x1E78, 9),
  (0x1E79, 0x1E79, 5), (0x1E7A, 0x1E7A, 9), (0x1E7B, 0x1E7B, 5), (0x1E7C, 0x1E7C, 9)]

/-- Entries 1600 onwards of `categoryRuns`. -/
def categoryRunsPart4 : Array (Nat × Nat × Nat) := #[
  (0x1E7D, 0x1E7D, 5), (0x1E7E, 0x1E7E, 9), (0x1E7F, 0x1E7F, 5), (0x1E80, 0x1E80, 9), (0x1E81, 0x1E81, 5), (0x1E82, 0x1E82, 9),
  (0x1E83, 0x1E83, 5), (0x1E84, 0x1E84, 9), (0x1E85, 0x1E85, 5), (0x1E86, 0x1E86, 9), (0x1E87, 0x1E87, 5), (0x1E88, 0x1E88, 9),
  (0x1E89, 0x1E89, 5), (0x1E8A, 0x1E8A, 9), (0x1E8B, 0x1E8B, 5), (0x1E8C, 0x1E8C, 9), (0x1E8D, 0x1E8D, 5), (0x1E8E, 0x1E8E, 9),
  (0x1E8F, 0x1E8F, 5), (0x1E90, 0x1E90, 9), (0x1E91, 0x1E91, 5), (0x1E92, 0x1E92, 9), (0x1E93, 0x1E93, 5), (0x1E94, 0x1E94, 9),
  (0x1E95, 0x1E9D, 5), (0x1E9E, 0x1E9E, 9), (0x1E9F, 0x1E9F, 5), (0x1EA0, 0x1EA0, 9), (0x1EA1, 0x1EA1, 5), (0x1EA2, 0x1EA2, 9),
  (0x1EA3, 0x1EA3, 5), (0x1EA4, 0x1EA4, 9), (0x1EA5, 0x1EA5, 5), (0x1EA6, 0x1EA6, 9), (0x1EA7, 0x1EA7, 5), (0x1EA8, 0x1EA8, 9),
  (0x1EA9, 0x1EA9, 5), (0x1EAA, 0x1EAA, 9), (0x1EAB, 0x1EAB, 5), (0x1EAC, 0x1EAC, 9), (0x1EAD, 0x1EAD, 5), (0x1EAE, 0x1EAE, 9),
  (0x1EAF, 0x1EAF, 5), (0x1EB0, 0x1EB0, 9), (0x1EB1, 0x1EB1, 5), (0x1EB2, 0x1EB2, 9), (0x1EB3, 0x1EB3, 5), (0x1EB4, 0x1EB4, 9),
  (0x1EB5, 0x1EB5, 5), (0x1EB6, 0x1EB6, 9), (0x1EB7, 0x1EB7, 5), (0x1EB8, 0x1EB8, 9), (0x1EB9, 0x1EB9, 5), (0x1EBA, 0x1EBA, 9),
  (0x1EBB, 0x1EBB, 5), (0x1EBC, 0x1EBC, 9), (0x1EBD, 0x1EBD, 5), (0x1EBE, 0x1EBE, 9), (0x1EBF, 0x1EBF, 5), (0x1EC0, 0x1EC0, 9),
  (0x1EC1, 0x1EC1, 5), (0x1EC2, 0x1EC2, 9), (0x1EC3, 0x1EC3, 5), (0x1EC4, 0x1EC4, 9), (0x1EC5, 0x1EC5, 5), (0x1EC6, 0x1EC6, 9),
  (0x1EC7, 0x1EC7, 5), (0x1EC8, 0x1EC8, 9), (0x1EC9, 0x1EC9, 5), (0x1ECA, 0x1ECA, 9), (0x1ECB, 0x1ECB, 5), (0x1ECC, 0x1ECC, 9),
  (0x1ECD, 0x1ECD, 5), (0x1ECE, 0x1ECE, 9), (0x1ECF, 0x1ECF, 5), (0x1ED0, 0x1ED0, 9), (0x1ED1, 0x1ED1, 5), (0x1ED2, 0x1ED2, 9),
  (0x1ED3, 0x1ED3, 5), (0x1ED4, 0x1ED4, 9), (0x1ED5, 0x1ED5, 5), (0x1ED6, 0x1ED6, 9), (0x1ED7, 0x1ED7, 5), (0x1ED8, 0x1ED8, 9),
  (0x1ED9, 0x1ED9, 5), (0x1EDA, 0x1EDA, 9), (0x1EDB, 0x1EDB, 5), (0x1EDC, 0x1EDC, 9), (0x1EDD, 0x1EDD, 5), (0x1EDE, 0x1EDE, 9),
  (0x1EDF, 0x1EDF, 5), (0x1EE0, 0x1EE0, 9), (0x1EE1, 0x1EE1, 5), (0x1EE2, 0x1EE2, 9), (0x1EE3, 0x1EE3, 5), (0x1EE4, 0x1EE4, 9),
  (0x1EE5, 0x1EE5, 5), (0x1EE6, 0x1EE6, 9), (0x1EE7, 0x1EE7, 5), (0x1EE8, 0x1EE8, 9), (0x1EE9, 0x1EE9, 5), (0x1EEA, 0x1EEA, 9),
  (0x1EEB, 0x1EEB, 5), (0x1EEC, 0x1EEC, 9), (0x1EED, 0x1EED, 5), (0x1EEE, 0x1EEE, 9), (0x1EEF, 0x1EEF, 5), (0x1EF0, 0x1EF0, 9),
  (0x1EF1, 0x1EF1, 5), (0x1EF2, 0x1EF2, 9), (0x1EF3, 0x1EF3, 5), (0x1EF4, 0x1EF4, 9), (0x1EF5, 0x1EF5, 5), (0x1EF6, 0x1EF6, 9),
  (0x1EF7, 0x1EF7, 5), (0x1EF8, 0x1EF8, 9), (0x1EF9, 0x1EF9, 5), (0x1EFA, 0x1EFA, 9), (0x1EFB, 0x1EFB, 5), (0x1EFC, 0x1EFC, 9),
  (0x1EFD, 0x1EFD, 5), (0x1EFE, 0x1EFE, 9), (0x1EFF, 0x1F07, 5), (0x1F08, 0x1F0F, 9), (0x1F10, 0x1F15, 5), (0x1F16, 0x1F17, 2),
  (0x1F18, 0x1F1D, 9), (0x1F1E, 0x1F1F, 2), (0x1F20, 0x1F27, 5), (0x1F28, 0x1F2F, 9), (0x1F30, 0x1F37, 5), (0x1F38, 0x1F3F, 9),
  (0x1F40, 0x1F45, 5), (0x1F46, 0x1F47, 2), (0x1F48, 0x1F4D, 9), (0x1F4E, 0x1F4F, 2), (0x1F50, 0x1F57, 5), (0x1F58, 0x1F58, 2),
  (0x1F59, 0x1F59, 9), (0x1F5A, 0x1F5A, 2), (0x1F5B, 0x1F5B, 9), (0x1F5C, 0x1F5C, 2), (0x1F5D, 0x1F5D, 9), (0x1F5E, 0x1F5E, 2),
  (0x1F5F, 0x1F5F, 9), (0x1F60, 0x1F67, 5), (0x1F68, 0x1F6F, 9), (0x1F70, 0x1F7D, 5), (0x1F7E, 0x1F7F, 2), (0x1F80, 0x1F87, 5),
  (0x1F88, 0x1F8F, 8), (0x1F90, 0x1F97, 5), (0x1F98, 0x1F9F, 8), (0x1FA0, 0x1FA7, 5), (0x1FA8, 0x1FAF, 8), (0x1FB0, 0x1FB4, 5),
  (0x1FB5, 0x1FB5, 2), (0x1FB6, 0x1FB7, 5), (0x1FB8, 0x1FBB, 9), (0x1FBC, 0x1FBC, 8), (0x1FBD, 0x1FBD, 24), (0x1FBE, 0x1FBE, 5),
  (0x1FBF, 0x1FC1, 24), (0x1FC2, 0x1FC4, 5), (0x1FC5, 0x1FC5, 2), (0x1FC6, 0x1FC7, 5), (0x1FC8, 0x1FCB, 9), (0x1FCC, 0x1FCC, 8),
  (0x1FCD, 0x1FCF, 24), (0x1FD0, 0x1FD3, 5), (0x1FD4, 0x1FD5, 2), (0x1FD6, 0x1FD7, 5), (0x1FD8, 0x1FDB, 9), (0x1FDC, 0x1FDC, 2),
  (0x1FDD, 0x1FDF, 24), (0x1FE0, 0x1FE7, 5), (0x1FE8, 0x1FEC, 9), (0x1FED, 0x1FEF, 24), (0x1FF0, 0x1FF1, 2), (0x1FF2, 0x1FF4, 5),
  (0x1FF5, 0x1FF5, 2), (0x1FF6, 0x1FF7, 5), (0x1FF8, 0x1FFB, 9), (0x1FFC, 0x1FFC, 8), (0x1FFD, 0x1FFE, 24), (0x1FFF, 0x1FFF, 2),
  (0x2000, 0x200A, 29), (0x200B, 0x200F, 1), (0x2010, 0x2015, 17), (0x2016, 0x2017, 21), (0x2018, 0x2018, 20), (0x2019, 0x2019, 19),
  (0x201A, 0x201A, 22), (0x201B, 0x201C, 20), (0x201D, 0x201D, 19), (0x201E, 0x201E, 22), (0x201F, 0x201F, 20), (0x2020, 0x2027, 21),
  (0x2028, 0x2028, 27), (0x2029, 0x2029, 28), (0x202A, 0x202E, 1), (0x202F, 0x202F, 29), (0x2030, 0x2038, 21), (0x2039, 0x2039, 20),
  (0x203A, 0x203A, 19), (0x203B, 0x203E, 21), (0x203F, 0x2040, 16), (0x2041, 0x2043, 21), (0x2044, 0x2044, 25), (0x2045, 0x2045, 22),
  (0x2046, 0x2046, 18), (0x2047, 0x2051, 21), (0x2052, 0x2052, 25), (0x2053, 0x2053, 21), (0x2054, 0x2054, 16), (0x2055, 0x205E, 21),
  (0x205F, 0x205F, 29), (0x2060, 0x2064, 1), (0x2065, 0x2065, 2), (0x2066, 0x206F, 1), (0x2070, 0x2070, 15), (0x2071, 0x2071, 6),
  (0x2072, 0x2073, 2), (0x2074, 0x2079, 15), (0x207A, 0x207C, 25), (0x207D, 0x207D, 22), (0x207E, 0x207E, 18), (0x207F, 0x207F, 6),
  (0x2080, 0x2089, 15), (0x208A, 0x208C, 25), (0x208D, 0x208D, 22), (0x208E, 0x208E, 18), (0x208F, 0x208F, 2), (0x2090, 0x209C, 6),
  (0x209D, 0x209F, 2), (0x20A0, 0x20C0, 23), (0x20C1, 0x20CF, 2), (0x20D0, 0x20DC, 12), (0x20DD, 0x20E0, 11), (0x20E1, 0x20E1, 12),
  (0x20E2, 0x20E4, 11), (0x20E5, 0x20F0, 12), (0x20F1, 0x20FF, 2), (0x2100, 0x2101, 26), (0x2102, 0x2102, 9), (0x2103, 0x2106, 26),
  (0x2107, 0x2107, 9), (0x2108, 0x2109, 26), (0x210A, 0x210A, 5), (0x210B, 0x210D, 9), (0x210E, 0x210F, 5), (0x2110, 0x2112, 9),
  (0x2113, 0x2113, 5), (0x2114, 0x2114, 26), (0x2115, 0x2115, 9), (0x2116, 0x2117, 26), (0x2118, 0x2118, 25), (0x2119, 0x211D, 9),
  (0x211E, 0x2123, 26), (0x2124, 0x2124, 9), (0x2125, 0x2125, 26), (0x2126, 0x2126, 9), (0x2127, 0x2127, 26), (0x2128, 0x2128, 9),
  (0x2129, 0x2129, 26), (0x212A, 0x212D, 9), (0x212E, 0x212E, 26), (0x212F, 0x212F, 5), (0x2130, 0x2133, 9), (0x2134, 0x2134, 5),
  (0x2135, 0x2138, 7), (0x2139, 0x2139, 5), (0x213A, 0x213B, 26), (0x213C, 0x213D, 5), (0x213E, 0x213F, 9), (0x2140, 0x2144, 25),
  (0x2145, 0x2145, 9), (0x2146, 0x2149, 5), (0x214A, 0x214A, 26), (0x214B, 0x214B, 25), (0x214C, 0x214D, 26), (0x214E, 0x214E, 5),
  (0x214F, 0x214F, 26), (0x2150, 0x215F, 15), (0x2160, 0x2182, 14), (0x2183, 0x2183, 9), (0x2184, 0x2184, 5), (0x2185, 0x2188, 14),
  (0x2189, 0x2189, 15), (0x218A, 0x218B, 26), (0x218C, 0x218F, 2), (0x2190, 0x2194, 25), (0x2195, 0x2199, 26), (0x219A, 0x219B, 25),
  (0x219C, 0x219F, 26), (0x21A0, 0x21A0, 25), (0x21A1, 0x21A2, 26), (0x21A3, 0x21A3, 25), (0x21A4, 0x21A5, 26), (0x21A6, 0x21A6, 25),
  (0x21A7, 0x21AD, 26), (0x21AE, 0x21AE, 25), (0x21AF, 0x21CD, 26), (0x21CE, 0x21CF, 25), (0x21D0, 0x21D1, 26), (0x21D2, 0x21D2, 25),
  (0x21D3, 0x21D3, 26), (0x21D4, 0x21D4, 25), (0x21D5, 0x21F3, 26), (0x21F4, 0x22FF, 25), (0x2300, 0x2307, 26), (0x2308, 0x2308, 22),
  (0x2309, 0x2309, 18), (0x230A, 0x230A, 22), (0x230B, 0x230B, 18), (0x230C, 0x231F, 26), (0x2320, 0x2321, 25), (0x2322, 0x2328, 26),
  (0x2329, 0x2329, 22), (0x232A, 0x232A, 18), (0x232B, 0x237B, 26), (0x237C, 0x237C, 25), (0x237D, 0x239A, 26), (0x239B, 0x23B3, 25),
  (0x23B4, 0x23DB, 26), (0x23DC, 0x23E1, 25), (0x23E2, 0x2426, 26), (0x2427, 0x243F, 2), (0x2440, 0x244A, 26), (0x244B, 0x245F, 2),
  (0x2460, 0x249B, 15), (0x249C, 0x24E9, 26), (0x24EA, 0x24FF, 15), (0x2500, 0x25B6, 26), (0x25B7, 0x25B7, 25), (0x25B8, 0x25C0, 26),
  (0x25C1, 0x25C1, 25), (0x25C2, 0x25F7, 26), (0x25F8, 0x25FF, 25), (0x2600, 0x266E, 26), (0x266F, 0x266F, 25), (0x2670, 0x2767, 26),
  (0x2768, 0x2768, 22), (0x2769, 0x2769, 18), (0x276A, 0x276A, 22), (0x276B, 0x276B, 18), (0x276C, 0x276C, 22), (0x276D, 0x276D, 18),
  (0x276E, 0x276E, 22), (0x276F, 0x276F, 18), (0x2770, 0x2770, 22), (0x2771, 0x2771, 18), (0x2772, 0x2772, 22), (0x2773, 0x2773, 18),
  (0x2774, 0x2774, 22), (0x2775, 0x2775, 18), (0x2776, 0x2793, 15), (0x2794, 0x27BF, 26), (0x27C0, 0x27C4, 25), (0x27C5, 0x27C5, 22),
  (0x27C6, 0x27C6, 18), (0x27C7, 0x27E5, 25), (0x27E6, 0x27E6, 22), (0x27E7, 0x27E7, 18), (0x27E8, 0x27E8, 22), (0x27E9, 0x27E9, 18),
  (0x27EA, 0x27EA, 22), (0x27EB, 0x27EB, 18), (0x27EC, 0x27EC, 22), (0x27ED, 0x27ED, 18), (0x27EE, 0x27EE, 22), (0x27EF, 0x27EF, 18),
  (0x27F0, 0x27FF, 25), (0x2800, 0x28FF, 26), (0x2900, 0x2982, 25), (0x2983, 0x2983, 22), (0x2984, 0x2984, 18), (0x2985, 0x2985, 22),
  (0x2986, 0x2986, 18), (0x2987, 0x2987, 22), (0x2988, 0x2988, 18), (0x2989, 0x2989, 22), (0x298A, 0x298A, 18), (0x298B, 0x298B, 22),
  (0x298C, 0x298C, 18), (0x298D, 0x298D, 22), (0x298E, 0x298E, 18), (0x298F, 0x298F, 22), (0x2990, 0x2990, 18), (0x2991, 0x2991, 22),
  (0x2992, 0x2992, 18), (0x2993, 0x2993, 22), (0x2994, 0x2994, 18), (0x2995, 0x2995, 22), (0x2996, 0x2996, 18), (0x2997, 0x2997, 22),
  (0x2998, 0x2998, 18), (0x2999, 0x29D7, 25), (0x29D8, 0x29D8, 22), (0x29D9, 0x29D9, 18)]

/-- Entries 2000 onwards of `categoryRuns`. -/
def categoryRunsPart5 : Array (Nat × Nat × Nat) := #[
  (0x29DA, 0x29DA, 22), (0x29DB, 0x29DB, 18), (0x29DC, 0x29FB, 25), (0x29FC, 0x29FC, 22), (0x29FD, 0x29FD, 18), (0x29FE, 0x2AFF, 25),
  (0x2B00, 0x2B2F, 26), (0x2B30, 0x2B44, 25), (0x2B45, 0x2B46, 26), (0x2B47, 0x2B4C, 25), (0x2B4D, 0x2B73, 26), (0x2B74, 0x2B75, 2),
  (0x2B76, 0x2B95, 26), (0x2B96, 0x2B96, 2), (0x2B97, 0x2BFF, 26), (0x2C00, 0x2C2F, 9), (0x2C30, 0x2C5F, 5), (0x2C60, 0x2C60, 9),
  (0x2C61, 0x2C61, 5), (0x2C62, 0x2C64, 9), (0x2C65, 0x2C66, 5), (0x2C67, 0x2C67, 9), (0x2C68, 0x2C68, 5), (0x2C69, 0x2C69, 9),
  (0x2C6A, 0x2C6A, 5), (0x2C6B, 0x2C6B, 9), (0x2C6C, 0x2C6C, 5), (0x2C6D, 0x2C70, 9), (0x2C71, 0x2C71, 5), (0x2C72, 0x2C72, 9),
  (0x2C73, 0x2C74, 5), (0x2C75, 0x2C75, 9), (0x2C76, 0x2C7B, 5), (0x2C7C, 0x2C7D, 6), (0x2C7E, 0x2C80, 9), (0x2C81, 0x2C81, 5),
  (0x2C82, 0x2C82, 9), (0x2C83, 0x2C83, 5), (0x2C84, 0x2C84, 9), (0x2C85, 0x2C85, 5), (0x2C86, 0x2C86, 9), (0x2C87, 0x2C87, 5),
  (0x2C88, 0x2C88, 9), (0x2C89, 0x2C89, 5), (0x2C8A, 0x2C8A, 9), (0x2C8B, 0x2C8B, 5), (0x2C8C, 0x2C8C, 9), (0x2C8D, 0x2C8D, 5),
  (0x2C8E, 0x2C8E, 9), (0x2C8F, 0x2C8F, 5), (0x2C90, 0x2C90, 9), (0x2C91, 0x2C91, 5), (0x2C92, 0x2C92, 9), (0x2C93, 0x2C93, 5),
  (0x2C94, 0x2C94, 9), (0x2C95, 0x2C95, 5), (0x2C96, 0x2C96, 9), (0x2C97, 0x2C97, 5), (0x2C98, 0x2C98, 9), (0x2C99, 0x2C99, 5),
  (0x2C9A, 0x2C9A, 9), (0x2C9B, 0x2C9B, 5), (0x2C9C, 0x2C9C, 9), (0x2C9D, 0x2C9D, 5), (0x2C9E, 0x2C9E, 9), (0x2C9F, 0x2C9F, 5),
  (0x2CA0, 0x2CA0, 9), (0x2CA1, 0x2CA1, 5), (0x2CA2, 0x2CA2, 9), (0x2CA3, 0x2CA3, 5), (0x2CA4, 0x2CA4, 9), (0x2CA5, 0x2CA5, 5),
  (0x2CA6, 0x2CA6, 9), (0x2CA7, 0x2CA7, 5), (0x2CA8, 0x2CA8, 9), (0x2CA9, 0x2CA9, 5), (0x2CAA, 0x2CAA, 9), (0x2CAB, 0x2CAB, 5),
  (0x2CAC, 0x2CAC, 9), (0x2CAD, 0x2CAD, 5), (0x2CAE, 0x2CAE, 9), (0x2CAF, 0x2CAF, 5), (0x2CB0, 0x2CB0, 9), (0x2CB1, 0x2CB1, 5),
  (0x2CB2, 0x2CB2, 9), (0x2CB3, 0x2CB3, 5), (0x2CB4, 0x2CB4, 9), (0x2CB5, 0x2CB5, 5), (0x2CB6, 0x2CB6, 9), (0x2CB7, 0x2CB7, 5),
  (0x2CB8, 0x2CB8, 9), (0x2CB9, 0x2CB9, 5), (0x2CBA, 0x2CBA, 9), (0x2CBB, 0x2CBB, 5), (0x2CBC, 0x2CBC, 9), (0x2CBD, 0x2CBD, 5),
  (0x2CBE, 0x2CBE, 9), (0x2CBF, 0x2CBF, 5), (0x2CC0, 0x2CC0, 9), (0x2CC1, 0x2CC1, 5), (0x2CC2, 0x2CC2, 9), (0x2CC3, 0x2CC3, 5),
  (0x2CC4, 0x2CC4, 9), (0x2CC5, 0x2CC5, 5), (0x2CC6, 0x2CC6, 9), (0x2CC7, 0x2CC7, 5), (0x2CC8, 0x2CC8, 9), (0x2CC9, 0x2CC9, 5),
  (0x2CCA, 0x2CCA, 9), (0x2CCB, 0x2CCB, 5), (0x2CCC, 0x2CCC, 9), (0x2CCD, 0x2CCD, 5), (0x2CCE, 0x2CCE, 9), (0x2CCF, 0x2CCF, 5),
  (0x2CD0, 0x2CD0, 9), (0x2CD1, 0x2CD1, 5), (0x2CD2, 0x2CD2, 9), (0x2CD3, 0x2CD3, 5), (0x2CD4, 0x2CD4, 9), (0x2CD5, 0x2CD5, 5),
  (0x2CD6, 0x2CD6, 9), (0x2CD7, 0x2CD7, 5), (0x2CD8, 0x2CD8, 9), (0x2CD9, 0x2CD9, 5), (0x2CDA, 0x2CDA, 9), (0x2CDB, 0x2CDB, 5),
  (0x2CDC, 0x2CDC, 9), (0x2CDD, 0x2CDD, 5), (0x2CDE, 0x2CDE, 9), (0x2CDF, 0x2CDF, 5), (0x2CE0, 0x2CE0, 9), (0x2CE1, 0x2CE1, 5),
  (0x2CE2, 0x2CE2, 9), (0x2CE3, 0x2CE4, 5), (0x2CE5, 0x2CEA, 26), (0x2CEB, 0x2CEB, 9), (0x2CEC, 0x2CEC, 5), (0x2CED, 0x2CED, 9),
  (0x2CEE, 0x2CEE, 5), (0x2CEF, 0x2CF1, 12), (0x2CF2, 0x2CF2, 9), (0x2CF3, 0x2CF3, 5), (0x2CF4, 0x2CF8, 2), (0x2CF9, 0x2CFC, 21),
  (0x2CFD, 0x2CFD, 15), (0x2CFE, 0x2CFF, 21), (0x2D00, 0x2D25, 5), (0x2D26, 0x2D26, 2), (0x2D27, 0x2D27, 5), (0x2D28, 0x2D2C, 2),
  (0x2D2D, 0x2D2D, 5), (0x2D2E, 0x2D2F, 2), (0x2D30, 0x2D67, 7), (0x2D68, 0x2D6E, 2), (0x2D6F, 0x2D6F, 6), (0x2D70, 0x2D70, 21),
  (0x2D71, 0x2D7E, 2), (0x2D7F, 0x2D7F, 12), (0x2D80, 0x2D96, 7), (0x2D97, 0x2D9F, 2), (0x2DA0, 0x2DA6, 7), (0x2DA7, 0x2DA7, 2),
  (0x2DA8, 0x2DAE, 7), (0x2DAF, 0x2DAF, 2), (0x2DB0, 0x2DB6, 7), (0x2DB7, 0x2DB7, 2), (0x2DB8, 0x2DBE, 7), (0x2DBF, 0x2DBF, 2),
  (0x2DC0, 0x2DC6, 7), (0x2DC7, 0x2DC7, 2), (0x2DC8, 0x2DCE, 7), (0x2DCF, 0x2DCF, 2), (0x2DD0, 0x2DD6, 7), (0x2DD7, 0x2DD7, 2),
  (0x2DD8, 0x2DDE, 7), (0x2DDF, 0x2DDF, 2), (0x2DE0, 0x2DFF, 12), (0x2E00, 0x2E01, 21), (0x2E02, 0x2E02, 20), (0x2E03, 0x2E03, 19),
  (0x2E04, 0x2E04, 20), (0x2E05, 0x2E05, 19), (0x2E06, 0x2E08, 21), (0x2E09, 0x2E09, 20), (0x2E0A, 0x2E0A, 19), (0x2E0B, 0x2E0B, 21),
  (0x2E0C, 0x2E0C, 20), (0x2E0D, 0x2E0D, 19), (0x2E0E, 0x2E16, 21), (0x2E17, 0x2E17, 17), (0x2E18, 0x2E19, 21), (0x2E1A, 0x2E1A, 17),
  (0x2E1B, 0x2E1B, 21), (0x2E1C, 0x2E1C, 20), (0x2E1D, 0x2E1D, 19), (0x2E1E, 0x2E1F, 21), (0x2E20, 0x2E20, 20), (0x2E21, 0x2E21, 19),
  (0x2E22, 0x2E22, 22), (0x2E23, 0x2E23, 18), (0x2E24, 0x2E24, 22), (0x2E25, 0x2E25, 18), (0x2E26, 0x2E26, 22), (0x2E27, 0x2E27, 18),
  (0x2E28, 0x2E28, 22), (0x2E29, 0x2E29, 18), (0x2E2A, 0x2E2E, 21), (0x2E2F, 0x2E2F, 6), (0x2E30, 0x2E39, 21), (0x2E3A, 0x2E3B, 17),
  (0x2E3C, 0x2E3F, 21), (0x2E40, 0x2E40, 17), (0x2E41, 0x2E41, 21), (0x2E42, 0x2E42, 22), (0x2E43, 0x2E4F, 21), (0x2E50, 0x2E51, 26),
  (0x2E52, 0x2E54, 21), (0x2E55, 0x2E55, 22), (0x2E56, 0x2E56, 18), (0x2E57, 0x2E57, 22), (0x2E58, 0x2E58, 18), (0x2E59, 0x2E59, 22),
  (0x2E5A, 0x2E5A, 18), (0x2E5B, 0x2E5B, 22), (0x2E5C, 0x2E5C, 18), (0x2E5D, 0x2E5D, 17), (0x2E5E, 0x2E7F, 2), (0x2E80, 0x2E99, 26),
  (0x2E9A, 0x2E9A, 2), (0x2E9B, 0x2EF3, 26), (0x2EF4, 0x2EFF, 2), (0x2F00, 0x2FD5, 26), (0x2FD6, 0x2FEF, 2), (0x2FF0, 0x2FFB, 26),
  (0x2FFC, 0x2FFF, 2), (0x3000, 0x3000, 29), (0x3001, 0x3003, 21), (0x3004, 0x3004, 26), (0x3005, 0x3005, 6), (0x3006, 0x3006, 7),
  (0x3007, 0x3007, 14), (0x3008, 0x3008, 22), (0x3009, 0x3009, 18), (0x300A, 0x300A, 22), (0x300B, 0x300B, 18), (0x300C, 0x300C, 22),
  (0x300D, 0x300D, 18), (0x300E, 0x300E, 22), (0x300F, 0x300F, 18), (0x3010, 0x3010, 22), (0x3011, 0x3011, 18), (0x3012, 0x3013, 26),
  (0x3014, 0x3014, 22), (0x3015, 0x3015, 18), (0x3016, 0x3016, 22), (0x3017, 0x3017, 18), (0x3018, 0x3018, 22), (0x3019, 0x3019, 18),
  (0x301A, 0x301A, 22), (0x301B, 0x301B, 18), (0x301C, 0x301C, 17), (0x301D, 0x301D, 22), (0x301E, 0x301F, 18), (0x3020, 0x3020, 26),
  (0x3021, 0x3029, 14), (0x302A, 0x302D, 12), (0x302E, 0x302F, 10), (0x3030, 0x3030, 17), (0x3031, 0x3035, 6), (0x3036, 0x3037, 26),
  (0x3038, 0x303A, 14), (0x303B, 0x303B, 6), (0x303C, 0x303C, 7), (0x303D, 0x303D, 21), (0x303E, 0x303F, 26), (0x3040, 0x3040, 2),
  (0x3041, 0x3096, 7), (0x3097, 0x3098, 2), (0x3099, 0x309A, 12), (0x309B, 0x309C, 24), (0x309D, 0x309E, 6), (0x309F, 0x309F, 7),
  (0x30A0, 0x30A0, 17), (0x30A1, 0x30FA, 7), (0x30FB, 0x30FB, 21), (0x30FC, 0x30FE, 6), (0x30FF, 0x30FF, 7), (0x3100, 0x3104, 2),
  (0x3105, 0x312F, 7), (0x3130, 0x3130, 2), (0x3131, 0x318E, 7), (0x318F, 0x318F, 2), (0x3190, 0x3191, 26), (0x3192, 0x3195, 15),
  (0x3196, 0x319F, 26), (0x31A0, 0x31BF, 7), (0x31C0, 0x31E3, 26), (0x31E4, 0x31EF, 2), (0x31F0, 0x31FF, 7), (0x3200, 0x321E, 26),
  (0x321F, 0x321F, 2), (0x3220, 0x3229, 15), (0x322A, 0x3247, 26), (0x3248, 0x324F, 15), (0x3250, 0x3250, 26), (0x3251, 0x325F, 15),
  (0x3260, 0x327F, 26), (0x3280, 0x3289, 15), (0x328A, 0x32B0, 26), (0x32B1, 0x32BF, 15), (0x32C0, 0x33FF, 26), (0x3400, 0x4DBF, 7),
  (0x4DC0, 0x4DFF, 26), (0x4E00, 0xA014, 7), (0xA015, 0xA015, 6), (0xA016, 0xA48C, 7), (0xA48D, 0xA48F, 2), (0xA490, 0xA4C6, 26),
  (0xA4C7, 0xA4CF, 2), (0xA4D0, 0xA4F7, 7), (0xA4F8, 0xA4FD, 6), (0xA4FE, 0xA4FF, 21), (0xA500, 0xA60B, 7), (0xA60C, 0xA60C, 6),
  (0xA60D, 0xA60F, 21), (0xA610, 0xA61F, 7), (0xA620, 0xA629, 13), (0xA62A, 0xA62B, 7), (0xA62C, 0xA63F, 2), (0xA640, 0xA640, 9),
  (0xA641, 0xA641, 5), (0xA642, 0xA642, 9), (0xA643, 0xA643, 5), (0xA644, 0xA644, 9), (0xA645, 0xA645, 5), (0xA646, 0xA646, 9),
  (0xA647, 0xA647, 5), (0xA648, 0xA648, 9), (0xA649, 0xA649, 5), (0xA64A, 0xA64A, 9), (0xA64B, 0xA64B, 5), (0xA64C, 0xA64C, 9),
  (0xA64D, 0xA64D, 5), (0xA64E, 0xA64E, 9), (0xA64F, 0xA64F, 5), (0xA650, 0xA650, 9), (0xA651, 0xA651, 5), (0xA652, 0xA652, 9),
  (0xA653, 0xA653, 5), (0xA654, 0xA654, 9), (0xA655, 0xA655, 5), (0xA656, 0xA656, 9), (0xA657, 0xA657, 5), (0xA658, 0xA658, 9),
  (0xA659, 0xA659, 5), (0xA65A, 0xA65A, 9), (0xA65B, 0xA65B, 5), (0xA65C, 0xA65C, 9), (0xA65D, 0xA65D, 5), (0xA65E, 0xA65E, 9),
  (0xA65F, 0xA65F, 5), (0xA660, 0xA660, 9), (0xA661, 0xA661, 5), (0xA662, 0xA662, 9), (0xA663, 0xA663, 5), (0xA664, 0xA664, 9),
  (0xA665, 0xA665, 5), (0xA666, 0xA666, 9), (0xA667, 0xA667, 5), (0xA668, 0xA668, 9), (0xA669, 0xA669, 5), (0xA66A, 0xA66A, 9),
  (0xA66B, 0xA66B, 5), (0xA66C, 0xA66C, 9), (0xA66D, 0xA66D, 5), (0xA66E, 0xA66E, 7), (0xA66F, 0xA66F, 12), (0xA670, 0xA672, 11),
  (0xA673, 0xA673, 21), (0xA674, 0xA67D, 12), (0xA67E, 0xA67E, 21), (0xA67F, 0xA67F, 6), (0xA680, 0xA680, 9), (0xA681, 0xA681, 5),
  (0xA682, 0xA682, 9), (0xA683, 0xA683, 5), (0xA684, 0xA684, 9), (0xA685, 0xA685, 5), (0xA686, 0xA686, 9), (0xA687, 0xA687, 5),
  (0xA688, 0xA688, 9), (0xA689, 0xA689, 5), (0xA68A, 0xA68A, 9), (0xA68B, 0xA68B, 5), (0xA68C, 0xA68C, 9), (0xA68D, 0xA68D, 5),
  (0xA68E, 0xA68E, 9), (0xA68F, 0xA68F, 5), (0xA690, 0xA690, 9), (0xA691, 0xA691, 5)]

/-- Entries 2400 onwards of `categoryRuns`. -/
def categoryRunsPart6 : Array (Nat × Nat × Nat) := #[
  (0xA692, 0xA692, 9), (0xA693, 0xA693, 5), (0xA694, 0xA694, 9), (0xA695, 0xA695, 5), (0xA696, 0xA696, 9), (0xA697, 0xA697, 5),
  (0xA698, 0xA698, 9), (0xA699, 0xA699, 5), (0xA69A, 0xA69A, 9), (0xA69B, 0xA69B, 5), (0xA69C, 0xA69D, 6), (0xA69E, 0xA69F, 12),
  (0xA6A0, 0xA6E5, 7), (0xA6E6, 0xA6EF, 14), (0xA6F0, 0xA6F1, 12), (0xA6F2, 0xA6F7, 21), (0xA6F8, 0xA6FF, 2), (0xA700, 0xA716, 24),
  (0xA717, 0xA71F, 6), (0xA720, 0xA721, 24), (0xA722, 0xA722, 9), (0xA723, 0xA723, 5), (0xA724, 0xA724, 9), (0xA725, 0xA725, 5),
  (0xA726, 0xA726, 9), (0xA727, 0xA727, 5), (0xA728, 0xA728, 9), (0xA729, 0xA729, 5), (0xA72A, 0xA72A, 9), (0xA72B, 0xA72B, 5),
  (0xA72C, 0xA72C, 9), (0xA72D, 0xA72D, 5), (0xA72E, 0xA72E, 9), (0xA72F, 0xA731, 5), (0xA732, 0xA732, 9), (0xA733, 0xA733, 5),
  (0xA734, 0xA734, 9), (0xA735, 0xA735, 5), (0xA736, 0xA736, 9), (0xA737, 0xA737, 5), (0xA738, 0xA738, 9), (0xA739, 0xA739, 5),
  (0xA73A, 0xA73A, 9), (0xA73B, 0xA73B, 5), (0xA73C, 0xA73C, 9), (0xA73D, 0xA73D, 5), (0xA73E, 0xA73E, 9), (0xA73F, 0xA73F, 5),
  (0xA740, 0xA740, 9), (0xA741, 0xA741, 5), (0xA742, 0xA742, 9), (0xA743, 0xA743, 5), (0xA744, 0xA744, 9), (0xA745, 0xA745, 5),
  (0xA746, 0xA746, 9), (0xA747, 0xA747, 5), (0xA748, 0xA748, 9), (0xA749, 0xA749, 5), (0xA74A, 0xA74A, 9), (0xA74B, 0xA74B, 5),
  (0xA74C, 0xA74C, 9), (0xA74D, 0xA74D, 5), (0xA74E, 0xA74E, 9), (0xA74F, 0xA74F, 5), (0xA750, 0xA750, 9), (0xA751, 0xA751, 5),
  (0xA752, 0xA752, 9), (0xA753, 0xA753, 5), (0xA754, 0xA754, 9), (0xA755, 0xA755, 5), (0xA756, 0xA756, 9), (0xA757, 0xA757, 5),
  (0xA758, 0xA758, 9), (0xA759, 0xA759, 5), (0xA75A, 0xA75A, 9), (0xA75B, 0xA75B, 5), (0xA75C, 0xA75C, 9), (0xA75D, 0xA75D, 5),
  (0xA75E, 0xA75E, 9), (0xA75F, 0xA75F, 5), (0xA760, 0xA760, 9), (0xA761, 0xA761, 5), (0xA762, 0xA762, 9), (0xA763, 0xA763, 5),
  (0xA764, 0xA764, 9), (0xA765, 0xA765, 5), (0xA766, 0xA766, 9), (0xA767, 0xA767, 5), (0xA768, 0xA768, 9), (0xA769, 0xA769, 5),
  (0xA76A, 0xA76A, 9), (0xA76B, 0xA76B, 5), (0xA76C, 0xA76C, 9), (0xA76D, 0xA76D, 5), (0xA76E, 0xA76E, 9), (0xA76F, 0xA76F, 5),
  (0xA770, 0xA770, 6), (0xA771, 0xA778, 5), (0xA779, 0xA779, 9), (0xA77A, 0xA77A, 5), (0xA77B, 0xA77B, 9), (0xA77C, 0xA77C, 5),
  (0xA77D, 0xA77E, 9), (0xA77F, 0xA77F, 5), (0xA780, 0xA780, 9), (0xA781, 0xA781, 5), (0xA782, 0xA782, 9), (0xA783, 0xA783, 5),
  (0xA784, 0xA784, 9), (0xA785, 0xA785, 5), (0xA786, 0xA786, 9), (0xA787, 0xA787, 5), (0xA788, 0xA788, 6), (0xA789, 0xA78A, 24),
  (0xA78B, 0xA78B, 9), (0xA78C, 0xA78C, 5), (0xA78D, 0xA78D, 9), (0xA78E, 0xA78E, 5), (0xA78F, 0xA78F, 7), (0xA790, 0xA790, 9),
  (0xA791, 0xA791, 5), (0xA792, 0xA792, 9), (0xA793, 0xA795, 5), (0xA796, 0xA796, 9), (0xA797, 0xA797, 5), (0xA798, 0xA798, 9),
  (0xA799, 0xA799, 5), (0xA79A, 0xA79A, 9), (0xA79B, 0xA79B, 5), (0xA79C, 0xA79C, 9), (0xA79D, 0xA79D, 5), (0xA79E, 0xA79E, 9),
  (0xA79F, 0xA79F, 5), (0xA7A0, 0xA7A0, 9), (0xA7A1, 0xA7A1, 5), (0xA7A2, 0xA7A2, 9), (0xA7A3, 0xA7A3, 5), (0xA7A4, 0xA7A4, 9),
  (0xA7A5, 0xA7A5, 5), (0xA7A6, 0xA7A6, 9), (0xA7A7, 0xA7A7, 5), (0xA7A8, 0xA7A8, 9), (0xA7A9, 0xA7A9, 5), (0xA7AA, 0xA7AE, 9),
  (0xA7AF, 0xA7AF, 5), (0xA7B0, 0xA7B4, 9), (0xA7B5, 0xA7B5, 5), (0xA7B6, 0xA7B6, 9), (0xA7B7, 0xA7B7, 5), (0xA7B8, 0xA7B8, 9),
  (0xA7B9, 0xA7B9, 5), (0xA7BA, 0xA7BA, 9), (0xA7BB, 0xA7BB, 5), (0xA7BC, 0xA7BC, 9), (0xA7BD, 0xA7BD, 5), (0xA7BE, 0xA7BE, 9),
  (0xA7BF, 0xA7BF, 5), (0xA7C0, 0xA7C0, 9), (0xA7C1, 0xA7C1, 5), (0xA7C2, 0xA7C2, 9), (0xA7C3, 0xA7C3, 5), (0xA7C4, 0xA7C7, 9),
  (0xA7C8, 0xA7C8, 5), (0xA7C9, 0xA7C9, 9), (0xA7CA, 0xA7CA, 5), (0xA7CB, 0xA7CF, 2), (0xA7D0, 0xA7D0, 9), (0xA7D1, 0xA7D1, 5),
  (0xA7D2, 0xA7D2, 2), (0xA7D3, 0xA7D3, 5), (0xA7D4, 0xA7D4, 2), (0xA7D5, 0xA7D5, 5), (0xA7D6, 0xA7D6, 9), (0xA7D7, 0xA7D7, 5),
  (0xA7D8, 0xA7D8, 9), (0xA7D9, 0xA7D9, 5), (0xA7DA, 0xA7F1, 2), (0xA7F2, 0xA7F4, 6), (0xA7F5, 0xA7F5, 9), (0xA7F6, 0xA7F6, 5),
  (0xA7F7, 0xA7F7, 7), (0xA7F8, 0xA7F9, 6), (0xA7FA, 0xA7FA, 5), (0xA7FB, 0xA801, 7), (0xA802, 0xA802, 12), (0xA803, 0xA805, 7),
  (0xA806, 0xA806, 12), (0xA807, 0xA80A, 7), (0xA80B, 0xA80B, 12), (0xA80C, 0xA822, 7), (0xA823, 0xA824, 10), (0xA825, 0xA826, 12),
  (0xA827, 0xA827, 10), (0xA828, 0xA82B, 26), (0xA82C, 0xA82C, 12), (0xA82D, 0xA82F, 2), (0xA830, 0xA835, 15), (0xA836, 0xA837, 26),
  (0xA838, 0xA838, 23), (0xA839, 0xA839, 26), (0xA83A, 0xA83F, 2), (0xA840, 0xA873, 7), (0xA874, 0xA877, 21), (0xA878, 0xA87F, 2),
  (0xA880, 0xA881, 10), (0xA882, 0xA8B3, 7), (0xA8B4, 0xA8C3, 10), (0xA8C4, 0xA8C5, 12), (0xA8C6, 0xA8CD, 2), (0xA8CE, 0xA8CF, 21),
  (0xA8D0, 0xA8D9, 13), (0xA8DA, 0xA8DF, 2), (0xA8E0, 0xA8F1, 12), (0xA8F2, 0xA8F7, 7), (0xA8F8, 0xA8FA, 21), (0xA8FB, 0xA8FB, 7),
  (0xA8FC, 0xA8FC, 21), (0xA8FD, 0xA8FE, 7), (0xA8FF, 0xA8FF, 12), (0xA900, 0xA909, 13), (0xA90A, 0xA925, 7), (0xA926, 0xA92D, 12),
  (0xA92E, 0xA92F, 21), (0xA930, 0xA946, 7), (0xA947, 0xA951, 12), (0xA952, 0xA953, 10), (0xA954, 0xA95E, 2), (0xA95F, 0xA95F, 21),
  (0xA960, 0xA97C, 7), (0xA97D, 0xA97F, 2), (0xA980, 0xA982, 12), (0xA983, 0xA983, 10), (0xA984, 0xA9B2, 7), (0xA9B3, 0xA9B3, 12),
  (0xA9B4, 0xA9B5, 10), (0xA9B6, 0xA9B9, 12), (0xA9BA, 0xA9BB, 10), (0xA9BC, 0xA9BD, 12), (0xA9BE, 0xA9C0, 10), (0xA9C1, 0xA9CD, 21),
  (0xA9CE, 0xA9CE, 2), (0xA9CF, 0xA9CF, 6), (0xA9D0, 0xA9D9, 13), (0xA9DA, 0xA9DD, 2), (0xA9DE, 0xA9DF, 21), (0xA9E0, 0xA9E4, 7),
  (0xA9E5, 0xA9E5, 12), (0xA9E6, 0xA9E6, 6), (0xA9E7, 0xA9EF, 7), (0xA9F0, 0xA9F9, 13), (0xA9FA, 0xA9FE, 7), (0xA9FF, 0xA9FF, 2),
  (0xAA00, 0xAA28, 7), (0xAA29, 0xAA2E, 12), (0xAA2F, 0xAA30, 10), (0xAA31, 0xAA32, 12), (0xAA33, 0xAA34, 10), (0xAA35, 0xAA36, 12),
  (0xAA37, 0xAA3F, 2), (0xAA40, 0xAA42, 7), (0xAA43, 0xAA43, 12), (0xAA44, 0xAA4B, 7), (0xAA4C, 0xAA4C, 12), (0xAA4D, 0xAA4D, 10),
  (0xAA4E, 0xAA4F, 2), (0xAA50, 0xAA59, 13), (0xAA5A, 0xAA5B, 2), (0xAA5C, 0xAA5F, 21), (0xAA60, 0xAA6F, 7), (0xAA70, 0xAA70, 6),
  (0xAA71, 0xAA76, 7), (0xAA77, 0xAA79, 26), (0xAA7A, 0xAA7A, 7), (0xAA7B, 0xAA7B, 10), (0xAA7C, 0xAA7C, 12), (0xAA7D, 0xAA7D, 10),
  (0xAA7E, 0xAAAF, 7), (0xAAB0, 0xAAB0, 12), (0xAAB1, 0xAAB1, 7), (0xAAB2, 0xAAB4, 12), (0xAAB5, 0xAAB6, 7), (0xAAB7, 0xAAB8, 12),
  (0xAAB9, 0xAABD, 7), (0xAABE, 0xAABF, 12), (0xAAC0, 0xAAC0, 7), (0xAAC1, 0xAAC1, 12), (0xAAC2, 0xAAC2, 7), (0xAAC3, 0xAADA, 2),
  (0xAADB, 0xAADC, 7), (0xAADD, 0xAADD, 6), (0xAADE, 0xAADF, 21), (0xAAE0, 0xAAEA, 7), (0xAAEB, 0xAAEB, 10), (0xAAEC, 0xAAED, 12),
  (0xAAEE, 0xAAEF, 10), (0xAAF0, 0xAAF1, 21), (0xAAF2, 0xAAF2, 7), (0xAAF3, 0xAAF4, 6), (0xAAF5, 0xAAF5, 10), (0xAAF6, 0xAAF6, 12),
  (0xAAF7, 0xAB00, 2), (0xAB01, 0xAB06, 7), (0xAB07, 0xAB08, 2), (0xAB09, 0xAB0E, 7), (0xAB0F, 0xAB10, 2), (0xAB11, 0xAB16, 7),
  (0xAB17, 0xAB1F, 2), (0xAB20, 0xAB26, 7), (0xAB27, 0xAB27, 2), (0xAB28, 0xAB2E, 7), (0xAB2F, 0xAB2F, 2), (0xAB30, 0xAB5A, 5),
  (0xAB5B, 0xAB5B, 24), (0xAB5C, 0xAB5F, 6), (0xAB60, 0xAB68, 5), (0xAB69, 0xAB69, 6), (0xAB6A, 0xAB6B, 24), (0xAB6C, 0xAB6F, 2),
  (0xAB70, 0xABBF, 5), (0xABC0, 0xABE2, 7), (0xABE3, 0xABE4, 10), (0xABE5, 0xABE5, 12), (0xABE6, 0xABE7, 10), (0xABE8, 0xABE8, 12),
  (0xABE9, 0xABEA, 10), (0xABEB, 0xABEB, 21), (0xABEC, 0xABEC, 10), (0xABED, 0xABED, 12), (0xABEE, 0xABEF, 2), (0xABF0, 0xABF9, 13),
  (0xABFA, 0xABFF, 2), (0xAC00, 0xD7A3, 7), (0xD7A4, 0xD7AF, 2), (0xD7B0, 0xD7C6, 7), (0xD7C7, 0xD7CA, 2), (0xD7CB, 0xD7FB, 7),
  (0xD7FC, 0xD7FF, 2), (0xD800, 0xDFFF, 4), (0xE000, 0xF8FF, 3), (0xF900, 0xFA6D, 7), (0xFA6E, 0xFA6F, 2), (0xFA70, 0xFAD9, 7),
  (0xFADA, 0xFAFF, 2), (0xFB00, 0xFB06, 5), (0xFB07, 0xFB12, 2), (0xFB13, 0xFB17, 5), (0xFB18, 0xFB1C, 2), (0xFB1D, 0xFB1D, 7),
  (0xFB1E, 0xFB1E, 12), (0xFB1F, 0xFB28, 7), (0xFB29, 0xFB29, 25), (0xFB2A, 0xFB36, 7), (0xFB37, 0xFB37, 2), (0xFB38, 0xFB3C, 7),
  (0xFB3D, 0xFB3D, 2), (0xFB3E, 0xFB3E, 7), (0xFB3F, 0xFB3F, 2), (0xFB40, 0xFB41, 7), (0xFB42, 0xFB42, 2), (0xFB43, 0xFB44, 7),
  (0xFB45, 0xFB45, 2), (0xFB46, 0xFBB1, 7), (0xFBB2, 0xFBC2, 24), (0xFBC3, 0xFBD2, 2), (0xFBD3, 0xFD3D, 7), (0xFD3E, 0xFD3E, 18),
  (0xFD3F, 0xFD3F, 22), (0xFD40, 0xFD4F, 26), (0xFD50, 0xFD8F, 7), (0xFD90, 0xFD91, 2), (0xFD92, 0xFDC7, 7), (0xFDC8, 0xFDCE, 2),
  (0xFDCF, 0xFDCF, 26), (0xFDD0, 0xFDEF, 2), (0xFDF0, 0xFDFB, 7), (0xFDFC, 0xFDFC, 23), (0xFDFD, 0xFDFF, 26), (0xFE00, 0xFE0F, 12),
  (0xFE10, 0xFE16, 21), (0xFE17, 0xFE17, 22), (0xFE18, 0xFE18, 18), (0xFE19, 0xFE19, 21), (0xFE1A, 0xFE1F, 2), (0xFE20, 0xFE2F, 12),
  (0xFE30, 0xFE30, 21), (0xFE31, 0xFE32, 17), (0xFE33, 0xFE34, 16), (0xFE35, 0xFE35, 22), (0xFE36, 0xFE36, 18), (0xFE37, 0xFE37, 22),
  (0xFE38, 0xFE38, 18), (0xFE39, 0xFE39, 22), (0xFE3A, 0xFE3A, 18), (0xFE3B, 0xFE3B, 22), (0xFE3C, 0xFE3C, 18), (0xFE3D, 0xFE3D, 22),
  (0xFE3E, 0xFE3E, 18), (0xFE3F, 0xFE3F, 22), (0xFE40, 0xFE40, 18), (0xFE41, 0xFE41, 22)]

/-- Entries 2800 onwards of `categoryRuns`. -/
def categoryRunsPart7 : Array (Nat × Nat × Nat) := #[
  (0xFE42, 0xFE42, 18), (0xFE43, 0xFE43, 22), (0xFE44, 0xFE44, 18), (0xFE45, 0xFE46, 21), (0xFE47, 0xFE47, 22), (0xFE48, 0xFE48, 18),
  (0xFE49, 0xFE4C, 21), (0xFE4D, 0xFE4F, 16), (0xFE50, 0xFE52, 21), (0xFE53, 0xFE53, 2), (0xFE54, 0xFE57, 21), (0xFE58, 0xFE58, 17),
  (0xFE59, 0xFE59, 22), (0xFE5A, 0xFE5A, 18), (0xFE5B, 0xFE5B, 22), (0xFE5C, 0xFE5C, 18), (0xFE5D, 0xFE5D, 22), (0xFE5E, 0xFE5E, 18),
  (0xFE5F, 0xFE61, 21), (0xFE62, 0xFE62, 25), (0xFE63, 0xFE63, 17), (0xFE64, 0xFE66, 25), (0xFE67, 0xFE67, 2), (0xFE68, 0xFE68, 21),
  (0xFE69, 0xFE69, 23), (0xFE6A, 0xFE6B, 21), (0xFE6C, 0xFE6F, 2), (0xFE70, 0xFE74, 7), (0xFE75, 0xFE75, 2), (0xFE76, 0xFEFC, 7),
  (0xFEFD, 0xFEFE, 2), (0xFEFF, 0xFEFF, 1), (0xFF00, 0xFF00, 2), (0xFF01, 0xFF03, 21), (0xFF04, 0xFF04, 23), (0xFF05, 0xFF07, 21),
  (0xFF08, 0xFF08, 22), (0xFF09, 0xFF09, 18), (0xFF0A, 0xFF0A, 21), (0xFF0B, 0xFF0B, 25), (0xFF0C, 0xFF0C, 21), (0xFF0D, 0xFF0D, 17),
  (0xFF0E, 0xFF0F, 21), (0xFF10, 0xFF19, 13), (0xFF1A, 0xFF1B, 21), (0xFF1C, 0xFF1E, 25), (0xFF1F, 0xFF20, 21), (0xFF21, 0xFF3A, 9),
  (0xFF3B, 0xFF3B, 22), (0xFF3C, 0xFF3C, 21), (0xFF3D, 0xFF3D, 18), (0xFF3E, 0xFF3E, 24), (0xFF3F, 0xFF3F, 16), (0xFF40, 0xFF40, 24),
  (0xFF41, 0xFF5A, 5), (0xFF5B, 0xFF5B, 22), (0xFF5C, 0xFF5C, 25), (0xFF5D, 0xFF5D, 18), (0xFF5E, 0xFF5E, 25), (0xFF5F, 0xFF5F, 22),
  (0xFF60, 0xFF60, 18), (0xFF61, 0xFF61, 21), (0xFF62, 0xFF62, 22), (0xFF63, 0xFF63, 18), (0xFF64, 0xFF65, 21), (0xFF66, 0xFF6F, 7),
  (0xFF70, 0xFF70, 6), (0xFF71, 0xFF9D, 7), (0xFF9E, 0xFF9F, 6), (0xFFA0, 0xFFBE, 7), (0xFFBF, 0xFFC1, 2), (0xFFC2, 0xFFC7, 7),
  (0xFFC8, 0xFFC9, 2), (0xFFCA, 0xFFCF, 7), (0xFFD0, 0xFFD1, 2), (0xFFD2, 0xFFD7, 7), (0xFFD8, 0xFFD9, 2), (0xFFDA, 0xFFDC, 7),
  (0xFFDD, 0xFFDF, 2), (0xFFE0, 0xFFE1, 23), (0xFFE2, 0xFFE2, 25), (0xFFE3, 0xFFE3, 24), (0xFFE4, 0xFFE4, 26), (0xFFE5, 0xFFE6, 23),
  (0xFFE7, 0xFFE7, 2), (0xFFE8, 0xFFE8, 26), (0xFFE9, 0xFFEC, 25), (0xFFED, 0xFFEE, 26), (0xFFEF, 0xFFF8, 2), (0xFFF9, 0xFFFB, 1),
  (0xFFFC, 0xFFFD, 26), (0xFFFE, 0xFFFF, 2), (0x10000, 0x1000B, 7), (0x1000C, 0x1000C, 2), (0x1000D, 0x10026, 7), (0x10027, 0x10027, 2),
  (0x10028, 0x1003A, 7), (0x1003B, 0x1003B, 2), (0x1003C, 0x1003D, 7), (0x1003E, 0x1003E, 2), (0x1003F, 0x1004D, 7), (0x1004E, 0x1004F, 2),
  (0x10050, 0x1005D, 7), (0x1005E, 0x1007F, 2), (0x10080, 0x100FA, 7), (0x100FB, 0x100FF, 2), (0x10100, 0x10102, 21), (0x10103, 0x10106, 2),
  (0x10107, 0x10133, 15), (0x10134, 0x10136, 2), (0x10137, 0x1013F, 26), (0x10140, 0x10174, 14), (0x10175, 0x10178, 15), (0x10179, 0x10189, 26),
  (0x1018A, 0x1018B, 15), (0x1018C, 0x1018E, 26), (0x1018F, 0x1018F, 2), (0x10190, 0x1019C, 26), (0x1019D, 0x1019F, 2), (0x101A0, 0x101A0, 26),
  (0x101A1, 0x101CF, 2), (0x101D0, 0x101FC, 26), (0x101FD, 0x101FD, 12), (0x101FE, 0x1027F, 2), (0x10280, 0x1029C, 7), (0x1029D, 0x1029F, 2),
  (0x102A0, 0x102D0, 7), (0x102D1, 0x102DF, 2), (0x102E0, 0x102E0, 12), (0x102E1, 0x102FB, 15), (0x102FC, 0x102FF, 2), (0x10300, 0x1031F, 7),
  (0x10320, 0x10323, 15), (0x10324, 0x1032C, 2), (0x1032D, 0x10340, 7), (0x10341, 0x10341, 14), (0x10342, 0x10349, 7), (0x1034A, 0x1034A, 14),
  (0x1034B, 0x1034F, 2), (0x10350, 0x10375, 7), (0x10376, 0x1037A, 12), (0x1037B, 0x1037F, 2), (0x10380, 0x1039D, 7), (0x1039E, 0x1039E, 2),
  (0x1039F, 0x1039F, 21), (0x103A0, 0x103C3, 7), (0x103C4, 0x103C7, 2), (0x103C8, 0x103CF, 7), (0x103D0, 0x103D0, 21), (0x103D1, 0x103D5, 14),
  (0x103D6, 0x103FF, 2), (0x10400, 0x10427, 9), (0x10428, 0x1044F, 5), (0x10450, 0x1049D, 7), (0x1049E, 0x1049F, 2), (0x104A0, 0x104A9, 13),
  (0x104AA, 0x104AF, 2), (0x104B0, 0x104D3, 9), (0x104D4, 0x104D7, 2), (0x104D8, 0x104FB, 5), (0x104FC, 0x104FF, 2), (0x10500, 0x10527, 7),
  (0x10528, 0x1052F, 2), (0x10530, 0x10563, 7), (0x10564, 0x1056E, 2), (0x1056F, 0x1056F, 21), (0x10570, 0x1057A, 9), (0x1057B, 0x1057B, 2),
  (0x1057C, 0x1058A, 9), (0x1058B, 0x1058B, 2), (0x1058C, 0x10592, 9), (0x10593, 0x10593, 2), (0x10594, 0x10595, 9), (0x10596, 0x10596, 2),
  (0x10597, 0x105A1, 5), (0x105A2, 0x105A2, 2), (0x105A3, 0x105B1, 5), (0x105B2, 0x105B2, 2), (0x105B3, 0x105B9, 5), (0x105BA, 0x105BA, 2),
  (0x105BB, 0x105BC, 5), (0x105BD, 0x105FF, 2), (0x10600, 0x10736, 7), (0x10737, 0x1073F, 2), (0x10740, 0x10755, 7), (0x10756, 0x1075F, 2),
  (0x10760, 0x10767, 7), (0x10768, 0x1077F, 2), (0x10780, 0x10785, 6), (0x10786, 0x10786, 2), (0x10787, 0x107B0, 6), (0x107B1, 0x107B1, 2),
  (0x107B2, 0x107BA, 6), (0x107BB, 0x107FF, 2), (0x10800, 0x10805, 7), (0x10806, 0x10807, 2), (0x10808, 0x10808, 7), (0x10809, 0x10809, 2),
  (0x1080A, 0x10835, 7), (0x10836, 0x10836, 2), (0x10837, 0x10838, 7), (0x10839, 0x1083B, 2), (0x1083C, 0x1083C, 7), (0x1083D, 0x1083E, 2),
  (0x1083F, 0x10855, 7), (0x10856, 0x10856, 2), (0x10857, 0x10857, 21), (0x10858, 0x1085F, 15), (0x10860, 0x10876, 7), (0x10877, 0x10878, 26),
  (0x10879, 0x1087F, 15), (0x10880, 0x1089E, 7), (0x1089F, 0x108A6, 2), (0x108A7, 0x108AF, 15), (0x108B0, 0x108DF, 2), (0x108E0, 0x108F2, 7),
  (0x108F3, 0x108F3, 2), (0x108F4, 0x108F5, 7), (0x108F6, 0x108FA, 2), (0x108FB, 0x108FF, 15), (0x10900, 0x10915, 7), (0x10916, 0x1091B, 15),
  (0x1091C, 0x1091E, 2), (0x1091F, 0x1091F, 21), (0x10920, 0x10939, 7), (0x1093A, 0x1093E, 2), (0x1093F, 0x1093F, 21), (0x10940, 0x1097F, 2),
  (0x10980, 0x109B7, 7), (0x109B8, 0x109BB, 2), (0x109BC, 0x109BD, 15), (0x109BE, 0x109BF, 7), (0x109C0, 0x109CF, 15), (0x109D0, 0x109D1, 2),
  (0x109D2, 0x109FF, 15), (0x10A00, 0x10A00, 7), (0x10A01, 0x10A03, 12), (0x10A04, 0x10A04, 2), (0x10A05, 0x10A06, 12), (0x10A07, 0x10A0B, 2),
  (0x10A0C, 0x10A0F, 12), (0x10A10, 0x10A13, 7), (0x10A14, 0x10A14, 2), (0x10A15, 0x10A17, 7), (0x10A18, 0x10A18, 2), (0x10A19, 0x10A35, 7),
  (0x10A36, 0x10A37, 2), (0x10A38, 0x10A3A, 12), (0x10A3B, 0x10A3E, 2), (0x10A3F, 0x10A3F, 12), (0x10A40, 0x10A48, 15), (0x10A49, 0x10A4F, 2),
  (0x10A50, 0x10A58, 21), (0x10A59, 0x10A5F, 2), (0x10A60, 0x10A7C, 7), (0x10A7D, 0x10A7E, 15), (0x10A7F, 0x10A7F, 21), (0x10A80, 0x10A9C, 7),
  (0x10A9D, 0x10A9F, 15), (0x10AA0, 0x10ABF, 2), (0x10AC0, 0x10AC7, 7), (0x10AC8, 0x10AC8, 26), (0x10AC9, 0x10AE4, 7), (0x10AE5, 0x10AE6, 12),
  (0x10AE7, 0x10AEA, 2), (0x10AEB, 0x10AEF, 15), (0x10AF0, 0x10AF6, 21), (0x10AF7, 0x10AFF, 2), (0x10B00, 0x10B35, 7), (0x10B36, 0x10B38, 2),
  (0x10B39, 0x10B3F, 21), (0x10B40, 0x10B55, 7), (0x10B56, 0x10B57, 2), (0x10B58, 0x10B5F, 15), (0x10B60, 0x10B72, 7), (0x10B73, 0x10B77, 2),
  (0x10B78, 0x10B7F, 15), (0x10B80, 0x10B91, 7), (0x10B92, 0x10B98, 2), (0x10B99, 0x10B9C, 21), (0x10B9D, 0x10BA8, 2), (0x10BA9, 0x10BAF, 15),
  (0x10BB0, 0x10BFF, 2), (0x10C00, 0x10C48, 7), (0x10C49, 0x10C7F, 2), (0x10C80, 0x10CB2, 9), (0x10CB3, 0x10CBF, 2), (0x10CC0, 0x10CF2, 5),
  (0x10CF3, 0x10CF9, 2), (0x10CFA, 0x10CFF, 15), (0x10D00, 0x10D23, 7), (0x10D24, 0x10D27, 12), (0x10D28, 0x10D2F, 2), (0x10D30, 0x10D39, 13),
  (0x10D3A, 0x10E5F, 2), (0x10E60, 0x10E7E, 15), (0x10E7F, 0x10E7F, 2), (0x10E80, 0x10EA9, 7), (0x10EAA, 0x10EAA, 2), (0x10EAB, 0x10EAC, 12),
  (0x10EAD, 0x10EAD, 17), (0x10EAE, 0x10EAF, 2), (0x10EB0, 0x10EB1, 7), (0x10EB2, 0x10EFC, 2), (0x10EFD, 0x10EFF, 12), (0x10F00, 0x10F1C, 7),
  (0x10F1D, 0x10F26, 15), (0x10F27, 0x10F27, 7), (0x10F28, 0x10F2F, 2), (0x10F30, 0x10F45, 7), (0x10F46, 0x10F50, 12), (0x10F51, 0x10F54, 15),
  (0x10F55, 0x10F59, 21), (0x10F5A, 0x10F6F, 2), (0x10F70, 0x10F81, 7), (0x10F82, 0x10F85, 12), (0x10F86, 0x10F89, 21), (0x10F8A, 0x10FAF, 2),
  (0x10FB0, 0x10FC4, 7), (0x10FC5, 0x10FCB, 15), (0x10FCC, 0x10FDF, 2), (0x10FE0, 0x10FF6, 7), (0x10FF7, 0x10FFF, 2), (0x11000, 0x11000, 10),
  (0x11001, 0x11001, 12), (0x11002, 0x11002, 10), (0x11003, 0x11037, 7), (0x11038, 0x11046, 12), (0x11047, 0x1104D, 21), (0x1104E, 0x11051, 2),
  (0x11052, 0x11065, 15), (0x11066, 0x1106F, 13), (0x11070, 0x11070, 12), (0x11071, 0x11072, 7), (0x11073, 0x11074, 12), (0x11075, 0x11075, 7),
  (0x11076, 0x1107E, 2), (0x1107F, 0x11081, 12), (0x11082, 0x11082, 10), (0x11083, 0x110AF, 7), (0x110B0, 0x110B2, 10), (0x110B3, 0x110B6, 12),
  (0x110B7, 0x110B8, 10), (0x110B9, 0x110BA, 12), (0x110BB, 0x110BC, 21), (0x110BD, 0x110BD, 1), (0x110BE, 0x110C1, 21), (0x110C2, 0x110C2, 12),
  (0x110C3, 0x110CC, 2), (0x110CD, 0x110CD, 1), (0x110CE, 0x110CF, 2), (0x110D0, 0x110E8, 7), (0x110E9, 0x110EF, 2), (0x110F0, 0x110F9, 13),
  (0x110FA, 0x110FF, 2), (0x11100, 0x11102, 12), (0x11103, 0x11126, 7), (0x11127, 0x1112B, 12), (0x1112C, 0x1112C, 10), (0x1112D, 0x11134, 12),
  (0x11135, 0x11135, 2), (0x11136, 0x1113F, 13), (0x11140, 0x11143, 21), (0x11144, 0x11144, 7), (0x11145, 0x11146, 10), (0x11147, 0x11147, 7),
  (0x11148, 0x1114F, 2), (0x11150, 0x11172, 7), (0x11173, 0x11173, 12), (0x11174, 0x11175, 21), (0x11176, 0x11176, 7), (0x11177, 0x1117F, 2),
  (0x11180, 0x11181, 12), (0x11182, 0x11182, 10), (0x11183, 0x111B2, 7), (0x111B3, 0x111B5, 10), (0x111B6, 0x111BE, 12), (0x111BF, 0x111C0, 10),
  (0x111C1, 0x111C4, 7), (0x111C5, 0x111C8, 21), (0x111C9, 0x111CC, 12), (0x111CD, 0x111CD, 21), (0x111CE, 0x111CE, 10), (0x111CF, 0x111CF, 12),
  (0x111D0, 0x111D9, 13), (0x111DA, 0x111DA, 7), (0x111DB, 0x111DB, 21), (0x111DC, 0x111DC, 7), (0x111DD, 0x111DF, 21), (0x111E0, 0x111E0, 2),
  (0x111E1, 0x111F4, 15), (0x111F5, 0x111FF, 2), (0x11200, 0x11211, 7), (0x11212, 0x11212, 2), (0x11213, 0x1122B, 7), (0x1122C, 0x1122E, 10),
  (0x1122F, 0x11231, 12), (0x11232, 0x11233, 10), (0x11234, 0x11234, 12), (0x11235, 0x11235, 10)]

/-- Entries 3200 onwards of `categoryRuns`. -/
def categoryRunsPart8 : Array (Nat × Nat × Nat) := #[
  (0x11236, 0x11237, 12), (0x11238, 0x1123D, 21), (0x1123E, 0x1123E, 12), (0x1123F, 0x11240, 7), (0x11241, 0x11241, 12), (0x11242, 0x1127F, 2),
  (0x11280, 0x11286, 7), (0x11287, 0x11287, 2), (0x11288, 0x11288, 7), (0x11289, 0x11289, 2), (0x1128A, 0x1128D, 7), (0x1128E, 0x1128E, 2),
  (0x1128F, 0x1129D, 7), (0x1129E, 0x1129E, 2), (0x1129F, 0x112A8, 7), (0x112A9, 0x112A9, 21), (0x112AA, 0x112AF, 2), (0x112B0, 0x112DE, 7),
  (0x112DF, 0x112DF, 12), (0x112E0, 0x112E2, 10), (0x112E3, 0x112EA, 12), (0x112EB, 0x112EF, 2), (0x112F0, 0x112F9, 13), (0x112FA, 0x112FF, 2),
  (0x11300, 0x11301, 12), (0x11302, 0x11303, 10), (0x11304, 0x11304, 2), (0x11305, 0x1130C, 7), (0x1130D, 0x1130E, 2), (0x1130F, 0x11310, 7),
  (0x11311, 0x11312, 2), (0x11313, 0x11328, 7), (0x11329, 0x11329, 2), (0x1132A, 0x11330, 7), (0x11331, 0x11331, 2), (0x11332, 0x11333, 7),
  (0x11334, 0x11334, 2), (0x11335, 0x11339, 7), (0x1133A, 0x1133A, 2), (0x1133B, 0x1133C, 12), (0x1133D, 0x1133D, 7), (0x1133E, 0x1133F, 10),
  (0x11340, 0x11340, 12), (0x11341, 0x11344, 10), (0x11345, 0x11346, 2), (0x11347, 0x11348, 10), (0x11349, 0x1134A, 2), (0x1134B, 0x1134D, 10),
  (0x1134E, 0x1134F, 2), (0x11350, 0x11350, 7), (0x11351, 0x11356, 2), (0x11357, 0x11357, 10), (0x11358, 0x1135C, 2), (0x1135D, 0x11361, 7),
  (0x11362, 0x11363, 10), (0x11364, 0x11365, 2), (0x11366, 0x1136C, 12), (0x1136D, 0x1136F, 2), (0x11370, 0x11374, 12), (0x11375, 0x113FF, 2),
  (0x11400, 0x11434, 7), (0x11435, 0x11437, 10), (0x11438, 0x1143F, 12), (0x11440, 0x11441, 10), (0x11442, 0x11444, 12), (0x11445, 0x11445, 10),
  (0x11446, 0x11446, 12), (0x11447, 0x1144A, 7), (0x1144B, 0x1144F, 21), (0x11450, 0x11459, 13), (0x1145A, 0x1145B, 21), (0x1145C, 0x1145C, 2),
  (0x1145D, 0x1145D, 21), (0x1145E, 0x1145E, 12), (0x1145F, 0x11461, 7), (0x11462, 0x1147F, 2), (0x11480, 0x114AF, 7), (0x114B0, 0x114B2, 10),
  (0x114B3, 0x114B8, 12), (0x114B9, 0x114B9, 10), (0x114BA, 0x114BA, 12), (0x114BB, 0x114BE, 10), (0x114BF, 0x114C0, 12), (0x114C1, 0x114C1, 10),
  (0x114C2, 0x114C3, 12), (0x114C4, 0x114C5, 7), (0x114C6, 0x114C6, 21), (0x114C7, 0x114C7, 7), (0x114C8, 0x114CF, 2), (0x114D0, 0x114D9, 13),
  (0x114DA, 0x1157F, 2), (0x11580, 0x115AE, 7), (0x115AF, 0x115B1, 10), (0x115B2, 0x115B5, 12), (0x115B6, 0x115B7, 2), (0x115B8, 0x115BB, 10),
  (0x115BC, 0x115BD, 12), (0x115BE, 0x115BE, 10), (0x115BF, 0x115C0, 12), (0x115C1, 0x115D7, 21), (0x115D8, 0x115DB, 7), (0x115DC, 0x115DD, 12),
  (0x115DE, 0x115FF, 2), (0x11600, 0x1162F, 7), (0x11630, 0x11632, 10), (0x11633, 0x1163A, 12), (0x1163B, 0x1163C, 10), (0x1163D, 0x1163D, 12),
  (0x1163E, 0x1163E, 10), (0x1163F, 0x11640, 12), (0x11641, 0x11643, 21), (0x11644, 0x11644, 7), (0x11645, 0x1164F, 2), (0x11650, 0x11659, 13),
  (0x1165A, 0x1165F, 2), (0x11660, 0x1166C, 21), (0x1166D, 0x1167F, 2), (0x11680, 0x116AA, 7), (0x116AB, 0x116AB, 12), (0x116AC, 0x116AC, 10),
  (0x116AD, 0x116AD, 12), (0x116AE, 0x116AF, 10), (0x116B0, 0x116B5, 12), (0x116B6, 0x116B6, 10), (0x116B7, 0x116B7, 12), (0x116B8, 0x116B8, 7),
  (0x116B9, 0x116B9, 21), (0x116BA, 0x116BF, 2), (0x116C0, 0x116C9, 13), (0x116CA, 0x116FF, 2), (0x11700, 0x1171A, 7), (0x1171B, 0x1171C, 2),
  (0x1171D, 0x1171F, 12), (0x11720, 0x11721, 10), (0x11722, 0x11725, 12), (0x11726, 0x11726, 10), (0x11727, 0x1172B, 12), (0x1172C, 0x1172F, 2),
  (0x11730, 0x11739, 13), (0x1173A, 0x1173B, 15), (0x1173C, 0x1173E, 21), (0x1173F, 0x1173F, 26), (0x11740, 0x11746, 7), (0x11747, 0x117FF, 2),
  (0x11800, 0x1182B, 7), (0x1182C, 0x1182E, 10), (0x1182F, 0x11837, 12), (0x11838, 0x11838, 10), (0x11839, 0x1183A, 12), (0x1183B, 0x1183B, 21),
  (0x1183C, 0x1189F, 2), (0x118A0, 0x118BF, 9), (0x118C0, 0x118DF, 5), (0x118E0, 0x118E9, 13), (0x118EA, 0x118F2, 15), (0x118F3, 0x118FE, 2),
  (0x118FF, 0x11906, 7), (0x11907, 0x11908, 2), (0x11909, 0x11909, 7), (0x1190A, 0x1190B, 2), (0x1190C, 0x11913, 7), (0x11914, 0x11914, 2),
  (0x11915, 0x11916, 7), (0x11917, 0x11917, 2), (0x11918, 0x1192F, 7), (0x11930, 0x11935, 10), (0x11936, 0x11936, 2), (0x11937, 0x11938, 10),
  (0x11939, 0x1193A, 2), (0x1193B, 0x1193C, 12), (0x1193D, 0x1193D, 10), (0x1193E, 0x1193E, 12), (0x1193F, 0x1193F, 7), (0x11940, 0x11940, 10),
  (0x11941, 0x11941, 7), (0x11942, 0x11942, 10), (0x11943, 0x11943, 12), (0x11944, 0x11946, 21), (0x11947, 0x1194F, 2), (0x11950, 0x11959, 13),
  (0x1195A, 0x1199F, 2), (0x119A0, 0x119A7, 7), (0x119A8, 0x119A9, 2), (0x119AA, 0x119D0, 7), (0x119D1, 0x119D3, 10), (0x119D4, 0x119D7, 12),
  (0x119D8, 0x119D9, 2), (0x119DA, 0x119DB, 12), (0x119DC, 0x119DF, 10), (0x119E0, 0x119E0, 12), (0x119E1, 0x119E1, 7), (0x119E2, 0x119E2, 21),
  (0x119E3, 0x119E3, 7), (0x119E4, 0x119E4, 10), (0x119E5, 0x119FF, 2), (0x11A00, 0x11A00, 7), (0x11A01, 0x11A0A, 12), (0x11A0B, 0x11A32, 7),
  (0x11A33, 0x11A38, 12), (0x11A39, 0x11A39, 10), (0x11A3A, 0x11A3A, 7), (0x11A3B, 0x11A3E, 12), (0x11A3F, 0x11A46, 21), (0x11A47, 0x11A47, 12),
  (0x11A48, 0x11A4F, 2), (0x11A50, 0x11A50, 7), (0x11A51, 0x11A56, 12), (0x11A57, 0x11A58, 10), (0x11A59, 0x11A5B, 12), (0x11A5C, 0x11A89, 7),
  (0x11A8A, 0x11A96, 12), (0x11A97, 0x11A97, 10), (0x11A98, 0x11A99, 12), (0x11A9A, 0x11A9C, 21), (0x11A9D, 0x11A9D, 7), (0x11A9E, 0x11AA2, 21),
  (0x11AA3, 0x11AAF, 2), (0x11AB0, 0x11AF8, 7), (0x11AF9, 0x11AFF, 2), (0x11B00, 0x11B09, 21), (0x11B0A, 0x11BFF, 2), (0x11C00, 0x11C08, 7),
  (0x11C09, 0x11C09, 2), (0x11C0A, 0x11C2E, 7), (0x11C2F, 0x11C2F, 10), (0x11C30, 0x11C36, 12), (0x11C37, 0x11C37, 2), (0x11C38, 0x11C3D, 12),
  (0x11C3E, 0x11C3E, 10), (0x11C3F, 0x11C3F, 12), (0x11C40, 0x11C40, 7), (0x11C41, 0x11C45, 21), (0x11C46, 0x11C4F, 2), (0x11C50, 0x11C59, 13),
  (0x11C5A, 0x11C6C, 15), (0x11C6D, 0x11C6F, 2), (0x11C70, 0x11C71, 21), (0x11C72, 0x11C8F, 7), (0x11C90, 0x11C91, 2), (0x11C92, 0x11CA7, 12),
  (0x11CA8, 0x11CA8, 2), (0x11CA9, 0x11CA9, 10), (0x11CAA, 0x11CB0, 12), (0x11CB1, 0x11CB1, 10), (0x11CB2, 0x11CB3, 12), (0x11CB4, 0x11CB4, 10),
  (0x11CB5, 0x11CB6, 12), (0x11CB7, 0x11CFF, 2), (0x11D00, 0x11D06, 7), (0x11D07, 0x11D07, 2), (0x11D08, 0x11D09, 7), (0x11D0A, 0x11D0A, 2),
  (0x11D0B, 0x11D30, 7), (0x11D31, 0x11D36, 12), (0x11D37, 0x11D39, 2), (0x11D3A, 0x11D3A, 12), (0x11D3B, 0x11D3B, 2), (0x11D3C, 0x11D3D, 12),
  (0x11D3E, 0x11D3E, 2), (0x11D3F, 0x11D45, 12), (0x11D46, 0x11D46, 7), (0x11D47, 0x11D47, 12), (0x11D48, 0x11D4F, 2), (0x11D50, 0x11D59, 13),
  (0x11D5A, 0x11D5F, 2), (0x11D60, 0x11D65, 7), (0x11D66, 0x11D66, 2), (0x11D67, 0x11D68, 7), (0x11D69, 0x11D69, 2), (0x11D6A, 0x11D89, 7),
  (0x11D8A, 0x11D8E, 10), (0x11D8F, 0x11D8F, 2), (0x11D90, 0x11D91, 12), (0x11D92, 0x11D92, 2), (0x11D93, 0x11D94, 10), (0x11D95, 0x11D95, 12),
  (0x11D96, 0x11D96, 10), (0x11D97, 0x11D97, 12), (0x11D98, 0x11D98, 7), (0x11D99, 0x11D9F, 2), (0x11DA0, 0x11DA9, 13), (0x11DAA, 0x11EDF, 2),
  (0x11EE0, 0x11EF2, 7), (0x11EF3, 0x11EF4, 12), (0x11EF5, 0x11EF6, 10), (0x11EF7, 0x11EF8, 21), (0x11EF9, 0x11EFF, 2), (0x11F00, 0x11F01, 12),
  (0x11F02, 0x11F02, 7), (0x11F03, 0x11F03, 10), (0x11F04, 0x11F10, 7), (0x11F11, 0x11F11, 2), (0x11F12, 0x11F33, 7), (0x11F34, 0x11F35, 10),
  (0x11F36, 0x11F3A, 12), (0x11F3B, 0x11F3D, 2), (0x11F3E, 0x11F3F, 10), (0x11F40, 0x11F40, 12), (0x11F41, 0x11F41, 10), (0x11F42, 0x11F42, 12),
  (0x11F43, 0x11F4F, 21), (0x11F50, 0x11F59, 13), (0x11F5A, 0x11FAF, 2), (0x11FB0, 0x11FB0, 7), (0x11FB1, 0x11FBF, 2), (0x11FC0, 0x11FD4, 15),
  (0x11FD5, 0x11FDC, 26), (0x11FDD, 0x11FE0, 23), (0x11FE1, 0x11FF1, 26), (0x11FF2, 0x11FFE, 2), (0x11FFF, 0x11FFF, 21), (0x12000, 0x12399, 7),
  (0x1239A, 0x123FF, 2), (0x12400, 0x1246E, 14), (0x1246F, 0x1246F, 2), (0x12470, 0x12474, 21), (0x12475, 0x1247F, 2), (0x12480, 0x12543, 7),
  (0x12544, 0x12F8F, 2), (0x12F90, 0x12FF0, 7), (0x12FF1, 0x12FF2, 21), (0x12FF3, 0x12FFF, 2), (0x13000, 0x1342F, 7), (0x13430, 0x1343F, 1),
  (0x13440, 0x13440, 12), (0x13441, 0x13446, 7), (0x13447, 0x13455, 12), (0x13456, 0x143FF, 2), (0x14400, 0x14646, 7), (0x14647, 0x167FF, 2),
  (0x16800, 0x16A38, 7), (0x16A39, 0x16A3F, 2), (0x16A40, 0x16A5E, 7), (0x16A5F, 0x16A5F, 2), (0x16A60, 0x16A69, 13), (0x16A6A, 0x16A6D, 2),
  (0x16A6E, 0x16A6F, 21), (0x16A70, 0x16ABE, 7), (0x16ABF, 0x16ABF, 2), (0x16AC0, 0x16AC9, 13), (0x16ACA, 0x16ACF, 2), (0x16AD0, 0x16AED, 7),
  (0x16AEE, 0x16AEF, 2), (0x16AF0, 0x16AF4, 12), (0x16AF5, 0x16AF5, 21), (0x16AF6, 0x16AFF, 2), (0x16B00, 0x16B2F, 7), (0x16B30, 0x16B36, 12),
  (0x16B37, 0x16B3B, 21), (0x16B3C, 0x16B3F, 26), (0x16B40, 0x16B43, 6), (0x16B44, 0x16B44, 21), (0x16B45, 0x16B45, 26), (0x16B46, 0x16B4F, 2),
  (0x16B50, 0x16B59, 13), (0x16B5A, 0x16B5A, 2), (0x16B5B, 0x16B61, 15), (0x16B62, 0x16B62, 2), (0x16B63, 0x16B77, 7), (0x16B78, 0x16B7C, 2),
  (0x16B7D, 0x16B8F, 7), (0x16B90, 0x16E3F, 2), (0x16E40, 0x16E5F, 9), (0x16E60, 0x16E7F, 5), (0x16E80, 0x16E96, 15), (0x16E97, 0x16E9A, 21),
  (0x16E9B, 0x16EFF, 2), (0x16F00, 0x16F4A, 7), (0x16F4B, 0x16F4E, 2), (0x16F4F, 0x16F4F, 12), (0x16F50, 0x16F50, 7), (0x16F51, 0x16F87, 10),
  (0x16F88, 0x16F8E, 2), (0x16F8F, 0x16F92, 12), (0x16F93, 0x16F9F, 6), (0x16FA0, 0x16FDF, 2), (0x16FE0, 0x16FE1, 6), (0x16FE2, 0x16FE2, 21),
  (0x16FE3, 0x16FE3, 6), (0x16FE4, 0x16FE4, 12), (0x16FE5, 0x16FEF, 2), (0x16FF0, 0x16FF1, 10), (0x16FF2, 0x16FFF, 2), (0x17000, 0x187F7, 7),
  (0x187F8, 0x187FF, 2), (0x18800, 0x18CD5, 7), (0x18CD6, 0x18CFF, 2), (0x18D00, 0x18D08, 7), (0x18D09, 0x1AFEF, 2), (0x1AFF0, 0x1AFF3, 6),
  (0x1AFF4, 0x1AFF4, 2), (0x1AFF5, 0x1AFFB, 6), (0x1AFFC, 0x1AFFC, 2), (0x1AFFD, 0x1AFFE, 6), (0x1AFFF, 0x1AFFF, 2), (0x1B000, 0x1B122, 7),
  (0x1B123, 0x1B131, 2), (0x1B132, 0x1B132, 7), (0x1B133, 0x1B14F, 2), (0x1B150, 0x1B152, 7)]

/-- Entries 3600 onwards of `categoryRuns`. -/
def categoryRunsPart9 : Array (Nat × Nat × Nat) := #[
  (0x1B153, 0x1B154, 2), (0x1B155, 0x1B155, 7), (0x1B156, 0x1B163, 2), (0x1B164, 0x1B167, 7), (0x1B168, 0x1B16F, 2), (0x1B170, 0x1B2FB, 7),
  (0x1B2FC, 0x1BBFF, 2), (0x1BC00, 0x1BC6A, 7), (0x1BC6B, 0x1BC6F, 2), (0x1BC70, 0x1BC7C, 7), (0x1BC7D, 0x1BC7F, 2), (0x1BC80, 0x1BC88, 7),
  (0x1BC89, 0x1BC8F, 2), (0x1BC90, 0x1BC99, 7), (0x1BC9A, 0x1BC9B, 2), (0x1BC9C, 0x1BC9C, 26), (0x1BC9D, 0x1BC9E, 12), (0x1BC9F, 0x1BC9F, 21),
  (0x1BCA0, 0x1BCA3, 1), (0x1BCA4, 0x1CEFF, 2), (0x1CF00, 0x1CF2D, 12), (0x1CF2E, 0x1CF2F, 2), (0x1CF30, 0x1CF46, 12), (0x1CF47, 0x1CF4F, 2),
  (0x1CF50, 0x1CFC3, 26), (0x1CFC4, 0x1CFFF, 2), (0x1D000, 0x1D0F5, 26), (0x1D0F6, 0x1D0FF, 2), (0x1D100, 0x1D126, 26), (0x1D127, 0x1D128, 2),
  (0x1D129, 0x1D164, 26), (0x1D165, 0x1D166, 10), (0x1D167, 0x1D169, 12), (0x1D16A, 0x1D16C, 26), (0x1D16D, 0x1D172, 10), (0x1D173, 0x1D17A, 1),
  (0x1D17B, 0x1D182, 12), (0x1D183, 0x1D184, 26), (0x1D185, 0x1D18B, 12), (0x1D18C, 0x1D1A9, 26), (0x1D1AA, 0x1D1AD, 12), (0x1D1AE, 0x1D1EA, 26),
  (0x1D1EB, 0x1D1FF, 2), (0x1D200, 0x1D241, 26), (0x1D242, 0x1D244, 12), (0x1D245, 0x1D245, 26), (0x1D246, 0x1D2BF, 2), (0x1D2C0, 0x1D2D3, 15),
  (0x1D2D4, 0x1D2DF, 2), (0x1D2E0, 0x1D2F3, 15), (0x1D2F4, 0x1D2FF, 2), (0x1D300, 0x1D356, 26), (0x1D357, 0x1D35F, 2), (0x1D360, 0x1D378, 15),
  (0x1D379, 0x1D3FF, 2), (0x1D400, 0x1D419, 9), (0x1D41A, 0x1D433, 5), (0x1D434, 0x1D44D, 9), (0x1D44E, 0x1D454, 5), (0x1D455, 0x1D455, 2),
  (0x1D456, 0x1D467, 5), (0x1D468, 0x1D481, 9), (0x1D482, 0x1D49B, 5), (0x1D49C, 0x1D49C, 9), (0x1D49D, 0x1D49D, 2), (0x1D49E, 0x1D49F, 9),
  (0x1D4A0, 0x1D4A1, 2), (0x1D4A2, 0x1D4A2, 9), (0x1D4A3, 0x1D4A4, 2), (0x1D4A5, 0x1D4A6, 9), (0x1D4A7, 0x1D4A8, 2), (0x1D4A9, 0x1D4AC, 9),
  (0x1D4AD, 0x1D4AD, 2), (0x1D4AE, 0x1D4B5, 9), (0x1D4B6, 0x1D4B9, 5), (0x1D4BA, 0x1D4BA, 2), (0x1D4BB, 0x1D4BB, 5), (0x1D4BC, 0x1D4BC, 2),
  (0x1D4BD, 0x1D4C3, 5), (0x1D4C4, 0x1D4C4, 2), (0x1D4C5, 0x1D4CF, 5), (0x1D4D0, 0x1D4E9, 9), (0x1D4EA, 0x1D503, 5), (0x1D504, 0x1D505, 9),
  (0x1D506, 0x1D506, 2), (0x1D507, 0x1D50A, 9), (0x1D50B, 0x1D50C, 2), (0x1D50D, 0x1D514, 9), (0x1D515, 0x1D515, 2), (0x1D516, 0x1D51C, 9),
  (0x1D51D, 0x1D51D, 2), (0x1D51E, 0x1D537, 5), (0x1D538, 0x1D539, 9), (0x1D53A, 0x1D53A, 2), (0x1D53B, 0x1D53E, 9), (0x1D53F, 0x1D53F, 2),
  (0x1D540, 0x1D544, 9), (0x1D545, 0x1D545, 2), (0x1D546, 0x1D546, 9), (0x1D547, 0x1D549, 2), (0x1D54A, 0x1D550, 9), (0x1D551, 0x1D551, 2),
  (0x1D552, 0x1D56B, 5), (0x1D56C, 0x1D585, 9), (0x1D586, 0x1D59F, 5), (0x1D5A0, 0x1D5B9, 9), (0x1D5BA, 0x1D5D3, 5), (0x1D5D4, 0x1D5ED, 9),
  (0x1D5EE, 0x1D607, 5), (0x1D608, 0x1D621, 9), (0x1D622, 0x1D63B, 5), (0x1D63C, 0x1D655, 9), (0x1D656, 0x1D66F, 5), (0x1D670, 0x1D689, 9),
  (0x1D68A, 0x1D6A5, 5), (0x1D6A6, 0x1D6A7, 2), (0x1D6A8, 0x1D6C0, 9), (0x1D6C1, 0x1D6C1, 25), (0x1D6C2, 0x1D6DA, 5), (0x1D6DB, 0x1D6DB, 25),
  (0x1D6DC, 0x1D6E1, 5), (0x1D6E2, 0x1D6FA, 9), (0x1D6FB, 0x1D6FB, 25), (0x1D6FC, 0x1D714, 5), (0x1D715, 0x1D715, 25), (0x1D716, 0x1D71B, 5),
  (0x1D71C, 0x1D734, 9), (0x1D735, 0x1D735, 25), (0x1D736, 0x1D74E, 5), (0x1D74F, 0x1D74F, 25), (0x1D750, 0x1D755, 5), (0x1D756, 0x1D76E, 9),
  (0x1D76F, 0x1D76F, 25), (0x1D770, 0x1D788, 5), (0x1D789, 0x1D789, 25), (0x1D78A, 0x1D78F, 5), (0x1D790, 0x1D7A8, 9), (0x1D7A9, 0x1D7A9, 25),
  (0x1D7AA, 0x1D7C2, 5), (0x1D7C3, 0x1D7C3, 25), (0x1D7C4, 0x1D7C9, 5), (0x1D7CA, 0x1D7CA, 9), (0x1D7CB, 0x1D7CB, 5), (0x1D7CC, 0x1D7CD, 2),
  (0x1D7CE, 0x1D7FF, 13), (0x1D800, 0x1D9FF, 26), (0x1DA00, 0x1DA36, 12), (0x1DA37, 0x1DA3A, 26), (0x1DA3B, 0x1DA6C, 12), (0x1DA6D, 0x1DA74, 26),
  (0x1DA75, 0x1DA75, 12), (0x1DA76, 0x1DA83, 26), (0x1DA84, 0x1DA84, 12), (0x1DA85, 0x1DA86, 26), (0x1DA87, 0x1DA8B, 21), (0x1DA8C, 0x1DA9A, 2),
  (0x1DA9B, 0x1DA9F, 12), (0x1DAA0, 0x1DAA0, 2), (0x1DAA1, 0x1DAAF, 12), (0x1DAB0, 0x1DEFF, 2), (0x1DF00, 0x1DF09, 5), (0x1DF0A, 0x1DF0A, 7),
  (0x1DF0B, 0x1DF1E, 5), (0x1DF1F, 0x1DF24, 2), (0x1DF25, 0x1DF2A, 5), (0x1DF2B, 0x1DFFF, 2), (0x1E000, 0x1E006, 12), (0x1E007, 0x1E007, 2),
  (0x1E008, 0x1E018, 12), (0x1E019, 0x1E01A, 2), (0x1E01B, 0x1E021, 12), (0x1E022, 0x1E022, 2), (0x1E023, 0x1E024, 12), (0x1E025, 0x1E025, 2),
  (0x1E026, 0x1E02A, 12), (0x1E02B, 0x1E02F, 2), (0x1E030, 0x1E06D, 6), (0x1E06E, 0x1E08E, 2), (0x1E08F, 0x1E08F, 12), (0x1E090, 0x1E0FF, 2),
  (0x1E100, 0x1E12C, 7), (0x1E12D, 0x1E12F, 2), (0x1E130, 0x1E136, 12), (0x1E137, 0x1E13D, 6), (0x1E13E, 0x1E13F, 2), (0x1E140, 0x1E149, 13),
  (0x1E14A, 0x1E14D, 2), (0x1E14E, 0x1E14E, 7), (0x1E14F, 0x1E14F, 26), (0x1E150, 0x1E28F, 2), (0x1E290, 0x1E2AD, 7), (0x1E2AE, 0x1E2AE, 12),
  (0x1E2AF, 0x1E2BF, 2), (0x1E2C0, 0x1E2EB, 7), (0x1E2EC, 0x1E2EF, 12), (0x1E2F0, 0x1E2F9, 13), (0x1E2FA, 0x1E2FE, 2), (0x1E2FF, 0x1E2FF, 23),
  (0x1E300, 0x1E4CF, 2), (0x1E4D0, 0x1E4EA, 7), (0x1E4EB, 0x1E4EB, 6), (0x1E4EC, 0x1E4EF, 12), (0x1E4F0, 0x1E4F9, 13), (0x1E4FA, 0x1E7DF, 2),
  (0x1E7E0, 0x1E7E6, 7), (0x1E7E7, 0x1E7E7, 2), (0x1E7E8, 0x1E7EB, 7), (0x1E7EC, 0x1E7EC, 2), (0x1E7ED, 0x1E7EE, 7), (0x1E7EF, 0x1E7EF, 2),
  (0x1E7F0, 0x1E7FE, 7), (0x1E7FF, 0x1E7FF, 2), (0x1E800, 0x1E8C4, 7), (0x1E8C5, 0x1E8C6, 2), (0x1E8C7, 0x1E8CF, 15), (0x1E8D0, 0x1E8D6, 12),
  (0x1E8D7, 0x1E8FF, 2), (0x1E900, 0x1E921, 9), (0x1E922, 0x1E943, 5), (0x1E944, 0x1E94A, 12), (0x1E94B, 0x1E94B, 6), (0x1E94C, 0x1E94F, 2),
  (0x1E950, 0x1E959, 13), (0x1E95A, 0x1E95D, 2), (0x1E95E, 0x1E95F, 21), (0x1E960, 0x1EC70, 2), (0x1EC71, 0x1ECAB, 15), (0x1ECAC, 0x1ECAC, 26),
  (0x1ECAD, 0x1ECAF, 15), (0x1ECB0, 0x1ECB0, 23), (0x1ECB1, 0x1ECB4, 15), (0x1ECB5, 0x1ED00, 2), (0x1ED01, 0x1ED2D, 15), (0x1ED2E, 0x1ED2E, 26),
  (0x1ED2F, 0x1ED3D, 15), (0x1ED3E, 0x1EDFF, 2), (0x1EE00, 0x1EE03, 7), (0x1EE04, 0x1EE04, 2), (0x1EE05, 0x1EE1F, 7), (0x1EE20, 0x1EE20, 2),
  (0x1EE21, 0x1EE22, 7), (0x1EE23, 0x1EE23, 2), (0x1EE24, 0x1EE24, 7), (0x1EE25, 0x1EE26, 2), (0x1EE27, 0x1EE27, 7), (0x1EE28, 0x1EE28, 2),
  (0x1EE29, 0x1EE32, 7), (0x1EE33, 0x1EE33, 2), (0x1EE34, 0x1EE37, 7), (0x1EE38, 0x1EE38, 2), (0x1EE39, 0x1EE39, 7), (0x1EE3A, 0x1EE3A, 2),
  (0x1EE3B, 0x1EE3B, 7), (0x1EE3C, 0x1EE41, 2), (0x1EE42, 0x1EE42, 7), (0x1EE43, 0x1EE46, 2), (0x1EE47, 0x1EE47, 7), (0x1EE48, 0x1EE48, 2),
  (0x1EE49, 0x1EE49, 7), (0x1EE4A, 0x1EE4A, 2), (0x1EE4B, 0x1EE4B, 7), (0x1EE4C, 0x1EE4C, 2), (0x1EE4D, 0x1EE4F, 7), (0x1EE50, 0x1EE50, 2),
  (0x1EE51, 0x1EE52, 7), (0x1EE53, 0x1EE53, 2), (0x1EE54, 0x1EE54, 7), (0x1EE55, 0x1EE56, 2), (0x1EE57, 0x1EE57, 7), (0x1EE58, 0x1EE58, 2),
  (0x1EE59, 0x1EE59, 7), (0x1EE5A, 0x1EE5A, 2), (0x1EE5B, 0x1EE5B, 7), (0x1EE5C, 0x1EE5C, 2), (0x1EE5D, 0x1EE5D, 7), (0x1EE5E, 0x1EE5E, 2),
  (0x1EE5F, 0x1EE5F, 7), (0x1EE60, 0x1EE60, 2), (0x1EE61, 0x1EE62, 7), (0x1EE63, 0x1EE63, 2), (0x1EE64, 0x1EE64, 7), (0x1EE65, 0x1EE66, 2),
  (0x1EE67, 0x1EE6A, 7), (0x1EE6B, 0x1EE6B, 2), (0x1EE6C, 0x1EE72, 7), (0x1EE73, 0x1EE73, 2), (0x1EE74, 0x1EE77, 7), (0x1EE78, 0x1EE78, 2),
  (0x1EE79, 0x1EE7C, 7), (0x1EE7D, 0x1EE7D, 2), (0x1EE7E, 0x1EE7E, 7), (0x1EE7F, 0x1EE7F, 2), (0x1EE80, 0x1EE89, 7), (0x1EE8A, 0x1EE8A, 2),
  (0x1EE8B, 0x1EE9B, 7), (0x1EE9C, 0x1EEA0, 2), (0x1EEA1, 0x1EEA3, 7), (0x1EEA4, 0x1EEA4, 2), (0x1EEA5, 0x1EEA9, 7), (0x1EEAA, 0x1EEAA, 2),
  (0x1EEAB, 0x1EEBB, 7), (0x1EEBC, 0x1EEEF, 2), (0x1EEF0, 0x1EEF1, 25), (0x1EEF2, 0x1EFFF, 2), (0x1F000, 0x1F02B, 26), (0x1F02C, 0x1F02F, 2),
  (0x1F030, 0x1F093, 26), (0x1F094, 0x1F09F, 2), (0x1F0A0, 0x1F0AE, 26), (0x1F0AF, 0x1F0B0, 2), (0x1F0B1, 0x1F0BF, 26), (0x1F0C0, 0x1F0C0, 2),
  (0x1F0C1, 0x1F0CF, 26), (0x1F0D0, 0x1F0D0, 2), (0x1F0D1, 0x1F0F5, 26), (0x1F0F6, 0x1F0FF, 2), (0x1F100, 0x1F10C, 15), (0x1F10D, 0x1F1AD, 26),
  (0x1F1AE, 0x1F1E5, 2), (0x1F1E6, 0x1F202, 26), (0x1F203, 0x1F20F, 2), (0x1F210, 0x1F23B, 26), (0x1F23C, 0x1F23F, 2), (0x1F240, 0x1F248, 26),
  (0x1F249, 0x1F24F, 2), (0x1F250, 0x1F251, 26), (0x1F252, 0x1F25F, 2), (0x1F260, 0x1F265, 26), (0x1F266, 0x1F2FF, 2), (0x1F300, 0x1F3FA, 26),
  (0x1F3FB, 0x1F3FF, 24), (0x1F400, 0x1F6D7, 26), (0x1F6D8, 0x1F6DB, 2), (0x1F6DC, 0x1F6EC, 26), (0x1F6ED, 0x1F6EF, 2), (0x1F6F0, 0x1F6FC, 26),
  (0x1F6FD, 0x1F6FF, 2), (0x1F700, 0x1F776, 26), (0x1F777, 0x1F77A, 2), (0x1F77B, 0x1F7D9, 26), (0x1F7DA, 0x1F7DF, 2), (0x1F7E0, 0x1F7EB, 26),
  (0x1F7EC, 0x1F7EF, 2), (0x1F7F0, 0x1F7F0, 26), (0x1F7F1, 0x1F7FF, 2), (0x1F800, 0x1F80B, 26), (0x1F80C, 0x1F80F, 2), (0x1F810, 0x1F847, 26),
  (0x1F848, 0x1F84F, 2), (0x1F850, 0x1F859, 26), (0x1F85A, 0x1F85F, 2), (0x1F860, 0x1F887, 26), (0x1F888, 0x1F88F, 2), (0x1F890, 0x1F8AD, 26),
  (0x1F8AE, 0x1F8AF, 2), (0x1F8B0, 0x1F8B1, 26), (0x1F8B2, 0x1F8FF, 2), (0x1F900, 0x1FA53, 26), (0x1FA54, 0x1FA5F, 2), (0x1FA60, 0x1FA6D, 26),
  (0x1FA6E, 0x1FA6F, 2), (0x1FA70, 0x1FA7C, 26), (0x1FA7D, 0x1FA7F, 2), (0x1FA80, 0x1FA88, 26), (0x1FA89, 0x1FA8F, 2), (0x1FA90, 0x1FABD, 26),
  (0x1FABE, 0x1FABE, 2), (0x1FABF, 0x1FAC5, 26), (0x1FAC6, 0x1FACD, 2), (0x1FACE, 0x1FADB, 26), (0x1FADC, 0x1FADF, 2), (0x1FAE0, 0x1FAE8, 26),
  (0x1FAE9, 0x1FAEF, 2), (0x1FAF0, 0x1FAF8, 26), (0x1FAF9, 0x1FAFF, 2), (0x1FB00, 0x1FB92, 26), (0x1FB93, 0x1FB93, 2), (0x1FB94, 0x1FBCA, 26),
  (0x1FBCB, 0x1FBEF, 2), (0x1FBF0, 0x1FBF9, 13), (0x1FBFA, 0x1FFFF, 2), (0x20000, 0x2A6DF, 7), (0x2A6E0, 0x2A6FF, 2), (0x2A700, 0x2B739, 7),
  (0x2B73A, 0x2B73F, 2), (0x2B740, 0x2B81D, 7), (0x2B81E, 0x2B81F, 2), (0x2B820, 0x2CEA1, 7), (0x2CEA2, 0x2CEAF, 2), (0x2CEB0, 0x2EBE0, 7),
  (0x2EBE1, 0x2F7FF, 2), (0x2F800, 0x2FA1D, 7), (0x2FA1E, 0x2FFFF, 2), (0x30000, 0x3134A, 7), (0x3134B, 0x3134F, 2), (0x31350, 0x323AF, 7),
  (0x323B0, 0xE0000, 2), (0xE0001, 0xE0001, 1), (0xE0002, 0xE001F, 2), (0xE0020, 0xE007F, 1)]

/-- Entries 4000 onwards of `categoryRuns`. -/
def categoryRunsPart10 : Array (Nat × Nat × Nat) := #[
  (0xE0080, 0xE00FF, 2), (0xE0100, 0xE01EF, 12), (0xE01F0, 0xEFFFF, 2), (0xF0000, 0xFFFFD, 3), (0xFFFFE, 0xFFFFF, 2), (0x100000, 0x10FFFD, 3),
  (0x10FFFE, 0x10FFFF, 2), (0x110000, 0x10FFFF, 2)]

/-- Runs of code points of one category: first, last and the category's index. -/
def categoryRuns : Array (Nat × Nat × Nat) :=
  categoryRunsPart0 ++ categoryRunsPart1 ++ categoryRunsPart2 ++ categoryRunsPart3 ++ categoryRunsPart4 ++ categoryRunsPart5 ++ categoryRunsPart6 ++ categoryRunsPart7 ++ categoryRunsPart8 ++ categoryRunsPart9 ++ categoryRunsPart10

/-- The names of each category and category group (loosely written: lowercase, without
blanks, `_` and `-`), with the codes of the categories it stands for. -/
def categoryNames : List (List String × List String) := [
  (["cc", "control", "cntrl"], ["Cc"]),
  (["cf", "format"], ["Cf"]),
  (["cn", "unassigned"], ["Cn"]),
  (["co", "privateuse"], ["Co"]),
  (["cs", "surrogate"], ["Cs"]),
  (["ll", "lowercaseletter"], ["Ll"]),
  (["lm", "modifierletter"], ["Lm"]),
  (["lo", "otherletter"], ["Lo"]),
  (["lt", "titlecaseletter"], ["Lt"]),
  (["lu", "uppercaseletter"], ["Lu"]),
  (["mc", "spacingmark"], ["Mc"]),
  (["me", "enclosingmark"], ["Me"]),
  (["mn", "nonspacingmark"], ["Mn"]),
  (["nd", "decimalnumber", "digit"], ["Nd"]),
  (["nl", "letternumber"], ["Nl"]),
  (["no", "othernumber"], ["No"]),
  (["pc", "connectorpunctuation"], ["Pc"]),
  (["pd", "dashpunctuation"], ["Pd"]),
  (["pe", "closepunctuation"], ["Pe"]),
  (["pf", "finalpunctuation"], ["Pf"]),
  (["pi", "initialpunctuation"], ["Pi"]),
  (["po", "otherpunctuation"], ["Po"]),
  (["ps", "openpunctuation"], ["Ps"]),
  (["sc", "currencysymbol"], ["Sc"]),
  (["sk", "modifiersymbol"], ["Sk"]),
  (["sm", "mathsymbol"], ["Sm"]),
  (["so", "othersymbol"], ["So"]),
  (["zl", "lineseparator"], ["Zl"]),
  (["zp", "paragraphseparator"], ["Zp"]),
  (["zs", "spaceseparator"], ["Zs"]),
  (["c", "other"], ["Cc", "Cf", "Cn", "Co", "Cs"]),
  (["l", "letter"], ["Ll", "Lm", "Lo", "Lt", "Lu"]),
  (["lc", "casedletter"], ["Lu", "Ll", "Lt"]),
  (["m", "mark", "combiningmark"], ["Mc", "Me", "Mn"]),
  (["n", "number"], ["Nd", "Nl", "No"]),
  (["p", "punctuation", "punct"], ["Pc", "Pd", "Pe", "Pf", "Pi", "Po", "Ps"]),
  (["s", "symbol"], ["Sc", "Sk", "Sm", "So"]),
  (["z", "separator"], ["Zl", "Zp", "Zs"])]

/-- The ranges of the categories with the given codes, sorted. -/
def categoryRanges (codes : List String) : Array (Nat × Nat) :=
  let wanted := (List.range categoryCodes.size).filter fun i => codes.contains (categoryCodes.getD i "")
  categoryRuns.filterMap fun (lo, hi, i) => if wanted.contains i then some (lo, hi) else none

/-- The codes a loosely written category name stands for. -/
def categoryCodesNamed? (name : String) : Option (List String) :=
  (categoryNames.find? fun e => e.1.contains name).map (·.2)

end RuleRouting.Text
