/-!
# Characters of host names

The code points that a label of an international host name may hold, by Unicode 14, with their
direction and whether they combine with the character before them. A few of them are allowed in a
certain context only.
-/

namespace VarsAdvisor.Domain

/-- What a character of a label is for the direction of the label: a letter from left to right, a
mark of its own width or without width, a letter from right to left or of Arabic, a European or
Arabic number, the hyphen, a sign without direction, or a joiner. -/
inductive CharKind where
  | letter
  | spacing
  | mark
  | right
  | arabic
  | number
  | arabicNumber
  | hyphen
  | neutral
  | joiner
  deriving DecidableEq, Repr

/-- Rows from `U+002D` to `U+0467`. -/
def labelRowsFrom2D : List (Nat × Nat × CharKind) := [
  (0x2D, 0x2D, .hyphen), (0x30, 0x39, .number), (0x61, 0x7A, .letter), (0xB7, 0xB7, .neutral),
  (0xDF, 0xF6, .letter), (0xF8, 0xFF, .letter), (0x101, 0x101, .letter), (0x103, 0x103, .letter),
  (0x105, 0x105, .letter), (0x107, 0x107, .letter), (0x109, 0x109, .letter),
  (0x10B, 0x10B, .letter), (0x10D, 0x10D, .letter), (0x10F, 0x10F, .letter),
  (0x111, 0x111, .letter), (0x113, 0x113, .letter), (0x115, 0x115, .letter),
  (0x117, 0x117, .letter), (0x119, 0x119, .letter), (0x11B, 0x11B, .letter),
  (0x11D, 0x11D, .letter), (0x11F, 0x11F, .letter), (0x121, 0x121, .letter),
  (0x123, 0x123, .letter), (0x125, 0x125, .letter), (0x127, 0x127, .letter),
  (0x129, 0x129, .letter), (0x12B, 0x12B, .letter), (0x12D, 0x12D, .letter),
  (0x12F, 0x12F, .letter), (0x131, 0x131, .letter), (0x135, 0x135, .letter),
  (0x137, 0x138, .letter), (0x13A, 0x13A, .letter), (0x13C, 0x13C, .letter),
  (0x13E, 0x13E, .letter), (0x142, 0x142, .letter), (0x144, 0x144, .letter),
  (0x146, 0x146, .letter), (0x148, 0x148, .letter), (0x14B, 0x14B, .letter),
  (0x14D, 0x14D, .letter), (0x14F, 0x14F, .letter), (0x151, 0x151, .letter),
  (0x153, 0x153, .letter), (0x155, 0x155, .letter), (0x157, 0x157, .letter),
  (0x159, 0x159, .letter), (0x15B, 0x15B, .letter), (0x15D, 0x15D, .letter),
  (0x15F, 0x15F, .letter), (0x161, 0x161, .letter), (0x163, 0x163, .letter),
  (0x165, 0x165, .letter), (0x167, 0x167, .letter), (0x169, 0x169, .letter),
  (0x16B, 0x16B, .letter), (0x16D, 0x16D, .letter), (0x16F, 0x16F, .letter),
  (0x171, 0x171, .letter), (0x173, 0x173, .letter), (0x175, 0x175, .letter),
  (0x177, 0x177, .letter), (0x17A, 0x17A, .letter), (0x17C, 0x17C, .letter),
  (0x17E, 0x17E, .letter), (0x180, 0x180, .letter), (0x183, 0x183, .letter),
  (0x185, 0x185, .letter), (0x188, 0x188, .letter), (0x18C, 0x18D, .letter),
  (0x192, 0x192, .letter), (0x195, 0x195, .letter), (0x199, 0x19B, .letter),
  (0x19E, 0x19E, .letter), (0x1A1, 0x1A1, .letter), (0x1A3, 0x1A3, .letter),
  (0x1A5, 0x1A5, .letter), (0x1A8, 0x1A8, .letter), (0x1AA, 0x1AB, .letter),
  (0x1AD, 0x1AD, .letter), (0x1B0, 0x1B0, .letter), (0x1B4, 0x1B4, .letter),
  (0x1B6, 0x1B6, .letter), (0x1B9, 0x1BB, .letter), (0x1BD, 0x1C3, .letter),
  (0x1CE, 0x1CE, .letter), (0x1D0, 0x1D0, .letter), (0x1D2, 0x1D2, .letter),
  (0x1D4, 0x1D4, .letter), (0x1D6, 0x1D6, .letter), (0x1D8, 0x1D8, .letter),
  (0x1DA, 0x1DA, .letter), (0x1DC, 0x1DD, .letter), (0x1DF, 0x1DF, .letter),
  (0x1E1, 0x1E1, .letter), (0x1E3, 0x1E3, .letter), (0x1E5, 0x1E5, .letter),
  (0x1E7, 0x1E7, .letter), (0x1E9, 0x1E9, .letter), (0x1EB, 0x1EB, .letter),
  (0x1ED, 0x1ED, .letter), (0x1EF, 0x1F0, .letter), (0x1F5, 0x1F5, .letter),
  (0x1F9, 0x1F9, .letter), (0x1FB, 0x1FB, .letter), (0x1FD, 0x1FD, .letter),
  (0x1FF, 0x1FF, .letter), (0x201, 0x201, .letter), (0x203, 0x203, .letter),
  (0x205, 0x205, .letter), (0x207, 0x207, .letter), (0x209, 0x209, .letter),
  (0x20B, 0x20B, .letter), (0x20D, 0x20D, .letter), (0x20F, 0x20F, .letter),
  (0x211, 0x211, .letter), (0x213, 0x213, .letter), (0x215, 0x215, .letter),
  (0x217, 0x217, .letter), (0x219, 0x219, .letter), (0x21B, 0x21B, .letter),
  (0x21D, 0x21D, .letter), (0x21F, 0x21F, .letter), (0x221, 0x221, .letter),
  (0x223, 0x223, .letter), (0x225, 0x225, .letter), (0x227, 0x227, .letter),
  (0x229, 0x229, .letter), (0x22B, 0x22B, .letter), (0x22D, 0x22D, .letter),
  (0x22F, 0x22F, .letter), (0x231, 0x231, .letter), (0x233, 0x239, .letter),
  (0x23C, 0x23C, .letter), (0x23F, 0x240, .letter), (0x242, 0x242, .letter),
  (0x247, 0x247, .letter), (0x249, 0x249, .letter), (0x24B, 0x24B, .letter),
  (0x24D, 0x24D, .letter), (0x24F, 0x2AF, .letter), (0x2B9, 0x2BA, .neutral),
  (0x2BB, 0x2C1, .letter), (0x2C6, 0x2CF, .neutral), (0x2D0, 0x2D1, .letter),
  (0x2EC, 0x2EC, .neutral), (0x2EE, 0x2EE, .letter), (0x300, 0x33F, .mark), (0x342, 0x342, .mark),
  (0x346, 0x34E, .mark), (0x350, 0x36F, .mark), (0x371, 0x371, .letter), (0x373, 0x373, .letter),
  (0x375, 0x375, .neutral), (0x377, 0x377, .letter), (0x37B, 0x37D, .letter),
  (0x390, 0x390, .letter), (0x3AC, 0x3CE, .letter), (0x3D7, 0x3D7, .letter),
  (0x3D9, 0x3D9, .letter), (0x3DB, 0x3DB, .letter), (0x3DD, 0x3DD, .letter),
  (0x3DF, 0x3DF, .letter), (0x3E1, 0x3E1, .letter), (0x3E3, 0x3E3, .letter),
  (0x3E5, 0x3E5, .letter), (0x3E7, 0x3E7, .letter), (0x3E9, 0x3E9, .letter),
  (0x3EB, 0x3EB, .letter), (0x3ED, 0x3ED, .letter), (0x3EF, 0x3EF, .letter),
  (0x3F3, 0x3F3, .letter), (0x3F8, 0x3F8, .letter), (0x3FB, 0x3FC, .letter),
  (0x430, 0x45F, .letter), (0x461, 0x461, .letter), (0x463, 0x463, .letter),
  (0x465, 0x465, .letter), (0x467, 0x467, .letter)]

/-- Rows from `U+0469` to `U+09C0`. -/
def labelRowsFrom469 : List (Nat × Nat × CharKind) := [
  (0x469, 0x469, .letter), (0x46B, 0x46B, .letter), (0x46D, 0x46D, .letter),
  (0x46F, 0x46F, .letter), (0x471, 0x471, .letter), (0x473, 0x473, .letter),
  (0x475, 0x475, .letter), (0x477, 0x477, .letter), (0x479, 0x479, .letter),
  (0x47B, 0x47B, .letter), (0x47D, 0x47D, .letter), (0x47F, 0x47F, .letter),
  (0x481, 0x481, .letter), (0x483, 0x487, .mark), (0x48B, 0x48B, .letter), (0x48D, 0x48D, .letter),
  (0x48F, 0x48F, .letter), (0x491, 0x491, .letter), (0x493, 0x493, .letter),
  (0x495, 0x495, .letter), (0x497, 0x497, .letter), (0x499, 0x499, .letter),
  (0x49B, 0x49B, .letter), (0x49D, 0x49D, .letter), (0x49F, 0x49F, .letter),
  (0x4A1, 0x4A1, .letter), (0x4A3, 0x4A3, .letter), (0x4A5, 0x4A5, .letter),
  (0x4A7, 0x4A7, .letter), (0x4A9, 0x4A9, .letter), (0x4AB, 0x4AB, .letter),
  (0x4AD, 0x4AD, .letter), (0x4AF, 0x4AF, .letter), (0x4B1, 0x4B1, .letter),
  (0x4B3, 0x4B3, .letter), (0x4B5, 0x4B5, .letter), (0x4B7, 0x4B7, .letter),
  (0x4B9, 0x4B9, .letter), (0x4BB, 0x4BB, .letter), (0x4BD, 0x4BD, .letter),
  (0x4BF, 0x4BF, .letter), (0x4C2, 0x4C2, .letter), (0x4C4, 0x4C4, .letter),
  (0x4C6, 0x4C6, .letter), (0x4C8, 0x4C8, .letter), (0x4CA, 0x4CA, .letter),
  (0x4CC, 0x4CC, .letter), (0x4CE, 0x4CF, .letter), (0x4D1, 0x4D1, .letter),
  (0x4D3, 0x4D3, .letter), (0x4D5, 0x4D5, .letter), (0x4D7, 0x4D7, .letter),
  (0x4D9, 0x4D9, .letter), (0x4DB, 0x4DB, .letter), (0x4DD, 0x4DD, .letter),
  (0x4DF, 0x4DF, .letter), (0x4E1, 0x4E1, .letter), (0x4E3, 0x4E3, .letter),
  (0x4E5, 0x4E5, .letter), (0x4E7, 0x4E7, .letter), (0x4E9, 0x4E9, .letter),
  (0x4EB, 0x4EB, .letter), (0x4ED, 0x4ED, .letter), (0x4EF, 0x4EF, .letter),
  (0x4F1, 0x4F1, .letter), (0x4F3, 0x4F3, .letter), (0x4F5, 0x4F5, .letter),
  (0x4F7, 0x4F7, .letter), (0x4F9, 0x4F9, .letter), (0x4FB, 0x4FB, .letter),
  (0x4FD, 0x4FD, .letter), (0x4FF, 0x4FF, .letter), (0x501, 0x501, .letter),
  (0x503, 0x503, .letter), (0x505, 0x505, .letter), (0x507, 0x507, .letter),
  (0x509, 0x509, .letter), (0x50B, 0x50B, .letter), (0x50D, 0x50D, .letter),
  (0x50F, 0x50F, .letter), (0x511, 0x511, .letter), (0x513, 0x513, .letter),
  (0x515, 0x515, .letter), (0x517, 0x517, .letter), (0x519, 0x519, .letter),
  (0x51B, 0x51B, .letter), (0x51D, 0x51D, .letter), (0x51F, 0x51F, .letter),
  (0x521, 0x521, .letter), (0x523, 0x523, .letter), (0x525, 0x525, .letter),
  (0x527, 0x527, .letter), (0x529, 0x529, .letter), (0x52B, 0x52B, .letter),
  (0x52D, 0x52D, .letter), (0x52F, 0x52F, .letter), (0x559, 0x559, .letter),
  (0x560, 0x586, .letter), (0x588, 0x588, .letter), (0x591, 0x5BD, .mark), (0x5BF, 0x5BF, .mark),
  (0x5C1, 0x5C2, .mark), (0x5C4, 0x5C5, .mark), (0x5C7, 0x5C7, .mark), (0x5D0, 0x5EA, .right),
  (0x5EF, 0x5F4, .right), (0x610, 0x61A, .mark), (0x620, 0x63F, .arabic), (0x641, 0x64A, .arabic),
  (0x64B, 0x65F, .mark), (0x660, 0x669, .arabicNumber), (0x66E, 0x66F, .arabic),
  (0x670, 0x670, .mark), (0x671, 0x674, .arabic), (0x679, 0x6D3, .arabic), (0x6D5, 0x6D5, .arabic),
  (0x6D6, 0x6DC, .mark), (0x6DF, 0x6E4, .mark), (0x6E5, 0x6E6, .arabic), (0x6E7, 0x6E8, .mark),
  (0x6EA, 0x6ED, .mark), (0x6EE, 0x6EF, .arabic), (0x6F0, 0x6F9, .number), (0x6FA, 0x6FF, .arabic),
  (0x710, 0x710, .arabic), (0x711, 0x711, .mark), (0x712, 0x72F, .arabic), (0x730, 0x74A, .mark),
  (0x74D, 0x7A5, .arabic), (0x7A6, 0x7B0, .mark), (0x7B1, 0x7B1, .arabic), (0x7C0, 0x7EA, .right),
  (0x7EB, 0x7F3, .mark), (0x7F4, 0x7F5, .right), (0x7FD, 0x7FD, .mark), (0x800, 0x815, .right),
  (0x816, 0x819, .mark), (0x81A, 0x81A, .right), (0x81B, 0x823, .mark), (0x824, 0x824, .right),
  (0x825, 0x827, .mark), (0x828, 0x828, .right), (0x829, 0x82D, .mark), (0x840, 0x858, .right),
  (0x859, 0x85B, .mark), (0x860, 0x86A, .arabic), (0x870, 0x887, .arabic), (0x889, 0x88E, .arabic),
  (0x898, 0x89F, .mark), (0x8A0, 0x8C9, .arabic), (0x8CA, 0x8E1, .mark), (0x8E3, 0x902, .mark),
  (0x903, 0x903, .spacing), (0x904, 0x939, .letter), (0x93A, 0x93A, .mark),
  (0x93B, 0x93B, .spacing), (0x93C, 0x93C, .mark), (0x93D, 0x93D, .letter),
  (0x93E, 0x940, .spacing), (0x941, 0x948, .mark), (0x949, 0x94C, .spacing), (0x94D, 0x94D, .mark),
  (0x94E, 0x94F, .spacing), (0x950, 0x950, .letter), (0x951, 0x957, .mark),
  (0x960, 0x961, .letter), (0x962, 0x963, .mark), (0x966, 0x96F, .letter), (0x971, 0x980, .letter),
  (0x981, 0x981, .mark), (0x982, 0x983, .spacing), (0x985, 0x98C, .letter),
  (0x98F, 0x990, .letter), (0x993, 0x9A8, .letter), (0x9AA, 0x9B0, .letter),
  (0x9B2, 0x9B2, .letter), (0x9B6, 0x9B9, .letter), (0x9BC, 0x9BC, .mark), (0x9BD, 0x9BD, .letter),
  (0x9BE, 0x9C0, .spacing)]

/-- Rows from `U+09C1` to `U+0EA5`. -/
def labelRowsFrom9C1 : List (Nat × Nat × CharKind) := [
  (0x9C1, 0x9C4, .mark), (0x9C7, 0x9C8, .spacing), (0x9CB, 0x9CC, .spacing), (0x9CD, 0x9CD, .mark),
  (0x9CE, 0x9CE, .letter), (0x9D7, 0x9D7, .spacing), (0x9E0, 0x9E1, .letter),
  (0x9E2, 0x9E3, .mark), (0x9E6, 0x9F1, .letter), (0x9FC, 0x9FC, .letter), (0x9FE, 0x9FE, .mark),
  (0xA01, 0xA02, .mark), (0xA03, 0xA03, .spacing), (0xA05, 0xA0A, .letter),
  (0xA0F, 0xA10, .letter), (0xA13, 0xA28, .letter), (0xA2A, 0xA30, .letter),
  (0xA32, 0xA32, .letter), (0xA35, 0xA35, .letter), (0xA38, 0xA39, .letter), (0xA3C, 0xA3C, .mark),
  (0xA3E, 0xA40, .spacing), (0xA41, 0xA42, .mark), (0xA47, 0xA48, .mark), (0xA4B, 0xA4D, .mark),
  (0xA51, 0xA51, .mark), (0xA5C, 0xA5C, .letter), (0xA66, 0xA6F, .letter), (0xA70, 0xA71, .mark),
  (0xA72, 0xA74, .letter), (0xA75, 0xA75, .mark), (0xA81, 0xA82, .mark), (0xA83, 0xA83, .spacing),
  (0xA85, 0xA8D, .letter), (0xA8F, 0xA91, .letter), (0xA93, 0xAA8, .letter),
  (0xAAA, 0xAB0, .letter), (0xAB2, 0xAB3, .letter), (0xAB5, 0xAB9, .letter), (0xABC, 0xABC, .mark),
  (0xABD, 0xABD, .letter), (0xABE, 0xAC0, .spacing), (0xAC1, 0xAC5, .mark), (0xAC7, 0xAC8, .mark),
  (0xAC9, 0xAC9, .spacing), (0xACB, 0xACC, .spacing), (0xACD, 0xACD, .mark),
  (0xAD0, 0xAD0, .letter), (0xAE0, 0xAE1, .letter), (0xAE2, 0xAE3, .mark), (0xAE6, 0xAEF, .letter),
  (0xAF9, 0xAF9, .letter), (0xAFA, 0xAFF, .mark), (0xB01, 0xB01, .mark), (0xB02, 0xB03, .spacing),
  (0xB05, 0xB0C, .letter), (0xB0F, 0xB10, .letter), (0xB13, 0xB28, .letter),
  (0xB2A, 0xB30, .letter), (0xB32, 0xB33, .letter), (0xB35, 0xB39, .letter), (0xB3C, 0xB3C, .mark),
  (0xB3D, 0xB3D, .letter), (0xB3E, 0xB3E, .spacing), (0xB3F, 0xB3F, .mark),
  (0xB40, 0xB40, .spacing), (0xB41, 0xB44, .mark), (0xB47, 0xB48, .spacing),
  (0xB4B, 0xB4C, .spacing), (0xB4D, 0xB4D, .mark), (0xB55, 0xB56, .mark), (0xB57, 0xB57, .spacing),
  (0xB5F, 0xB61, .letter), (0xB62, 0xB63, .mark), (0xB66, 0xB6F, .letter), (0xB71, 0xB71, .letter),
  (0xB82, 0xB82, .mark), (0xB83, 0xB83, .letter), (0xB85, 0xB8A, .letter), (0xB8E, 0xB90, .letter),
  (0xB92, 0xB95, .letter), (0xB99, 0xB9A, .letter), (0xB9C, 0xB9C, .letter),
  (0xB9E, 0xB9F, .letter), (0xBA3, 0xBA4, .letter), (0xBA8, 0xBAA, .letter),
  (0xBAE, 0xBB9, .letter), (0xBBE, 0xBBF, .spacing), (0xBC0, 0xBC0, .mark),
  (0xBC1, 0xBC2, .spacing), (0xBC6, 0xBC8, .spacing), (0xBCA, 0xBCC, .spacing),
  (0xBCD, 0xBCD, .mark), (0xBD0, 0xBD0, .letter), (0xBD7, 0xBD7, .spacing),
  (0xBE6, 0xBEF, .letter), (0xC00, 0xC00, .mark), (0xC01, 0xC03, .spacing), (0xC04, 0xC04, .mark),
  (0xC05, 0xC0C, .letter), (0xC0E, 0xC10, .letter), (0xC12, 0xC28, .letter),
  (0xC2A, 0xC39, .letter), (0xC3C, 0xC3C, .mark), (0xC3D, 0xC3D, .letter), (0xC3E, 0xC40, .mark),
  (0xC41, 0xC44, .spacing), (0xC46, 0xC48, .mark), (0xC4A, 0xC4D, .mark), (0xC55, 0xC56, .mark),
  (0xC58, 0xC5A, .letter), (0xC5D, 0xC5D, .letter), (0xC60, 0xC61, .letter), (0xC62, 0xC63, .mark),
  (0xC66, 0xC6F, .letter), (0xC80, 0xC80, .letter), (0xC81, 0xC81, .mark),
  (0xC82, 0xC83, .spacing), (0xC85, 0xC8C, .letter), (0xC8E, 0xC90, .letter),
  (0xC92, 0xCA8, .letter), (0xCAA, 0xCB3, .letter), (0xCB5, 0xCB9, .letter), (0xCBC, 0xCBC, .mark),
  (0xCBD, 0xCBD, .letter), (0xCBE, 0xCC4, .spacing), (0xCC6, 0xCC8, .spacing),
  (0xCCA, 0xCCB, .spacing), (0xCCC, 0xCCD, .mark), (0xCD5, 0xCD6, .spacing),
  (0xCDD, 0xCDE, .letter), (0xCE0, 0xCE1, .letter), (0xCE2, 0xCE3, .mark), (0xCE6, 0xCEF, .letter),
  (0xCF1, 0xCF2, .letter), (0xD00, 0xD01, .mark), (0xD02, 0xD03, .spacing),
  (0xD04, 0xD0C, .letter), (0xD0E, 0xD10, .letter), (0xD12, 0xD3A, .letter), (0xD3B, 0xD3C, .mark),
  (0xD3D, 0xD3D, .letter), (0xD3E, 0xD40, .spacing), (0xD41, 0xD44, .mark),
  (0xD46, 0xD48, .spacing), (0xD4A, 0xD4C, .spacing), (0xD4D, 0xD4D, .mark),
  (0xD4E, 0xD4E, .letter), (0xD54, 0xD56, .letter), (0xD57, 0xD57, .spacing),
  (0xD5F, 0xD61, .letter), (0xD62, 0xD63, .mark), (0xD66, 0xD6F, .letter), (0xD7A, 0xD7F, .letter),
  (0xD81, 0xD81, .mark), (0xD82, 0xD83, .spacing), (0xD85, 0xD96, .letter),
  (0xD9A, 0xDB1, .letter), (0xDB3, 0xDBB, .letter), (0xDBD, 0xDBD, .letter),
  (0xDC0, 0xDC6, .letter), (0xDCA, 0xDCA, .mark), (0xDCF, 0xDD1, .spacing), (0xDD2, 0xDD4, .mark),
  (0xDD6, 0xDD6, .mark), (0xDD8, 0xDDF, .spacing), (0xDE6, 0xDEF, .letter),
  (0xDF2, 0xDF3, .spacing), (0xE01, 0xE30, .letter), (0xE31, 0xE31, .mark),
  (0xE32, 0xE32, .letter), (0xE34, 0xE3A, .mark), (0xE40, 0xE46, .letter), (0xE47, 0xE4E, .mark),
  (0xE50, 0xE59, .letter), (0xE81, 0xE82, .letter), (0xE84, 0xE84, .letter),
  (0xE86, 0xE8A, .letter), (0xE8C, 0xEA3, .letter), (0xEA5, 0xEA5, .letter)]

/-- Rows from `U+0EA7` to `U+1B59`. -/
def labelRowsFromEA7 : List (Nat × Nat × CharKind) := [
  (0xEA7, 0xEB0, .letter), (0xEB1, 0xEB1, .mark), (0xEB2, 0xEB2, .letter), (0xEB4, 0xEBC, .mark),
  (0xEBD, 0xEBD, .letter), (0xEC0, 0xEC4, .letter), (0xEC6, 0xEC6, .letter), (0xEC8, 0xECD, .mark),
  (0xED0, 0xED9, .letter), (0xEDE, 0xEDF, .letter), (0xF00, 0xF00, .letter),
  (0xF0B, 0xF0B, .letter), (0xF18, 0xF19, .mark), (0xF20, 0xF29, .letter), (0xF35, 0xF35, .mark),
  (0xF37, 0xF37, .mark), (0xF39, 0xF39, .mark), (0xF3E, 0xF3F, .spacing), (0xF40, 0xF42, .letter),
  (0xF44, 0xF47, .letter), (0xF49, 0xF4C, .letter), (0xF4E, 0xF51, .letter),
  (0xF53, 0xF56, .letter), (0xF58, 0xF5B, .letter), (0xF5D, 0xF68, .letter),
  (0xF6A, 0xF6C, .letter), (0xF71, 0xF72, .mark), (0xF74, 0xF74, .mark), (0xF7A, 0xF7E, .mark),
  (0xF7F, 0xF7F, .spacing), (0xF80, 0xF80, .mark), (0xF82, 0xF84, .mark), (0xF86, 0xF87, .mark),
  (0xF88, 0xF8C, .letter), (0xF8D, 0xF92, .mark), (0xF94, 0xF97, .mark), (0xF99, 0xF9C, .mark),
  (0xF9E, 0xFA1, .mark), (0xFA3, 0xFA6, .mark), (0xFA8, 0xFAB, .mark), (0xFAD, 0xFB8, .mark),
  (0xFBA, 0xFBC, .mark), (0xFC6, 0xFC6, .mark), (0x1000, 0x102A, .letter),
  (0x102B, 0x102C, .spacing), (0x102D, 0x1030, .mark), (0x1031, 0x1031, .spacing),
  (0x1032, 0x1037, .mark), (0x1038, 0x1038, .spacing), (0x1039, 0x103A, .mark),
  (0x103B, 0x103C, .spacing), (0x103D, 0x103E, .mark), (0x103F, 0x1049, .letter),
  (0x1050, 0x1055, .letter), (0x1056, 0x1057, .spacing), (0x1058, 0x1059, .mark),
  (0x105A, 0x105D, .letter), (0x105E, 0x1060, .mark), (0x1061, 0x1061, .letter),
  (0x1062, 0x1064, .spacing), (0x1065, 0x1066, .letter), (0x1067, 0x106D, .spacing),
  (0x106E, 0x1070, .letter), (0x1071, 0x1074, .mark), (0x1075, 0x1081, .letter),
  (0x1082, 0x1082, .mark), (0x1083, 0x1084, .spacing), (0x1085, 0x1086, .mark),
  (0x1087, 0x108C, .spacing), (0x108D, 0x108D, .mark), (0x108E, 0x108E, .letter),
  (0x108F, 0x108F, .spacing), (0x1090, 0x1099, .letter), (0x109A, 0x109C, .spacing),
  (0x109D, 0x109D, .mark), (0x10D0, 0x10FA, .letter), (0x10FD, 0x10FF, .letter),
  (0x1200, 0x1248, .letter), (0x124A, 0x124D, .letter), (0x1250, 0x1256, .letter),
  (0x1258, 0x1258, .letter), (0x125A, 0x125D, .letter), (0x1260, 0x1288, .letter),
  (0x128A, 0x128D, .letter), (0x1290, 0x12B0, .letter), (0x12B2, 0x12B5, .letter),
  (0x12B8, 0x12BE, .letter), (0x12C0, 0x12C0, .letter), (0x12C2, 0x12C5, .letter),
  (0x12C8, 0x12D6, .letter), (0x12D8, 0x1310, .letter), (0x1312, 0x1315, .letter),
  (0x1318, 0x135A, .letter), (0x135D, 0x135F, .mark), (0x1380, 0x138F, .letter),
  (0x13A0, 0x13F5, .letter), (0x1401, 0x166C, .letter), (0x166F, 0x167F, .letter),
  (0x1681, 0x169A, .letter), (0x16A0, 0x16EA, .letter), (0x16F1, 0x16F8, .letter),
  (0x1700, 0x1711, .letter), (0x1712, 0x1714, .mark), (0x1715, 0x1715, .spacing),
  (0x171F, 0x1731, .letter), (0x1732, 0x1733, .mark), (0x1734, 0x1734, .spacing),
  (0x1740, 0x1751, .letter), (0x1752, 0x1753, .mark), (0x1760, 0x176C, .letter),
  (0x176E, 0x1770, .letter), (0x1772, 0x1773, .mark), (0x1780, 0x17B3, .letter),
  (0x17B6, 0x17B6, .spacing), (0x17B7, 0x17BD, .mark), (0x17BE, 0x17C5, .spacing),
  (0x17C6, 0x17C6, .mark), (0x17C7, 0x17C8, .spacing), (0x17C9, 0x17D3, .mark),
  (0x17D7, 0x17D7, .letter), (0x17DC, 0x17DC, .letter), (0x17DD, 0x17DD, .mark),
  (0x17E0, 0x17E9, .letter), (0x1810, 0x1819, .letter), (0x1820, 0x1878, .letter),
  (0x1880, 0x1884, .letter), (0x1885, 0x1886, .mark), (0x1887, 0x18A8, .letter),
  (0x18A9, 0x18A9, .mark), (0x18AA, 0x18AA, .letter), (0x18B0, 0x18F5, .letter),
  (0x1900, 0x191E, .letter), (0x1920, 0x1922, .mark), (0x1923, 0x1926, .spacing),
  (0x1927, 0x1928, .mark), (0x1929, 0x192B, .spacing), (0x1930, 0x1931, .spacing),
  (0x1932, 0x1932, .mark), (0x1933, 0x1938, .spacing), (0x1939, 0x193B, .mark),
  (0x1946, 0x196D, .letter), (0x1970, 0x1974, .letter), (0x1980, 0x19AB, .letter),
  (0x19B0, 0x19C9, .letter), (0x19D0, 0x19D9, .letter), (0x1A00, 0x1A16, .letter),
  (0x1A17, 0x1A18, .mark), (0x1A19, 0x1A1A, .spacing), (0x1A1B, 0x1A1B, .mark),
  (0x1A20, 0x1A54, .letter), (0x1A55, 0x1A55, .spacing), (0x1A56, 0x1A56, .mark),
  (0x1A57, 0x1A57, .spacing), (0x1A58, 0x1A5E, .mark), (0x1A60, 0x1A60, .mark),
  (0x1A61, 0x1A61, .spacing), (0x1A62, 0x1A62, .mark), (0x1A63, 0x1A64, .spacing),
  (0x1A65, 0x1A6C, .mark), (0x1A6D, 0x1A72, .spacing), (0x1A73, 0x1A7C, .mark),
  (0x1A7F, 0x1A7F, .mark), (0x1A80, 0x1A89, .letter), (0x1A90, 0x1A99, .letter),
  (0x1AA7, 0x1AA7, .letter), (0x1AB0, 0x1ABD, .mark), (0x1ABF, 0x1ACE, .mark),
  (0x1B00, 0x1B03, .mark), (0x1B04, 0x1B04, .spacing), (0x1B05, 0x1B33, .letter),
  (0x1B34, 0x1B34, .mark), (0x1B35, 0x1B35, .spacing), (0x1B36, 0x1B3A, .mark),
  (0x1B3B, 0x1B3B, .spacing), (0x1B3C, 0x1B3C, .mark), (0x1B3D, 0x1B41, .spacing),
  (0x1B42, 0x1B42, .mark), (0x1B43, 0x1B44, .spacing), (0x1B45, 0x1B4C, .letter),
  (0x1B50, 0x1B59, .letter)]

/-- Rows from `U+1B6B` to `U+1F76`. -/
def labelRowsFrom1B6B : List (Nat × Nat × CharKind) := [
  (0x1B6B, 0x1B73, .mark), (0x1B80, 0x1B81, .mark), (0x1B82, 0x1B82, .spacing),
  (0x1B83, 0x1BA0, .letter), (0x1BA1, 0x1BA1, .spacing), (0x1BA2, 0x1BA5, .mark),
  (0x1BA6, 0x1BA7, .spacing), (0x1BA8, 0x1BA9, .mark), (0x1BAA, 0x1BAA, .spacing),
  (0x1BAB, 0x1BAD, .mark), (0x1BAE, 0x1BE5, .letter), (0x1BE6, 0x1BE6, .mark),
  (0x1BE7, 0x1BE7, .spacing), (0x1BE8, 0x1BE9, .mark), (0x1BEA, 0x1BEC, .spacing),
  (0x1BED, 0x1BED, .mark), (0x1BEE, 0x1BEE, .spacing), (0x1BEF, 0x1BF1, .mark),
  (0x1BF2, 0x1BF3, .spacing), (0x1C00, 0x1C23, .letter), (0x1C24, 0x1C2B, .spacing),
  (0x1C2C, 0x1C33, .mark), (0x1C34, 0x1C35, .spacing), (0x1C36, 0x1C37, .mark),
  (0x1C40, 0x1C49, .letter), (0x1C4D, 0x1C7D, .letter), (0x1CD0, 0x1CD2, .mark),
  (0x1CD4, 0x1CE0, .mark), (0x1CE1, 0x1CE1, .spacing), (0x1CE2, 0x1CE8, .mark),
  (0x1CE9, 0x1CEC, .letter), (0x1CED, 0x1CED, .mark), (0x1CEE, 0x1CF3, .letter),
  (0x1CF4, 0x1CF4, .mark), (0x1CF5, 0x1CF6, .letter), (0x1CF7, 0x1CF7, .spacing),
  (0x1CF8, 0x1CF9, .mark), (0x1CFA, 0x1CFA, .letter), (0x1D00, 0x1D2B, .letter),
  (0x1D2F, 0x1D2F, .letter), (0x1D3B, 0x1D3B, .letter), (0x1D4E, 0x1D4E, .letter),
  (0x1D6B, 0x1D77, .letter), (0x1D79, 0x1D9A, .letter), (0x1DC0, 0x1DFF, .mark),
  (0x1E01, 0x1E01, .letter), (0x1E03, 0x1E03, .letter), (0x1E05, 0x1E05, .letter),
  (0x1E07, 0x1E07, .letter), (0x1E09, 0x1E09, .letter), (0x1E0B, 0x1E0B, .letter),
  (0x1E0D, 0x1E0D, .letter), (0x1E0F, 0x1E0F, .letter), (0x1E11, 0x1E11, .letter),
  (0x1E13, 0x1E13, .letter), (0x1E15, 0x1E15, .letter), (0x1E17, 0x1E17, .letter),
  (0x1E19, 0x1E19, .letter), (0x1E1B, 0x1E1B, .letter), (0x1E1D, 0x1E1D, .letter),
  (0x1E1F, 0x1E1F, .letter), (0x1E21, 0x1E21, .letter), (0x1E23, 0x1E23, .letter),
  (0x1E25, 0x1E25, .letter), (0x1E27, 0x1E27, .letter), (0x1E29, 0x1E29, .letter),
  (0x1E2B, 0x1E2B, .letter), (0x1E2D, 0x1E2D, .letter), (0x1E2F, 0x1E2F, .letter),
  (0x1E31, 0x1E31, .letter), (0x1E33, 0x1E33, .letter), (0x1E35, 0x1E35, .letter),
  (0x1E37, 0x1E37, .letter), (0x1E39, 0x1E39, .letter), (0x1E3B, 0x1E3B, .letter),
  (0x1E3D, 0x1E3D, .letter), (0x1E3F, 0x1E3F, .letter), (0x1E41, 0x1E41, .letter),
  (0x1E43, 0x1E43, .letter), (0x1E45, 0x1E45, .letter), (0x1E47, 0x1E47, .letter),
  (0x1E49, 0x1E49, .letter), (0x1E4B, 0x1E4B, .letter), (0x1E4D, 0x1E4D, .letter),
  (0x1E4F, 0x1E4F, .letter), (0x1E51, 0x1E51, .letter), (0x1E53, 0x1E53, .letter),
  (0x1E55, 0x1E55, .letter), (0x1E57, 0x1E57, .letter), (0x1E59, 0x1E59, .letter),
  (0x1E5B, 0x1E5B, .letter), (0x1E5D, 0x1E5D, .letter), (0x1E5F, 0x1E5F, .letter),
  (0x1E61, 0x1E61, .letter), (0x1E63, 0x1E63, .letter), (0x1E65, 0x1E65, .letter),
  (0x1E67, 0x1E67, .letter), (0x1E69, 0x1E69, .letter), (0x1E6B, 0x1E6B, .letter),
  (0x1E6D, 0x1E6D, .letter), (0x1E6F, 0x1E6F, .letter), (0x1E71, 0x1E71, .letter),
  (0x1E73, 0x1E73, .letter), (0x1E75, 0x1E75, .letter), (0x1E77, 0x1E77, .letter),
  (0x1E79, 0x1E79, .letter), (0x1E7B, 0x1E7B, .letter), (0x1E7D, 0x1E7D, .letter),
  (0x1E7F, 0x1E7F, .letter), (0x1E81, 0x1E81, .letter), (0x1E83, 0x1E83, .letter),
  (0x1E85, 0x1E85, .letter), (0x1E87, 0x1E87, .letter), (0x1E89, 0x1E89, .letter),
  (0x1E8B, 0x1E8B, .letter), (0x1E8D, 0x1E8D, .letter), (0x1E8F, 0x1E8F, .letter),
  (0x1E91, 0x1E91, .letter), (0x1E93, 0x1E93, .letter), (0x1E95, 0x1E99, .letter),
  (0x1E9C, 0x1E9D, .letter), (0x1E9F, 0x1E9F, .letter), (0x1EA1, 0x1EA1, .letter),
  (0x1EA3, 0x1EA3, .letter), (0x1EA5, 0x1EA5, .letter), (0x1EA7, 0x1EA7, .letter),
  (0x1EA9, 0x1EA9, .letter), (0x1EAB, 0x1EAB, .letter), (0x1EAD, 0x1EAD, .letter),
  (0x1EAF, 0x1EAF, .letter), (0x1EB1, 0x1EB1, .letter), (0x1EB3, 0x1EB3, .letter),
  (0x1EB5, 0x1EB5, .letter), (0x1EB7, 0x1EB7, .letter), (0x1EB9, 0x1EB9, .letter),
  (0x1EBB, 0x1EBB, .letter), (0x1EBD, 0x1EBD, .letter), (0x1EBF, 0x1EBF, .letter),
  (0x1EC1, 0x1EC1, .letter), (0x1EC3, 0x1EC3, .letter), (0x1EC5, 0x1EC5, .letter),
  (0x1EC7, 0x1EC7, .letter), (0x1EC9, 0x1EC9, .letter), (0x1ECB, 0x1ECB, .letter),
  (0x1ECD, 0x1ECD, .letter), (0x1ECF, 0x1ECF, .letter), (0x1ED1, 0x1ED1, .letter),
  (0x1ED3, 0x1ED3, .letter), (0x1ED5, 0x1ED5, .letter), (0x1ED7, 0x1ED7, .letter),
  (0x1ED9, 0x1ED9, .letter), (0x1EDB, 0x1EDB, .letter), (0x1EDD, 0x1EDD, .letter),
  (0x1EDF, 0x1EDF, .letter), (0x1EE1, 0x1EE1, .letter), (0x1EE3, 0x1EE3, .letter),
  (0x1EE5, 0x1EE5, .letter), (0x1EE7, 0x1EE7, .letter), (0x1EE9, 0x1EE9, .letter),
  (0x1EEB, 0x1EEB, .letter), (0x1EED, 0x1EED, .letter), (0x1EEF, 0x1EEF, .letter),
  (0x1EF1, 0x1EF1, .letter), (0x1EF3, 0x1EF3, .letter), (0x1EF5, 0x1EF5, .letter),
  (0x1EF7, 0x1EF7, .letter), (0x1EF9, 0x1EF9, .letter), (0x1EFB, 0x1EFB, .letter),
  (0x1EFD, 0x1EFD, .letter), (0x1EFF, 0x1F07, .letter), (0x1F10, 0x1F15, .letter),
  (0x1F20, 0x1F27, .letter), (0x1F30, 0x1F37, .letter), (0x1F40, 0x1F45, .letter),
  (0x1F50, 0x1F57, .letter), (0x1F60, 0x1F67, .letter), (0x1F70, 0x1F70, .letter),
  (0x1F72, 0x1F72, .letter), (0x1F74, 0x1F74, .letter), (0x1F76, 0x1F76, .letter)]

/-- Rows from `U+1F78` to `U+A757`. -/
def labelRowsFrom1F78 : List (Nat × Nat × CharKind) := [
  (0x1F78, 0x1F78, .letter), (0x1F7A, 0x1F7A, .letter), (0x1F7C, 0x1F7C, .letter),
  (0x1FB0, 0x1FB1, .letter), (0x1FB6, 0x1FB6, .letter), (0x1FC6, 0x1FC6, .letter),
  (0x1FD0, 0x1FD2, .letter), (0x1FD6, 0x1FD7, .letter), (0x1FE0, 0x1FE2, .letter),
  (0x1FE4, 0x1FE7, .letter), (0x1FF6, 0x1FF6, .letter), (0x200C, 0x200D, .joiner),
  (0x214E, 0x214E, .letter), (0x2184, 0x2184, .letter), (0x2C30, 0x2C5F, .letter),
  (0x2C61, 0x2C61, .letter), (0x2C65, 0x2C66, .letter), (0x2C68, 0x2C68, .letter),
  (0x2C6A, 0x2C6A, .letter), (0x2C6C, 0x2C6C, .letter), (0x2C71, 0x2C71, .letter),
  (0x2C73, 0x2C74, .letter), (0x2C76, 0x2C7B, .letter), (0x2C81, 0x2C81, .letter),
  (0x2C83, 0x2C83, .letter), (0x2C85, 0x2C85, .letter), (0x2C87, 0x2C87, .letter),
  (0x2C89, 0x2C89, .letter), (0x2C8B, 0x2C8B, .letter), (0x2C8D, 0x2C8D, .letter),
  (0x2C8F, 0x2C8F, .letter), (0x2C91, 0x2C91, .letter), (0x2C93, 0x2C93, .letter),
  (0x2C95, 0x2C95, .letter), (0x2C97, 0x2C97, .letter), (0x2C99, 0x2C99, .letter),
  (0x2C9B, 0x2C9B, .letter), (0x2C9D, 0x2C9D, .letter), (0x2C9F, 0x2C9F, .letter),
  (0x2CA1, 0x2CA1, .letter), (0x2CA3, 0x2CA3, .letter), (0x2CA5, 0x2CA5, .letter),
  (0x2CA7, 0x2CA7, .letter), (0x2CA9, 0x2CA9, .letter), (0x2CAB, 0x2CAB, .letter),
  (0x2CAD, 0x2CAD, .letter), (0x2CAF, 0x2CAF, .letter), (0x2CB1, 0x2CB1, .letter),
  (0x2CB3, 0x2CB3, .letter), (0x2CB5, 0x2CB5, .letter), (0x2CB7, 0x2CB7, .letter),
  (0x2CB9, 0x2CB9, .letter), (0x2CBB, 0x2CBB, .letter), (0x2CBD, 0x2CBD, .letter),
  (0x2CBF, 0x2CBF, .letter), (0x2CC1, 0x2CC1, .letter), (0x2CC3, 0x2CC3, .letter),
  (0x2CC5, 0x2CC5, .letter), (0x2CC7, 0x2CC7, .letter), (0x2CC9, 0x2CC9, .letter),
  (0x2CCB, 0x2CCB, .letter), (0x2CCD, 0x2CCD, .letter), (0x2CCF, 0x2CCF, .letter),
  (0x2CD1, 0x2CD1, .letter), (0x2CD3, 0x2CD3, .letter), (0x2CD5, 0x2CD5, .letter),
  (0x2CD7, 0x2CD7, .letter), (0x2CD9, 0x2CD9, .letter), (0x2CDB, 0x2CDB, .letter),
  (0x2CDD, 0x2CDD, .letter), (0x2CDF, 0x2CDF, .letter), (0x2CE1, 0x2CE1, .letter),
  (0x2CE3, 0x2CE4, .letter), (0x2CEC, 0x2CEC, .letter), (0x2CEE, 0x2CEE, .letter),
  (0x2CEF, 0x2CF1, .mark), (0x2CF3, 0x2CF3, .letter), (0x2D00, 0x2D25, .letter),
  (0x2D27, 0x2D27, .letter), (0x2D2D, 0x2D2D, .letter), (0x2D30, 0x2D67, .letter),
  (0x2D7F, 0x2D7F, .mark), (0x2D80, 0x2D96, .letter), (0x2DA0, 0x2DA6, .letter),
  (0x2DA8, 0x2DAE, .letter), (0x2DB0, 0x2DB6, .letter), (0x2DB8, 0x2DBE, .letter),
  (0x2DC0, 0x2DC6, .letter), (0x2DC8, 0x2DCE, .letter), (0x2DD0, 0x2DD6, .letter),
  (0x2DD8, 0x2DDE, .letter), (0x2DE0, 0x2DFF, .mark), (0x2E2F, 0x2E2F, .neutral),
  (0x3005, 0x3007, .letter), (0x302A, 0x302D, .mark), (0x303C, 0x303C, .letter),
  (0x3041, 0x3096, .letter), (0x3099, 0x309A, .mark), (0x309D, 0x309E, .letter),
  (0x30A1, 0x30FA, .letter), (0x30FB, 0x30FB, .neutral), (0x30FC, 0x30FE, .letter),
  (0x3105, 0x312F, .letter), (0x31A0, 0x31BF, .letter), (0x31F0, 0x31FF, .letter),
  (0x3400, 0x4DBF, .letter), (0x4E00, 0xA48C, .letter), (0xA4D0, 0xA4FD, .letter),
  (0xA500, 0xA60C, .letter), (0xA610, 0xA62B, .letter), (0xA641, 0xA641, .letter),
  (0xA643, 0xA643, .letter), (0xA645, 0xA645, .letter), (0xA647, 0xA647, .letter),
  (0xA649, 0xA649, .letter), (0xA64B, 0xA64B, .letter), (0xA64D, 0xA64D, .letter),
  (0xA64F, 0xA64F, .letter), (0xA651, 0xA651, .letter), (0xA653, 0xA653, .letter),
  (0xA655, 0xA655, .letter), (0xA657, 0xA657, .letter), (0xA659, 0xA659, .letter),
  (0xA65B, 0xA65B, .letter), (0xA65D, 0xA65D, .letter), (0xA65F, 0xA65F, .letter),
  (0xA661, 0xA661, .letter), (0xA663, 0xA663, .letter), (0xA665, 0xA665, .letter),
  (0xA667, 0xA667, .letter), (0xA669, 0xA669, .letter), (0xA66B, 0xA66B, .letter),
  (0xA66D, 0xA66E, .letter), (0xA66F, 0xA66F, .mark), (0xA674, 0xA67D, .mark),
  (0xA67F, 0xA67F, .neutral), (0xA681, 0xA681, .letter), (0xA683, 0xA683, .letter),
  (0xA685, 0xA685, .letter), (0xA687, 0xA687, .letter), (0xA689, 0xA689, .letter),
  (0xA68B, 0xA68B, .letter), (0xA68D, 0xA68D, .letter), (0xA68F, 0xA68F, .letter),
  (0xA691, 0xA691, .letter), (0xA693, 0xA693, .letter), (0xA695, 0xA695, .letter),
  (0xA697, 0xA697, .letter), (0xA699, 0xA699, .letter), (0xA69B, 0xA69B, .letter),
  (0xA69E, 0xA69F, .mark), (0xA6A0, 0xA6E5, .letter), (0xA6F0, 0xA6F1, .mark),
  (0xA717, 0xA71F, .neutral), (0xA723, 0xA723, .letter), (0xA725, 0xA725, .letter),
  (0xA727, 0xA727, .letter), (0xA729, 0xA729, .letter), (0xA72B, 0xA72B, .letter),
  (0xA72D, 0xA72D, .letter), (0xA72F, 0xA731, .letter), (0xA733, 0xA733, .letter),
  (0xA735, 0xA735, .letter), (0xA737, 0xA737, .letter), (0xA739, 0xA739, .letter),
  (0xA73B, 0xA73B, .letter), (0xA73D, 0xA73D, .letter), (0xA73F, 0xA73F, .letter),
  (0xA741, 0xA741, .letter), (0xA743, 0xA743, .letter), (0xA745, 0xA745, .letter),
  (0xA747, 0xA747, .letter), (0xA749, 0xA749, .letter), (0xA74B, 0xA74B, .letter),
  (0xA74D, 0xA74D, .letter), (0xA74F, 0xA74F, .letter), (0xA751, 0xA751, .letter),
  (0xA753, 0xA753, .letter), (0xA755, 0xA755, .letter), (0xA757, 0xA757, .letter)]

/-- Rows from `U+A759` to `U+105A1`. -/
def labelRowsFromA759 : List (Nat × Nat × CharKind) := [
  (0xA759, 0xA759, .letter), (0xA75B, 0xA75B, .letter), (0xA75D, 0xA75D, .letter),
  (0xA75F, 0xA75F, .letter), (0xA761, 0xA761, .letter), (0xA763, 0xA763, .letter),
  (0xA765, 0xA765, .letter), (0xA767, 0xA767, .letter), (0xA769, 0xA769, .letter),
  (0xA76B, 0xA76B, .letter), (0xA76D, 0xA76D, .letter), (0xA76F, 0xA76F, .letter),
  (0xA771, 0xA778, .letter), (0xA77A, 0xA77A, .letter), (0xA77C, 0xA77C, .letter),
  (0xA77F, 0xA77F, .letter), (0xA781, 0xA781, .letter), (0xA783, 0xA783, .letter),
  (0xA785, 0xA785, .letter), (0xA787, 0xA787, .letter), (0xA788, 0xA788, .neutral),
  (0xA78C, 0xA78C, .letter), (0xA78E, 0xA78F, .letter), (0xA791, 0xA791, .letter),
  (0xA793, 0xA795, .letter), (0xA797, 0xA797, .letter), (0xA799, 0xA799, .letter),
  (0xA79B, 0xA79B, .letter), (0xA79D, 0xA79D, .letter), (0xA79F, 0xA79F, .letter),
  (0xA7A1, 0xA7A1, .letter), (0xA7A3, 0xA7A3, .letter), (0xA7A5, 0xA7A5, .letter),
  (0xA7A7, 0xA7A7, .letter), (0xA7A9, 0xA7A9, .letter), (0xA7AF, 0xA7AF, .letter),
  (0xA7B5, 0xA7B5, .letter), (0xA7B7, 0xA7B7, .letter), (0xA7B9, 0xA7B9, .letter),
  (0xA7BB, 0xA7BB, .letter), (0xA7BD, 0xA7BD, .letter), (0xA7BF, 0xA7BF, .letter),
  (0xA7C1, 0xA7C1, .letter), (0xA7C3, 0xA7C3, .letter), (0xA7C8, 0xA7C8, .letter),
  (0xA7CA, 0xA7CA, .letter), (0xA7D1, 0xA7D1, .letter), (0xA7D3, 0xA7D3, .letter),
  (0xA7D5, 0xA7D5, .letter), (0xA7D7, 0xA7D7, .letter), (0xA7D9, 0xA7D9, .letter),
  (0xA7F6, 0xA7F7, .letter), (0xA7FA, 0xA801, .letter), (0xA802, 0xA802, .mark),
  (0xA803, 0xA805, .letter), (0xA806, 0xA806, .mark), (0xA807, 0xA80A, .letter),
  (0xA80B, 0xA80B, .mark), (0xA80C, 0xA822, .letter), (0xA823, 0xA824, .spacing),
  (0xA825, 0xA826, .mark), (0xA827, 0xA827, .spacing), (0xA82C, 0xA82C, .mark),
  (0xA840, 0xA873, .letter), (0xA880, 0xA881, .spacing), (0xA882, 0xA8B3, .letter),
  (0xA8B4, 0xA8C3, .spacing), (0xA8C4, 0xA8C5, .mark), (0xA8D0, 0xA8D9, .letter),
  (0xA8E0, 0xA8F1, .mark), (0xA8F2, 0xA8F7, .letter), (0xA8FB, 0xA8FB, .letter),
  (0xA8FD, 0xA8FE, .letter), (0xA8FF, 0xA8FF, .mark), (0xA900, 0xA925, .letter),
  (0xA926, 0xA92D, .mark), (0xA930, 0xA946, .letter), (0xA947, 0xA951, .mark),
  (0xA952, 0xA953, .spacing), (0xA980, 0xA982, .mark), (0xA983, 0xA983, .spacing),
  (0xA984, 0xA9B2, .letter), (0xA9B3, 0xA9B3, .mark), (0xA9B4, 0xA9B5, .spacing),
  (0xA9B6, 0xA9B9, .mark), (0xA9BA, 0xA9BB, .spacing), (0xA9BC, 0xA9BD, .mark),
  (0xA9BE, 0xA9C0, .spacing), (0xA9CF, 0xA9D9, .letter), (0xA9E0, 0xA9E4, .letter),
  (0xA9E5, 0xA9E5, .mark), (0xA9E6, 0xA9FE, .letter), (0xAA00, 0xAA28, .letter),
  (0xAA29, 0xAA2E, .mark), (0xAA2F, 0xAA30, .spacing), (0xAA31, 0xAA32, .mark),
  (0xAA33, 0xAA34, .spacing), (0xAA35, 0xAA36, .mark), (0xAA40, 0xAA42, .letter),
  (0xAA43, 0xAA43, .mark), (0xAA44, 0xAA4B, .letter), (0xAA4C, 0xAA4C, .mark),
  (0xAA4D, 0xAA4D, .spacing), (0xAA50, 0xAA59, .letter), (0xAA60, 0xAA76, .letter),
  (0xAA7A, 0xAA7A, .letter), (0xAA7B, 0xAA7B, .spacing), (0xAA7C, 0xAA7C, .mark),
  (0xAA7D, 0xAA7D, .spacing), (0xAA7E, 0xAAAF, .letter), (0xAAB0, 0xAAB0, .mark),
  (0xAAB1, 0xAAB1, .letter), (0xAAB2, 0xAAB4, .mark), (0xAAB5, 0xAAB6, .letter),
  (0xAAB7, 0xAAB8, .mark), (0xAAB9, 0xAABD, .letter), (0xAABE, 0xAABF, .mark),
  (0xAAC0, 0xAAC0, .letter), (0xAAC1, 0xAAC1, .mark), (0xAAC2, 0xAAC2, .letter),
  (0xAADB, 0xAADD, .letter), (0xAAE0, 0xAAEA, .letter), (0xAAEB, 0xAAEB, .spacing),
  (0xAAEC, 0xAAED, .mark), (0xAAEE, 0xAAEF, .spacing), (0xAAF2, 0xAAF4, .letter),
  (0xAAF5, 0xAAF5, .spacing), (0xAAF6, 0xAAF6, .mark), (0xAB01, 0xAB06, .letter),
  (0xAB09, 0xAB0E, .letter), (0xAB11, 0xAB16, .letter), (0xAB20, 0xAB26, .letter),
  (0xAB28, 0xAB2E, .letter), (0xAB30, 0xAB5A, .letter), (0xAB60, 0xAB68, .letter),
  (0xABC0, 0xABE2, .letter), (0xABE3, 0xABE4, .spacing), (0xABE5, 0xABE5, .mark),
  (0xABE6, 0xABE7, .spacing), (0xABE8, 0xABE8, .mark), (0xABE9, 0xABEA, .spacing),
  (0xABEC, 0xABEC, .spacing), (0xABED, 0xABED, .mark), (0xABF0, 0xABF9, .letter),
  (0xAC00, 0xD7A3, .letter), (0xFA0E, 0xFA0F, .letter), (0xFA11, 0xFA11, .letter),
  (0xFA13, 0xFA14, .letter), (0xFA1F, 0xFA1F, .letter), (0xFA21, 0xFA21, .letter),
  (0xFA23, 0xFA24, .letter), (0xFA27, 0xFA29, .letter), (0xFB1E, 0xFB1E, .mark),
  (0xFE20, 0xFE2F, .mark), (0xFE73, 0xFE73, .arabic), (0x10000, 0x1000B, .letter),
  (0x1000D, 0x10026, .letter), (0x10028, 0x1003A, .letter), (0x1003C, 0x1003D, .letter),
  (0x1003F, 0x1004D, .letter), (0x10050, 0x1005D, .letter), (0x10080, 0x100FA, .letter),
  (0x101FD, 0x101FD, .mark), (0x10280, 0x1029C, .letter), (0x102A0, 0x102D0, .letter),
  (0x102E0, 0x102E0, .mark), (0x10300, 0x1031F, .letter), (0x1032D, 0x10340, .letter),
  (0x10342, 0x10349, .letter), (0x10350, 0x10375, .letter), (0x10376, 0x1037A, .mark),
  (0x10380, 0x1039D, .letter), (0x103A0, 0x103C3, .letter), (0x103C8, 0x103CF, .letter),
  (0x10428, 0x1049D, .letter), (0x104A0, 0x104A9, .letter), (0x104D8, 0x104FB, .letter),
  (0x10500, 0x10527, .letter), (0x10530, 0x10563, .letter), (0x10597, 0x105A1, .letter)]

/-- Rows from `U+105A3` to `U+11659`. -/
def labelRowsFrom105A3 : List (Nat × Nat × CharKind) := [
  (0x105A3, 0x105B1, .letter), (0x105B3, 0x105B9, .letter), (0x105BB, 0x105BC, .letter),
  (0x10600, 0x10736, .letter), (0x10740, 0x10755, .letter), (0x10760, 0x10767, .letter),
  (0x10780, 0x10780, .letter), (0x10800, 0x10805, .right), (0x10808, 0x10808, .right),
  (0x1080A, 0x10835, .right), (0x10837, 0x10838, .right), (0x1083C, 0x1083C, .right),
  (0x1083F, 0x10855, .right), (0x10860, 0x10876, .right), (0x10880, 0x1089E, .right),
  (0x108E0, 0x108F2, .right), (0x108F4, 0x108F5, .right), (0x10900, 0x10915, .right),
  (0x10920, 0x10939, .right), (0x10980, 0x109B7, .right), (0x109BE, 0x109BF, .right),
  (0x10A00, 0x10A00, .right), (0x10A01, 0x10A03, .mark), (0x10A05, 0x10A06, .mark),
  (0x10A0C, 0x10A0F, .mark), (0x10A10, 0x10A13, .right), (0x10A15, 0x10A17, .right),
  (0x10A19, 0x10A35, .right), (0x10A38, 0x10A3A, .mark), (0x10A3F, 0x10A3F, .mark),
  (0x10A60, 0x10A7C, .right), (0x10A80, 0x10A9C, .right), (0x10AC0, 0x10AC7, .right),
  (0x10AC9, 0x10AE4, .right), (0x10AE5, 0x10AE6, .mark), (0x10B00, 0x10B35, .right),
  (0x10B40, 0x10B55, .right), (0x10B60, 0x10B72, .right), (0x10B80, 0x10B91, .right),
  (0x10C00, 0x10C48, .right), (0x10CC0, 0x10CF2, .right), (0x10D00, 0x10D23, .arabic),
  (0x10D24, 0x10D27, .mark), (0x10D30, 0x10D39, .arabicNumber), (0x10E80, 0x10EA9, .right),
  (0x10EAB, 0x10EAC, .mark), (0x10EB0, 0x10EB1, .right), (0x10F00, 0x10F1C, .right),
  (0x10F27, 0x10F27, .right), (0x10F30, 0x10F45, .arabic), (0x10F46, 0x10F50, .mark),
  (0x10F70, 0x10F81, .right), (0x10F82, 0x10F85, .mark), (0x10FB0, 0x10FC4, .right),
  (0x10FE0, 0x10FF6, .right), (0x11000, 0x11000, .spacing), (0x11001, 0x11001, .mark),
  (0x11002, 0x11002, .spacing), (0x11003, 0x11037, .letter), (0x11038, 0x11046, .mark),
  (0x11066, 0x1106F, .letter), (0x11070, 0x11070, .mark), (0x11071, 0x11072, .letter),
  (0x11073, 0x11074, .mark), (0x11075, 0x11075, .letter), (0x1107F, 0x11081, .mark),
  (0x11082, 0x11082, .spacing), (0x11083, 0x110AF, .letter), (0x110B0, 0x110B2, .spacing),
  (0x110B3, 0x110B6, .mark), (0x110B7, 0x110B8, .spacing), (0x110B9, 0x110BA, .mark),
  (0x110C2, 0x110C2, .mark), (0x110D0, 0x110E8, .letter), (0x110F0, 0x110F9, .letter),
  (0x11100, 0x11102, .mark), (0x11103, 0x11126, .letter), (0x11127, 0x1112B, .mark),
  (0x1112C, 0x1112C, .spacing), (0x1112D, 0x11134, .mark), (0x11136, 0x1113F, .letter),
  (0x11144, 0x11144, .letter), (0x11145, 0x11146, .spacing), (0x11147, 0x11147, .letter),
  (0x11150, 0x11172, .letter), (0x11173, 0x11173, .mark), (0x11176, 0x11176, .letter),
  (0x11180, 0x11181, .mark), (0x11182, 0x11182, .spacing), (0x11183, 0x111B2, .letter),
  (0x111B3, 0x111B5, .spacing), (0x111B6, 0x111BE, .mark), (0x111BF, 0x111C0, .spacing),
  (0x111C1, 0x111C4, .letter), (0x111C9, 0x111CC, .mark), (0x111CE, 0x111CE, .spacing),
  (0x111CF, 0x111CF, .mark), (0x111D0, 0x111DA, .letter), (0x111DC, 0x111DC, .letter),
  (0x11200, 0x11211, .letter), (0x11213, 0x1122B, .letter), (0x1122C, 0x1122E, .spacing),
  (0x1122F, 0x11231, .mark), (0x11232, 0x11233, .spacing), (0x11234, 0x11234, .mark),
  (0x11235, 0x11235, .spacing), (0x11236, 0x11237, .mark), (0x1123E, 0x1123E, .mark),
  (0x11280, 0x11286, .letter), (0x11288, 0x11288, .letter), (0x1128A, 0x1128D, .letter),
  (0x1128F, 0x1129D, .letter), (0x1129F, 0x112A8, .letter), (0x112B0, 0x112DE, .letter),
  (0x112DF, 0x112DF, .mark), (0x112E0, 0x112E2, .spacing), (0x112E3, 0x112EA, .mark),
  (0x112F0, 0x112F9, .letter), (0x11300, 0x11301, .mark), (0x11302, 0x11303, .spacing),
  (0x11305, 0x1130C, .letter), (0x1130F, 0x11310, .letter), (0x11313, 0x11328, .letter),
  (0x1132A, 0x11330, .letter), (0x11332, 0x11333, .letter), (0x11335, 0x11339, .letter),
  (0x1133B, 0x1133C, .mark), (0x1133D, 0x1133D, .letter), (0x1133E, 0x1133F, .spacing),
  (0x11340, 0x11340, .mark), (0x11341, 0x11344, .spacing), (0x11347, 0x11348, .spacing),
  (0x1134B, 0x1134D, .spacing), (0x11350, 0x11350, .letter), (0x11357, 0x11357, .spacing),
  (0x1135D, 0x11361, .letter), (0x11362, 0x11363, .spacing), (0x11366, 0x1136C, .mark),
  (0x11370, 0x11374, .mark), (0x11400, 0x11434, .letter), (0x11435, 0x11437, .spacing),
  (0x11438, 0x1143F, .mark), (0x11440, 0x11441, .spacing), (0x11442, 0x11444, .mark),
  (0x11445, 0x11445, .spacing), (0x11446, 0x11446, .mark), (0x11447, 0x1144A, .letter),
  (0x11450, 0x11459, .letter), (0x1145E, 0x1145E, .mark), (0x1145F, 0x11461, .letter),
  (0x11480, 0x114AF, .letter), (0x114B0, 0x114B2, .spacing), (0x114B3, 0x114B8, .mark),
  (0x114B9, 0x114B9, .spacing), (0x114BA, 0x114BA, .mark), (0x114BB, 0x114BE, .spacing),
  (0x114BF, 0x114C0, .mark), (0x114C1, 0x114C1, .spacing), (0x114C2, 0x114C3, .mark),
  (0x114C4, 0x114C5, .letter), (0x114C7, 0x114C7, .letter), (0x114D0, 0x114D9, .letter),
  (0x11580, 0x115AE, .letter), (0x115AF, 0x115B1, .spacing), (0x115B2, 0x115B5, .mark),
  (0x115B8, 0x115BB, .spacing), (0x115BC, 0x115BD, .mark), (0x115BE, 0x115BE, .spacing),
  (0x115BF, 0x115C0, .mark), (0x115D8, 0x115DB, .letter), (0x115DC, 0x115DD, .mark),
  (0x11600, 0x1162F, .letter), (0x11630, 0x11632, .spacing), (0x11633, 0x1163A, .mark),
  (0x1163B, 0x1163C, .spacing), (0x1163D, 0x1163D, .mark), (0x1163E, 0x1163E, .spacing),
  (0x1163F, 0x11640, .mark), (0x11644, 0x11644, .letter), (0x11650, 0x11659, .letter)]

/-- Rows from `U+11680` to `U+1E7E6`. -/
def labelRowsFrom11680 : List (Nat × Nat × CharKind) := [
  (0x11680, 0x116AA, .letter), (0x116AB, 0x116AB, .mark), (0x116AC, 0x116AC, .spacing),
  (0x116AD, 0x116AD, .mark), (0x116AE, 0x116AF, .spacing), (0x116B0, 0x116B5, .mark),
  (0x116B6, 0x116B6, .spacing), (0x116B7, 0x116B7, .mark), (0x116B8, 0x116B8, .letter),
  (0x116C0, 0x116C9, .letter), (0x11700, 0x1171A, .letter), (0x1171D, 0x1171F, .mark),
  (0x11720, 0x11721, .spacing), (0x11722, 0x11725, .mark), (0x11726, 0x11726, .spacing),
  (0x11727, 0x1172B, .mark), (0x11730, 0x11739, .letter), (0x11740, 0x11746, .letter),
  (0x11800, 0x1182B, .letter), (0x1182C, 0x1182E, .spacing), (0x1182F, 0x11837, .mark),
  (0x11838, 0x11838, .spacing), (0x11839, 0x1183A, .mark), (0x118C0, 0x118E9, .letter),
  (0x118FF, 0x11906, .letter), (0x11909, 0x11909, .letter), (0x1190C, 0x11913, .letter),
  (0x11915, 0x11916, .letter), (0x11918, 0x1192F, .letter), (0x11930, 0x11935, .spacing),
  (0x11937, 0x11938, .spacing), (0x1193B, 0x1193C, .mark), (0x1193D, 0x1193D, .spacing),
  (0x1193E, 0x1193E, .mark), (0x1193F, 0x1193F, .letter), (0x11940, 0x11940, .spacing),
  (0x11941, 0x11941, .letter), (0x11942, 0x11942, .spacing), (0x11943, 0x11943, .mark),
  (0x11950, 0x11959, .letter), (0x119A0, 0x119A7, .letter), (0x119AA, 0x119D0, .letter),
  (0x119D1, 0x119D3, .spacing), (0x119D4, 0x119D7, .mark), (0x119DA, 0x119DB, .mark),
  (0x119DC, 0x119DF, .spacing), (0x119E0, 0x119E0, .mark), (0x119E1, 0x119E1, .letter),
  (0x119E3, 0x119E3, .letter), (0x119E4, 0x119E4, .spacing), (0x11A00, 0x11A00, .letter),
  (0x11A01, 0x11A06, .mark), (0x11A07, 0x11A08, .spacing), (0x11A09, 0x11A0A, .mark),
  (0x11A0B, 0x11A32, .letter), (0x11A33, 0x11A38, .mark), (0x11A39, 0x11A39, .spacing),
  (0x11A3A, 0x11A3A, .letter), (0x11A3B, 0x11A3E, .mark), (0x11A47, 0x11A47, .mark),
  (0x11A50, 0x11A50, .letter), (0x11A51, 0x11A56, .mark), (0x11A57, 0x11A58, .spacing),
  (0x11A59, 0x11A5B, .mark), (0x11A5C, 0x11A89, .letter), (0x11A8A, 0x11A96, .mark),
  (0x11A97, 0x11A97, .spacing), (0x11A98, 0x11A99, .mark), (0x11A9D, 0x11A9D, .letter),
  (0x11AB0, 0x11AF8, .letter), (0x11C00, 0x11C08, .letter), (0x11C0A, 0x11C2E, .letter),
  (0x11C2F, 0x11C2F, .spacing), (0x11C30, 0x11C36, .mark), (0x11C38, 0x11C3D, .mark),
  (0x11C3E, 0x11C3F, .spacing), (0x11C40, 0x11C40, .letter), (0x11C50, 0x11C59, .letter),
  (0x11C72, 0x11C8F, .letter), (0x11C92, 0x11CA7, .mark), (0x11CA9, 0x11CA9, .spacing),
  (0x11CAA, 0x11CB0, .mark), (0x11CB1, 0x11CB1, .spacing), (0x11CB2, 0x11CB3, .mark),
  (0x11CB4, 0x11CB4, .spacing), (0x11CB5, 0x11CB6, .mark), (0x11D00, 0x11D06, .letter),
  (0x11D08, 0x11D09, .letter), (0x11D0B, 0x11D30, .letter), (0x11D31, 0x11D36, .mark),
  (0x11D3A, 0x11D3A, .mark), (0x11D3C, 0x11D3D, .mark), (0x11D3F, 0x11D45, .mark),
  (0x11D46, 0x11D46, .letter), (0x11D47, 0x11D47, .mark), (0x11D50, 0x11D59, .letter),
  (0x11D60, 0x11D65, .letter), (0x11D67, 0x11D68, .letter), (0x11D6A, 0x11D89, .letter),
  (0x11D8A, 0x11D8E, .spacing), (0x11D90, 0x11D91, .mark), (0x11D93, 0x11D94, .spacing),
  (0x11D95, 0x11D95, .mark), (0x11D96, 0x11D96, .spacing), (0x11D97, 0x11D97, .mark),
  (0x11D98, 0x11D98, .letter), (0x11DA0, 0x11DA9, .letter), (0x11EE0, 0x11EF2, .letter),
  (0x11EF3, 0x11EF4, .mark), (0x11EF5, 0x11EF6, .spacing), (0x11FB0, 0x11FB0, .letter),
  (0x12000, 0x12399, .letter), (0x12480, 0x12543, .letter), (0x12F90, 0x12FF0, .letter),
  (0x13000, 0x1342E, .letter), (0x14400, 0x14646, .letter), (0x16800, 0x16A38, .letter),
  (0x16A40, 0x16A5E, .letter), (0x16A60, 0x16A69, .letter), (0x16A70, 0x16ABE, .letter),
  (0x16AC0, 0x16AC9, .letter), (0x16AD0, 0x16AED, .letter), (0x16AF0, 0x16AF4, .mark),
  (0x16B00, 0x16B2F, .letter), (0x16B30, 0x16B36, .mark), (0x16B40, 0x16B43, .letter),
  (0x16B50, 0x16B59, .letter), (0x16B63, 0x16B77, .letter), (0x16B7D, 0x16B8F, .letter),
  (0x16E60, 0x16E7F, .letter), (0x16F00, 0x16F4A, .letter), (0x16F4F, 0x16F4F, .mark),
  (0x16F50, 0x16F50, .letter), (0x16F51, 0x16F87, .spacing), (0x16F8F, 0x16F92, .mark),
  (0x16F93, 0x16F9F, .letter), (0x16FE0, 0x16FE1, .letter), (0x16FE3, 0x16FE3, .letter),
  (0x16FE4, 0x16FE4, .mark), (0x16FF0, 0x16FF1, .spacing), (0x17000, 0x187F7, .letter),
  (0x18800, 0x18CD5, .letter), (0x18D00, 0x18D08, .letter), (0x1AFF0, 0x1AFF3, .letter),
  (0x1AFF5, 0x1AFFB, .letter), (0x1AFFD, 0x1AFFE, .letter), (0x1B000, 0x1B122, .letter),
  (0x1B150, 0x1B152, .letter), (0x1B164, 0x1B167, .letter), (0x1B170, 0x1B2FB, .letter),
  (0x1BC00, 0x1BC6A, .letter), (0x1BC70, 0x1BC7C, .letter), (0x1BC80, 0x1BC88, .letter),
  (0x1BC90, 0x1BC99, .letter), (0x1BC9D, 0x1BC9E, .mark), (0x1CF00, 0x1CF2D, .mark),
  (0x1CF30, 0x1CF46, .mark), (0x1DA00, 0x1DA36, .mark), (0x1DA3B, 0x1DA6C, .mark),
  (0x1DA75, 0x1DA75, .mark), (0x1DA84, 0x1DA84, .mark), (0x1DA9B, 0x1DA9F, .mark),
  (0x1DAA1, 0x1DAAF, .mark), (0x1DF00, 0x1DF1E, .letter), (0x1E000, 0x1E006, .mark),
  (0x1E008, 0x1E018, .mark), (0x1E01B, 0x1E021, .mark), (0x1E023, 0x1E024, .mark),
  (0x1E026, 0x1E02A, .mark), (0x1E100, 0x1E12C, .letter), (0x1E130, 0x1E136, .mark),
  (0x1E137, 0x1E13D, .letter), (0x1E140, 0x1E149, .letter), (0x1E14E, 0x1E14E, .letter),
  (0x1E290, 0x1E2AD, .letter), (0x1E2AE, 0x1E2AE, .mark), (0x1E2C0, 0x1E2EB, .letter),
  (0x1E2EC, 0x1E2EF, .mark), (0x1E2F0, 0x1E2F9, .letter), (0x1E7E0, 0x1E7E6, .letter)]

/-- Rows from `U+1E7E8` to `U+3134A`. -/
def labelRowsFrom1E7E8 : List (Nat × Nat × CharKind) := [
  (0x1E7E8, 0x1E7EB, .letter), (0x1E7ED, 0x1E7EE, .letter), (0x1E7F0, 0x1E7FE, .letter),
  (0x1E800, 0x1E8C4, .right), (0x1E8D0, 0x1E8D6, .mark), (0x1E922, 0x1E943, .right),
  (0x1E944, 0x1E94A, .mark), (0x1E94B, 0x1E94B, .right), (0x1E950, 0x1E959, .right),
  (0x20000, 0x2A6DF, .letter), (0x2A700, 0x2B738, .letter), (0x2B740, 0x2B81D, .letter),
  (0x2B820, 0x2CEA1, .letter), (0x2CEB0, 0x2EBE0, .letter), (0x30000, 0x3134A, .letter)]

/-- The code points of labels, from first to last, with their kinds; in increasing order. -/
def labelRows : List (List (Nat × Nat × CharKind)) := [
  labelRowsFrom2D, labelRowsFrom469, labelRowsFrom9C1, labelRowsFromEA7, labelRowsFrom1B6B,
  labelRowsFrom1F78, labelRowsFromA759, labelRowsFrom105A3, labelRowsFrom11680, labelRowsFrom1E7E8]

end VarsAdvisor.Domain
