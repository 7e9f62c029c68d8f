import FieldRules.CharSet

/-!
Characters that differ in case only. Most of them come in pairs, and the pairs in runs; a few more
come in groups of three or four.
-/
namespace FieldRules.Unicode

/-- The first code point of a run of pairs, the distance within each pair, the step from one pair to
the next, and the number of pairs. -/
def caseRuns : List (Nat × Nat × Nat × Nat) :=
  [(0x41, 32, 1, 10), (0x4C, 32, 2, 8), (0x4D, 32, 2, 3), (0x55, 32, 2, 3), (0xC0, 32, 2, 16),
   (0xC1, 32, 2, 2), (0xC7, 32, 2, 8), (0xD9, 32, 2, 3), (0xDF, 7615, 1, 1), (0xFF, 121, 1, 1),
   (0x100, 1, 2, 24), (0x132, 1, 2, 3), (0x139, 1, 2, 8), (0x14A, 1, 2, 23), (0x179, 1, 2, 3),
   (0x180, 195, 1, 1), (0x181, 210, 1, 1), (0x182, 1, 2, 2), (0x186, 206, 1, 1),
   (0x187, 1, 1, 1), (0x189, 205, 1, 2), (0x18B, 1, 1, 1), (0x18E, 79, 1, 1), (0x18F, 202, 1, 1),
   (0x190, 203, 1, 1), (0x191, 1, 1, 1), (0x193, 205, 1, 1), (0x194, 207, 1, 1),
   (0x195, 97, 1, 1), (0x196, 211, 1, 1), (0x197, 209, 1, 1), (0x198, 1, 1, 1),
   (0x19A, 163, 1, 1), (0x19B, 42561, 1, 1), (0x19C, 211, 1, 1), (0x19D, 213, 1, 1),
   (0x19E, 130, 1, 1), (0x19F, 214, 1, 1), (0x1A0, 1, 2, 3), (0x1A6, 218, 1, 1),
   (0x1A7, 1, 1, 1), (0x1A9, 218, 1, 1), (0x1AC, 1, 1, 1), (0x1AE, 218, 1, 1), (0x1AF, 1, 1, 1),
   (0x1B1, 217, 1, 2), (0x1B3, 1, 2, 2), (0x1B7, 219, 1, 1), (0x1B8, 1, 1, 1), (0x1BC, 1, 1, 1),
   (0x1BF, 56, 1, 1), (0x1CD, 1, 2, 8), (0x1DE, 1, 2, 9), (0x1F4, 1, 1, 1), (0x1F8, 1, 2, 20),
   (0x222, 1, 2, 9), (0x23A, 10795, 1, 1), (0x23B, 1, 1, 1), (0x23E, 10792, 1, 1),
   (0x23F, 10815, 1, 2), (0x241, 1, 1, 1), (0x244, 69, 1, 1), (0x245, 71, 1, 1),
   (0x246, 1, 2, 5), (0x250, 10783, 1, 1), (0x251, 10780, 1, 1), (0x252, 10782, 1, 1),
   (0x25C, 42319, 1, 1), (0x261, 42315, 1, 1), (0x264, 42343, 1, 1), (0x265, 42280, 1, 1),
   (0x266, 42308, 1, 1), (0x26A, 42308, 1, 1), (0x26B, 10743, 1, 1), (0x26C, 42305, 1, 1),
   (0x271, 10749, 1, 1), (0x27D, 10727, 1, 1), (0x282, 42307, 1, 1), (0x287, 42282, 1, 1),
   (0x29D, 42261, 1, 1), (0x29E, 42258, 1, 1), (0x370, 1, 2, 2), (0x376, 1, 1, 1),
   (0x37B, 130, 1, 3), (0x37F, 116, 1, 1), (0x386, 38, 1, 1), (0x388, 37, 1, 3),
   (0x38C, 64, 1, 1), (0x38E, 63, 1, 2), (0x390, 7235, 1, 1), (0x391, 32, 2, 2),
   (0x394, 32, 2, 2), (0x397, 32, 1, 1), (0x39B, 32, 2, 3), (0x39E, 32, 1, 1), (0x3A4, 32, 1, 2),
   (0x3A7, 32, 1, 2), (0x3AA, 32, 1, 2), (0x3B0, 7219, 1, 1), (0x3CF, 8, 1, 1),
   (0x3D8, 1, 2, 12), (0x3F2, 7, 1, 1), (0x3F7, 1, 1, 1), (0x3FA, 1, 1, 1), (0x400, 80, 1, 16),
   (0x410, 32, 1, 2), (0x413, 32, 2, 7), (0x416, 32, 2, 4), (0x420, 32, 1, 1), (0x423, 32, 1, 7),
   (0x42B, 32, 1, 5), (0x460, 1, 1, 1), (0x464, 1, 2, 15), (0x48A, 1, 2, 27), (0x4C0, 15, 1, 1),
   (0x4C1, 1, 2, 7), (0x4D0, 1, 2, 48), (0x531, 48, 1, 38), (0x10A0, 7264, 1, 38),
   (0x10C7, 7264, 1, 1), (0x10CD, 7264, 1, 1), (0x10D0, 3008, 1, 43), (0x10FD, 3008, 1, 3),
   (0x13A0, 38864, 1, 80), (0x13F0, 8, 1, 6), (0x1C89, 1, 1, 1), (0x1D79, 35332, 1, 1),
   (0x1D7D, 3814, 1, 1), (0x1D8E, 35384, 1, 1), (0x1E00, 1, 2, 48), (0x1E62, 1, 2, 26),
   (0x1EA0, 1, 2, 48), (0x1F00, 8, 1, 8), (0x1F10, 8, 1, 6), (0x1F20, 8, 1, 8),
   (0x1F30, 8, 1, 8), (0x1F40, 8, 1, 6), (0x1F51, 8, 2, 4), (0x1F60, 8, 1, 8),
   (0x1F70, 74, 1, 2), (0x1F72, 86, 1, 4), (0x1F76, 100, 1, 2), (0x1F78, 128, 1, 2),
   (0x1F7A, 112, 1, 2), (0x1F7C, 126, 1, 2), (0x1F80, 8, 1, 8), (0x1F90, 8, 1, 8),
   (0x1FA0, 8, 1, 8), (0x1FB0, 8, 1, 2), (0x1FB3, 9, 1, 1), (0x1FC3, 9, 1, 1), (0x1FD0, 8, 1, 2),
   (0x1FE0, 8, 1, 2), (0x1FE5, 7, 1, 1), (0x1FF3, 9, 1, 1), (0x2132, 28, 1, 1),
   (0x2160, 16, 1, 16), (0x2183, 1, 1, 1), (0x24B6, 26, 1, 26), (0x2C00, 48, 1, 48),
   (0x2C60, 1, 1, 1), (0x2C67, 1, 2, 3), (0x2C72, 1, 1, 1), (0x2C75, 1, 1, 1),
   (0x2C80, 1, 2, 50), (0x2CEB, 1, 2, 2), (0x2CF2, 1, 1, 1), (0xA640, 1, 2, 5),
   (0xA64C, 1, 2, 17), (0xA680, 1, 2, 14), (0xA722, 1, 2, 7), (0xA732, 1, 2, 31),
   (0xA779, 1, 2, 2), (0xA77E, 1, 2, 5), (0xA78B, 1, 1, 1), (0xA790, 1, 2, 2),
   (0xA794, 48, 1, 1), (0xA796, 1, 2, 10), (0xA7B3, 928, 1, 1), (0xA7B4, 1, 2, 8),
   (0xA7C7, 1, 2, 2), (0xA7CC, 1, 1, 1), (0xA7D0, 1, 1, 1), (0xA7D6, 1, 2, 3), (0xA7F5, 1, 1, 1),
   (0xFB05, 1, 1, 1), (0xFF21, 32, 1, 26), (0x10400, 40, 1, 40), (0x104B0, 40, 1, 36),
   (0x10570, 39, 2, 19), (0x10571, 39, 2, 5), (0x1057D, 39, 2, 7), (0x1058D, 39, 2, 3),
   (0x10595, 39, 1, 1), (0x10C80, 64, 1, 51), (0x10D50, 32, 1, 22), (0x118A0, 32, 1, 32),
   (0x16E40, 32, 1, 32), (0x1E900, 34, 1, 34)]

def caseGroups : List (List Nat) :=
  [[0x4B, 0x6B, 0x212A], [0x53, 0x73, 0x17F], [0xB5, 0x39C, 0x3BC], [0xC5, 0xE5, 0x212B],
   [0x1C4, 0x1C5, 0x1C6], [0x1C7, 0x1C8, 0x1C9], [0x1CA, 0x1CB, 0x1CC], [0x1F1, 0x1F2, 0x1F3],
   [0x345, 0x399, 0x3B9, 0x1FBE], [0x392, 0x3B2, 0x3D0], [0x395, 0x3B5, 0x3F5],
   [0x398, 0x3B8, 0x3D1, 0x3F4], [0x39A, 0x3BA, 0x3F0], [0x3A0, 0x3C0, 0x3D6],
   [0x3A1, 0x3C1, 0x3F1], [0x3A3, 0x3C2, 0x3C3], [0x3A6, 0x3C6, 0x3D5], [0x3A9, 0x3C9, 0x2126],
   [0x412, 0x432, 0x1C80], [0x414, 0x434, 0x1C81], [0x41E, 0x43E, 0x1C82],
   [0x421, 0x441, 0x1C83], [0x422, 0x442, 0x1C84, 0x1C85], [0x42A, 0x44A, 0x1C86],
   [0x462, 0x463, 0x1C87], [0x1C88, 0xA64A, 0xA64B], [0x1E60, 0x1E61, 0x1E9B]]

/-- All characters that differ in case only, together. -/
def caseOrbits : List (List Nat) :=
  caseGroups ++ caseRuns.flatMap fun (first, distance, step, count) =>
    (List.range count).map fun i => [first + step * i, first + step * i + distance]

end FieldRules.Unicode

namespace FieldRules.CharSet

/-- Adds to a set every character that differs from one of its own in case only. -/
def withCases (s : CharSet) : CharSet :=
  s.union (ofRanges ((Unicode.caseOrbits.filter fun orbit => orbit.any s.containsCode).flatMap
    fun orbit => orbit.map fun code => (code, code)))

/-- As `withCases`, for the letters of ASCII only. -/
def withAsciiCases (s : CharSet) : CharSet :=
  s.union (ofRanges (((List.range 26).filter fun i =>
    s.containsCode (0x41 + i) || s.containsCode (0x61 + i)).flatMap
      fun i => [(0x41 + i, 0x41 + i), (0x61 + i, 0x61 + i)]))

end FieldRules.CharSet
