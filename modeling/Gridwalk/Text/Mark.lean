import Gridwalk.Text.NameLetter

/-!
# Marks

A mark is written above, below or around the letter in front of it.  Marks have classes, and
of several marks behind one letter those of lower classes come first; marks of class zero stay
where they are.  Some letters with a mark are one character when they are composed.  A text is
composed if its marks are in order and no letter in it can take in a mark behind it (Unicode
14.0).  The tables hold the characters that names may have, ASCII capitals apart.
-/

set_option autoImplicit false

namespace Gridwalk.Text

/-- The classes of marks, with the boundaries of the marks of each. -/
def markClasses : List (Nat × List Nat) :=
  [(0, [1958, 1969, 2304, 2308, 2362, 2364, 2366, 2381, 2382, 2384, 2389, 2392, 2402, 2404, 2433,
     2436, 2494, 2501, 2503, 2505, 2507, 2509, 2519, 2520, 2530, 2532, 2561, 2564, 2622, 2627, 2631,
     2633, 2635, 2637, 2641, 2642, 2672, 2674, 2677, 2678, 2689, 2692, 2750, 2758, 2759, 2762, 2763,
     2765, 2786, 2788, 2810, 2816, 2817, 2820, 2878, 2885, 2887, 2889, 2891, 2893, 2901, 2904, 2914,
     2916, 2946, 2947, 3006, 3011, 3014, 3017, 3018, 3021, 3031, 3032, 3072, 3077, 3134, 3141, 3142,
     3145, 3146, 3149, 3170, 3172, 3201, 3204, 3262, 3269, 3270, 3273, 3274, 3277, 3285, 3287, 3298,
     3300, 3328, 3332, 3390, 3397, 3398, 3401, 3402, 3405, 3415, 3416, 3426, 3428, 3457, 3460, 3535,
     3541, 3542, 3543, 3544, 3552, 3570, 3572, 3633, 3634, 3636, 3640, 3655, 3656, 3660, 3663, 3761,
     3762, 3764, 3768, 3771, 3773, 3788, 3790, 3902, 3904, 3966, 3968, 3981, 3987, 3988, 3992, 3993,
     3997, 3998, 4002, 4003, 4007, 4008, 4012, 4013, 4025, 4026, 4029, 4139, 4151, 4152, 4153, 4155,
     4159, 4182, 4186, 4190, 4193, 4194, 4197, 4199, 4206, 4209, 4213, 4226, 4237, 4239, 4240, 4250,
     4254, 5906, 5908, 5938, 5940, 5970, 5972, 6002, 6004, 6070, 6098, 6099, 6100, 6277, 6279, 6432,
     6444, 6448, 6457, 6681, 6684, 6741, 6751, 6753, 6773, 6912, 6917, 6965, 6980, 7040, 7043, 7073,
     7082, 7084, 7086, 7143, 7154, 7204, 7223, 7393, 7394, 7415, 7416, 43010, 43011, 43019, 43020,
     43043, 43048, 43136, 43138, 43188, 43204, 43205, 43206, 43263, 43264, 43302, 43307, 43335,
     43347, 43392, 43396, 43444, 43456, 43493, 43494, 43561, 43575, 43587, 43588, 43596, 43598,
     43643, 43646, 43755, 43760, 43765, 43766, 44003, 44011, 44012, 44013, 68097, 68100, 68101,
     68103, 68108, 68109, 68110, 68111, 69632, 69635, 69688, 69702, 69747, 69749, 69760, 69763,
     69808, 69817, 69826, 69827, 69927, 69939, 69957, 69959, 70016, 70019, 70067, 70080, 70089,
     70090, 70091, 70093, 70094, 70096, 70188, 70197, 70199, 70200, 70206, 70207, 70367, 70377,
     70400, 70404, 70462, 70469, 70471, 70473, 70475, 70477, 70487, 70488, 70498, 70500, 70709,
     70722, 70723, 70726, 70832, 70850, 71087, 71094, 71096, 71103, 71132, 71134, 71216, 71231,
     71232, 71233, 71339, 71350, 71453, 71467, 71724, 71737, 71984, 71990, 71991, 71993, 71995,
     71997, 72000, 72001, 72002, 72003, 72145, 72152, 72154, 72160, 72164, 72165, 72193, 72203,
     72243, 72244, 72245, 72250, 72251, 72255, 72273, 72284, 72330, 72345, 72751, 72759, 72760,
     72767, 72850, 72872, 72873, 72887, 73009, 73015, 73018, 73019, 73020, 73022, 73023, 73026,
     73027, 73028, 73031, 73032, 73098, 73103, 73104, 73106, 73107, 73111, 73459, 73463, 94031,
     94032, 94033, 94088, 94095, 94099, 94180, 94181, 113821, 113822, 118528, 118574, 118576,
     118599, 121344, 121399, 121403, 121453, 121461, 121462, 121476, 121477, 121499, 121504, 121505,
     121520]),
   (1, [820, 825, 7380, 7381, 7394, 7401, 68153, 68154, 92912, 92917, 113822, 113823]),
   (6, [94192, 94194]),
   (7, [2364, 2365, 2492, 2493, 2620, 2621, 2748, 2749, 2876, 2877, 3132, 3133, 3260, 3261, 4151,
     4152, 6964, 6965, 7142, 7143, 7223, 7224, 43443, 43444, 69818, 69819, 70003, 70004, 70090,
     70091, 70198, 70199, 70377, 70378, 70459, 70461, 70726, 70727, 70851, 70852, 71104, 71105,
     71351, 71352, 71738, 71739, 72003, 72004, 73026, 73027, 125258, 125259]),
   (8, [12441, 12443]),
   (9, [2381, 2382, 2509, 2510, 2637, 2638, 2765, 2766, 2893, 2894, 3021, 3022, 3149, 3150, 3277,
     3278, 3387, 3389, 3405, 3406, 3530, 3531, 3642, 3643, 3770, 3771, 3972, 3973, 4153, 4155, 5908,
     5910, 5940, 5941, 6098, 6099, 6752, 6753, 6980, 6981, 7082, 7084, 7154, 7156, 11647, 11648,
     43014, 43015, 43052, 43053, 43204, 43205, 43347, 43348, 43456, 43457, 43766, 43767, 44013,
     44014, 68159, 68160, 69702, 69703, 69744, 69745, 69759, 69760, 69817, 69818, 69939, 69941,
     70080, 70081, 70197, 70198, 70378, 70379, 70477, 70478, 70722, 70723, 70850, 70851, 71103,
     71104, 71231, 71232, 71350, 71351, 71467, 71468, 71737, 71738, 71997, 71999, 72160, 72161,
     72244, 72245, 72263, 72264, 72345, 72346, 72767, 72768, 73028, 73030, 73111, 73112]),
   (10, [1456, 1457]), (11, [1457, 1458]), (12, [1458, 1459]), (13, [1459, 1460]),
   (14, [1460, 1461]), (15, [1461, 1462]), (16, [1462, 1463]), (17, [1463, 1464]),
   (18, [1464, 1465, 1479, 1480]), (19, [1465, 1467]), (20, [1467, 1468]), (21, [1468, 1469]),
   (22, [1469, 1470]), (23, [1471, 1472]), (24, [1473, 1474]), (25, [1474, 1475]),
   (26, [64286, 64287]), (27, [1611, 1612, 2288, 2289]), (28, [1612, 1613, 2289, 2290]),
   (29, [1613, 1614, 2290, 2291]), (30, [1560, 1561, 1614, 1615]), (31, [1561, 1562, 1615, 1616]),
   (32, [1562, 1563, 1616, 1617]), (33, [1617, 1618]), (34, [1618, 1619]), (35, [1648, 1649]),
   (36, [1809, 1810]), (84, [3157, 3158]), (91, [3158, 3159]), (103, [3640, 3642]),
   (107, [3656, 3660]), (118, [3768, 3770]), (122, [3784, 3788]), (129, [3953, 3954]),
   (130, [3954, 3955, 3962, 3966, 3968, 3969]), (132, [3956, 3957]),
   (202, [801, 803, 807, 809, 7632, 7633]), (214, [7630, 7631]), (216, [795, 796, 3897, 3898]),
   (218, [7674, 7675, 12330, 12331]),
   (220, [790, 794, 796, 801, 803, 807, 809, 820, 825, 829, 839, 842, 845, 847, 851, 855, 857, 859,
     1425, 1426, 1430, 1431, 1435, 1436, 1442, 1448, 1450, 1451, 1477, 1478, 1621, 1623, 1628, 1629,
     1631, 1632, 1763, 1764, 1770, 1771, 1773, 1774, 1841, 1842, 1844, 1845, 1847, 1850, 1851, 1853,
     1854, 1855, 1858, 1859, 1860, 1861, 1862, 1863, 1864, 1865, 2034, 2035, 2045, 2046, 2137, 2140,
     2201, 2204, 2255, 2260, 2275, 2276, 2278, 2279, 2281, 2282, 2285, 2288, 2294, 2295, 2297, 2299,
     2386, 2387, 3864, 3866, 3893, 3894, 3895, 3896, 4038, 4039, 4237, 4238, 6459, 6460, 6680, 6681,
     6783, 6784, 6837, 6843, 6845, 6846, 6847, 6849, 6851, 6853, 6858, 6859, 7020, 7021, 7381, 7386,
     7388, 7392, 7405, 7406, 7618, 7619, 7626, 7627, 7631, 7632, 7673, 7674, 7677, 7678, 7679, 7680,
     43307, 43310, 43700, 43701, 65063, 65070, 66045, 66046, 66272, 66273, 68109, 68110, 68154,
     68155, 68326, 68327, 69446, 69448, 69451, 69452, 69453, 69457, 69507, 69508, 69509, 69510,
     125136, 125143]),
   (222, [1434, 1435, 1453, 1454, 6457, 6458, 12333, 12334]),
   (228, [1454, 1455, 6313, 6314, 7671, 7673, 12331, 12332]),
   (230, [768, 789, 829, 832, 834, 835, 838, 839, 842, 845, 848, 851, 855, 856, 859, 860, 867, 880,
     1155, 1160, 1426, 1430, 1431, 1434, 1436, 1442, 1448, 1450, 1451, 1453, 1455, 1456, 1476, 1477,
     1552, 1560, 1619, 1621, 1623, 1628, 1629, 1631, 1750, 1757, 1759, 1763, 1764, 1765, 1767, 1769,
     1771, 1773, 1840, 1841, 1842, 1844, 1845, 1847, 1850, 1851, 1853, 1854, 1855, 1858, 1859, 1860,
     1861, 1862, 1863, 1864, 1865, 1867, 2027, 2034, 2035, 2036, 2070, 2074, 2075, 2084, 2085, 2088,
     2089, 2094, 2200, 2201, 2204, 2208, 2250, 2255, 2260, 2274, 2276, 2278, 2279, 2281, 2282, 2285,
     2291, 2294, 2295, 2297, 2299, 2304, 2385, 2386, 2387, 2389, 2558, 2559, 3970, 3972, 3974, 3976,
     4957, 4960, 6109, 6110, 6458, 6459, 6679, 6680, 6773, 6781, 6832, 6837, 6843, 6845, 6849, 6851,
     6853, 6858, 6859, 6863, 7019, 7020, 7021, 7028, 7376, 7379, 7386, 7388, 7392, 7393, 7412, 7413,
     7416, 7418, 7616, 7618, 7619, 7626, 7627, 7629, 7633, 7670, 7675, 7676, 7678, 7679, 11503,
     11506, 11744, 11776, 42607, 42608, 42612, 42622, 42654, 42656, 42736, 42738, 43232, 43250,
     43696, 43697, 43698, 43700, 43703, 43705, 43710, 43712, 43713, 43714, 65056, 65063, 65070,
     65072, 66422, 66427, 68111, 68112, 68152, 68153, 68325, 68326, 68900, 68904, 69291, 69293,
     69448, 69451, 69452, 69453, 69506, 69507, 69508, 69509, 69888, 69891, 70502, 70509, 70512,
     70517, 70750, 70751, 92976, 92983, 122880, 122887, 122888, 122905, 122907, 122914, 122915,
     122917, 122918, 122923, 123184, 123191, 123566, 123567, 123628, 123632, 125252, 125258]),
   (232, [789, 790, 794, 795, 856, 857, 7670, 7671, 12332, 12333]),
   (233, [860, 861, 863, 864, 866, 867, 7676, 7677]), (234, [861, 863, 864, 866, 7629, 7630])]

/-- The marks that can be taken in, with the letters that take each in. -/
def composingMarks : List (Nat × List Nat) :=
  [(768, [97, 101, 105, 110, 111, 117, 119, 121, 194, 202, 212, 220, 226, 234, 244, 252, 258, 259,
     274, 275, 332, 333, 416, 417, 431, 432, 913, 917, 919, 921, 927, 933, 937, 938, 939, 945, 949,
     951, 953, 959, 965, 969, 970, 971, 1045, 1048, 1077, 1080, 7936, 7937, 7944, 7945, 7952, 7953,
     7960, 7961, 7968, 7969, 7976, 7977, 7984, 7985, 7992, 7993, 8000, 8001, 8008, 8009, 8016, 8017,
     8025, 8032, 8033, 8040, 8041, 8486]),
   (769, [97, 99, 101, 103, 105, 107, 108, 109, 110, 111, 112, 114, 115, 117, 119, 121, 122, 194,
     197, 198, 199, 202, 207, 212, 213, 216, 220, 226, 229, 230, 231, 234, 239, 244, 245, 248, 252,
     258, 259, 274, 275, 332, 333, 360, 361, 416, 417, 431, 432, 913, 917, 919, 921, 927, 933, 937,
     938, 939, 945, 949, 951, 953, 959, 965, 969, 970, 971, 1043, 1050, 1075, 1082, 7936, 7937,
     7944, 7945, 7952, 7953, 7960, 7961, 7968, 7969, 7976, 7977, 7984, 7985, 7992, 7993, 8000, 8001,
     8008, 8009, 8016, 8017, 8025, 8032, 8033, 8040, 8041, 8486, 8490, 8491]),
   (770, [97, 99, 101, 103, 104, 105, 106, 111, 115, 117, 119, 121, 122, 7840, 7841, 7864, 7865,
     7884, 7885]),
   (771, [97, 101, 105, 110, 111, 117, 118, 121, 194, 202, 212, 226, 234, 244, 258, 259, 416, 417,
     431, 432]),
   (772, [97, 101, 103, 105, 111, 117, 121, 196, 198, 213, 214, 220, 228, 230, 245, 246, 252, 490,
     491, 550, 551, 558, 559, 913, 921, 933, 945, 953, 965, 1048, 1059, 1080, 1091, 7734, 7735,
     7770, 7771]),
   (774, [97, 101, 103, 105, 111, 117, 552, 553, 913, 921, 933, 945, 953, 965, 1040, 1045, 1046,
     1048, 1059, 1072, 1077, 1078, 1080, 1091, 7840, 7841]),
   (775, [97, 98, 99, 100, 101, 102, 103, 104, 109, 110, 111, 112, 114, 115, 116, 119, 120, 121,
     122, 346, 347, 352, 353, 7778, 7779]),
   (776, [97, 101, 104, 105, 111, 116, 117, 119, 120, 121, 213, 245, 362, 363, 921, 933, 953, 965,
     1030, 1040, 1045, 1046, 1047, 1048, 1054, 1059, 1063, 1067, 1069, 1072, 1077, 1078, 1079, 1080,
     1086, 1091, 1095, 1099, 1101, 1110, 1240, 1241, 1256, 1257]),
   (777, [97, 101, 105, 111, 117, 121, 194, 202, 212, 226, 234, 244, 258, 259, 416, 417, 431, 432]),
   (778, [97, 117, 119, 121]), (779, [111, 117, 1059, 1091]),
   (780, [97, 99, 100, 101, 103, 104, 105, 106, 107, 108, 110, 111, 114, 115, 116, 117, 122, 220,
     252, 439, 658, 8490]),
   (783, [97, 101, 105, 111, 114, 117, 1140, 1141]), (785, [97, 101, 105, 111, 114, 117]),
   (787, [913, 917, 919, 921, 927, 929, 933, 937, 945, 949, 951, 953, 959, 961, 965, 969, 8486]),
   (788, [913, 917, 919, 921, 927, 929, 933, 937, 945, 949, 951, 953, 959, 961, 965, 969, 8486]),
   (795, [111, 117]),
   (803, [97, 98, 100, 101, 104, 105, 107, 108, 109, 110, 111, 114, 115, 116, 117, 118, 119, 121,
     122, 416, 417, 431, 432, 8490]),
   (804, [117]), (805, [97]), (806, [115, 116]),
   (807, [99, 100, 101, 103, 104, 107, 108, 110, 114, 115, 116, 8490]),
   (808, [97, 101, 105, 111, 117]), (813, [100, 101, 108, 110, 116, 117]), (814, [104]),
   (816, [101, 105, 117]),
   (817, [98, 100, 104, 107, 108, 110, 114, 116, 122, 8490]),
   (834, [913, 919, 921, 933, 937, 938, 939, 945, 951, 953, 965, 969, 970, 971, 7936, 7937, 7944,
     7945, 7968, 7969, 7976, 7977, 7984, 7985, 7992, 7993, 8016, 8017, 8025, 8032, 8033, 8040, 8041,
     8486]),
   (1619, [1575]), (1620, [1575, 1608, 1610, 1729, 1746, 1749]), (1621, [1575]),
   (2364, [2344, 2352, 2355]), (2494, [2503]), (2519, [2503]), (2878, [2887]), (2902, [2887]),
   (2903, [2887]), (3006, [3014, 3015]), (3031, [2962, 3014]), (3158, [3142]), (3266, [3270]),
   (3285, [3263, 3270, 3274]), (3286, [3270]), (3390, [3398, 3399]), (3415, [3398]),
   (3530, [3545, 3548]), (3535, [3545]), (3551, [3545]), (4142, [4133]),
   (6965, [6917, 6919, 6921, 6923, 6925, 6929, 6970, 6972, 6974, 6975, 6978]),
   (12441, [12358, 12363, 12365, 12367, 12369, 12371, 12373, 12375, 12377, 12379, 12381, 12383,
     12385, 12388, 12390, 12392, 12399, 12402, 12405, 12408, 12411, 12445, 12454, 12459, 12461,
     12463, 12465, 12467, 12469, 12471, 12473, 12475, 12477, 12479, 12481, 12484, 12486, 12488,
     12495, 12498, 12501, 12504, 12507, 12527, 12528, 12529, 12530, 12541]),
   (12442, [12399, 12402, 12405, 12408, 12411, 12495, 12498, 12501, 12504, 12507]),
   (69818, [69785, 69787, 69797]), (69927, [69937, 69938]), (70462, [70471]), (70487, [70471]),
   (70832, [70841]), (70842, [70841]), (70845, [70841]), (71087, [71096, 71097]), (71984, [71989])]

/-- The class of a mark. -/
def markClass? (c : Char) : Option Nat :=
  (markClasses.find? fun row => liesIn row.2 c.toNat).map Prod.fst

/-- Whether a character is a mark. -/
def isMark (c : Char) : Bool := (markClass? c).isSome

/-- Whether a character is a mark that takes the vowel of a letter away. -/
def isVirama (c : Char) : Bool := markClass? c == some 9

/-- Whether a letter takes in a mark. -/
def takesIn (letter mark : Char) : Bool :=
  ((composingMarks.lookup mark.toNat).getD []).contains letter.toNat

/-- Whether the rest of a text is composed, where `letter` is the last character in front of it
that is of class zero, and `last` is the class of the character in front of it. -/
def isComposedFrom (letter : Option Char) (last : Nat) : List Char → Bool
  | [] => true
  | c :: rest =>
      let rank := (markClass? c).getD 0
      let isOrdered := rank == 0 || last ≤ rank
      let isReached := last == 0 || last < rank
      isOrdered && !(isReached && letter.any (takesIn · c)) &&
        isComposedFrom (if rank == 0 then some c else letter) rank rest

/-- Whether a text is composed. -/
def isComposed (cs : List Char) : Bool :=
  isComposedFrom none 0 cs

end Gridwalk.Text
