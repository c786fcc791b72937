import Gridwalk.Text.Printable

/-!
# Letters of names

A name of a host is made of letters, digits, marks and hyphens of every script: the characters
that internationalized domain names of 2008 may have anywhere, and those that become such
characters in lower case.  The lists below hold, in ascending order, every code point at which
a property changes, so that a character has a property when an odd number of boundaries lie at
or below it (Unicode 14.0).

Besides, names may join letters that take one form at their left or right neighbour, may not
mix directions, and know a few characters that stand between letters of one script only.
-/

set_option autoImplicit false

namespace Gridwalk.Text

/-- Whether a code point lies behind an odd number of boundaries of an ascending list. -/
def liesIn (bounds : List Nat) (n : Nat) : Bool :=
  boundariesUpTo n bounds % 2 == 1

/-- The boundaries of letters of names below U+1000. -/
def letterFlipsTo0FFF : List Nat :=
  [45, 46, 48, 58, 65, 91, 97, 123, 192, 215, 216, 247, 248, 306, 308, 319, 321, 329, 330, 383, 384,
   452, 461, 497, 500, 688, 697, 706, 710, 722, 748, 749, 750, 751, 768, 832, 834, 835, 838, 847,
   848, 884, 886, 888, 891, 894, 895, 896, 902, 903, 904, 907, 908, 909, 910, 930, 931, 976, 983,
   1008, 1011, 1013, 1015, 1017, 1018, 1154, 1155, 1160, 1162, 1328, 1329, 1367, 1369, 1370, 1376,
   1415, 1416, 1417, 1425, 1470, 1471, 1472, 1473, 1475, 1476, 1478, 1479, 1480, 1488, 1515, 1519,
   1523, 1552, 1563, 1568, 1600, 1601, 1632, 1646, 1653, 1657, 1748, 1749, 1757, 1759, 1769, 1770,
   1776, 1786, 1792, 1808, 1867, 1869, 1970, 1984, 2038, 2045, 2046, 2048, 2094, 2112, 2140, 2144,
   2155, 2160, 2184, 2185, 2191, 2200, 2274, 2275, 2392, 2400, 2404, 2406, 2416, 2417, 2436, 2437,
   2445, 2447, 2449, 2451, 2473, 2474, 2481, 2482, 2483, 2486, 2490, 2492, 2501, 2503, 2505, 2507,
   2511, 2519, 2520, 2528, 2532, 2534, 2546, 2556, 2557, 2558, 2559, 2561, 2564, 2565, 2571, 2575,
   2577, 2579, 2601, 2602, 2609, 2610, 2611, 2613, 2614, 2616, 2618, 2620, 2621, 2622, 2627, 2631,
   2633, 2635, 2638, 2641, 2642, 2652, 2653, 2662, 2678, 2689, 2692, 2693, 2702, 2703, 2706, 2707,
   2729, 2730, 2737, 2738, 2740, 2741, 2746, 2748, 2758, 2759, 2762, 2763, 2766, 2768, 2769, 2784,
   2788, 2790, 2800, 2809, 2816, 2817, 2820, 2821, 2829, 2831, 2833, 2835, 2857, 2858, 2865, 2866,
   2868, 2869, 2874, 2876, 2885, 2887, 2889, 2891, 2894, 2901, 2904, 2911, 2916, 2918, 2928, 2929,
   2930, 2946, 2948, 2949, 2955, 2958, 2961, 2962, 2966, 2969, 2971, 2972, 2973, 2974, 2976, 2979,
   2981, 2984, 2987, 2990, 3002, 3006, 3011, 3014, 3017, 3018, 3022, 3024, 3025, 3031, 3032, 3046,
   3056, 3072, 3085, 3086, 3089, 3090, 3113, 3114, 3130, 3132, 3141, 3142, 3145, 3146, 3150, 3157,
   3159, 3160, 3163, 3165, 3166, 3168, 3172, 3174, 3184, 3200, 3204, 3205, 3213, 3214, 3217, 3218,
   3241, 3242, 3252, 3253, 3258, 3260, 3269, 3270, 3273, 3274, 3278, 3285, 3287, 3293, 3295, 3296,
   3300, 3302, 3312, 3313, 3315, 3328, 3341, 3342, 3345, 3346, 3397, 3398, 3401, 3402, 3407, 3412,
   3416, 3423, 3428, 3430, 3440, 3450, 3456, 3457, 3460, 3461, 3479, 3482, 3506, 3507, 3516, 3517,
   3518, 3520, 3527, 3530, 3531, 3535, 3541, 3542, 3543, 3544, 3552, 3558, 3568, 3570, 3572, 3585,
   3635, 3636, 3643, 3648, 3663, 3664, 3674, 3713, 3715, 3716, 3717, 3718, 3723, 3724, 3748, 3749,
   3750, 3751, 3763, 3764, 3774, 3776, 3781, 3782, 3783, 3784, 3790, 3792, 3802, 3806, 3808, 3840,
   3841, 3851, 3852, 3864, 3866, 3872, 3882, 3893, 3894, 3895, 3896, 3897, 3898, 3902, 3907, 3908,
   3912, 3913, 3917, 3918, 3922, 3923, 3927, 3928, 3932, 3933, 3945, 3946, 3949, 3953, 3955, 3956,
   3957, 3962, 3969, 3970, 3973, 3974, 3987, 3988, 3992, 3993, 3997, 3998, 4002, 4003, 4007, 4008,
   4012, 4013, 4025, 4026, 4029, 4038, 4039]

/-- The boundaries of letters of names from U+1000 to U+FFFF. -/
def letterFlipsToFFFF : List Nat :=
  [4096, 4170, 4176, 4254, 4256, 4294, 4295, 4296, 4301, 4302, 4304, 4347, 4349, 4352, 4608, 4681,
   4682, 4686, 4688, 4695, 4696, 4697, 4698, 4702, 4704, 4745, 4746, 4750, 4752, 4785, 4786, 4790,
   4792, 4799, 4800, 4801, 4802, 4806, 4808, 4823, 4824, 4881, 4882, 4886, 4888, 4955, 4957, 4960,
   4992, 5008, 5121, 5741, 5743, 5760, 5761, 5787, 5792, 5867, 5873, 5881, 5888, 5910, 5919, 5941,
   5952, 5972, 5984, 5997, 5998, 6001, 6002, 6004, 6016, 6068, 6070, 6100, 6103, 6104, 6108, 6110,
   6112, 6122, 6160, 6170, 6176, 6265, 6272, 6315, 6320, 6390, 6400, 6431, 6432, 6444, 6448, 6460,
   6470, 6510, 6512, 6517, 6528, 6572, 6576, 6602, 6608, 6618, 6656, 6684, 6688, 6751, 6752, 6781,
   6783, 6794, 6800, 6810, 6823, 6824, 6832, 6846, 6847, 6863, 6912, 6989, 6992, 7002, 7019, 7028,
   7040, 7156, 7168, 7224, 7232, 7242, 7245, 7294, 7312, 7355, 7357, 7360, 7376, 7379, 7380, 7419,
   7424, 7468, 7471, 7472, 7483, 7484, 7502, 7503, 7531, 7544, 7545, 7579, 7616, 7834, 7836, 7958,
   7960, 7966, 7968, 8006, 8008, 8014, 8016, 8024, 8025, 8026, 8027, 8028, 8029, 8030, 8031, 8049,
   8050, 8051, 8052, 8053, 8054, 8055, 8056, 8057, 8058, 8059, 8060, 8061, 8112, 8114, 8118, 8119,
   8120, 8123, 8134, 8135, 8136, 8137, 8138, 8139, 8144, 8147, 8150, 8155, 8160, 8163, 8164, 8171,
   8172, 8173, 8182, 8183, 8184, 8185, 8186, 8187, 8486, 8487, 8490, 8492, 8498, 8499, 8526, 8527,
   8579, 8581, 11264, 11388, 11390, 11493, 11499, 11508, 11520, 11558, 11559, 11560, 11565, 11566,
   11568, 11624, 11647, 11671, 11680, 11687, 11688, 11695, 11696, 11703, 11704, 11711, 11712, 11719,
   11720, 11727, 11728, 11735, 11736, 11743, 11744, 11776, 11823, 11824, 12293, 12296, 12330, 12334,
   12348, 12349, 12353, 12439, 12441, 12443, 12445, 12447, 12449, 12539, 12540, 12543, 12549, 12592,
   12704, 12736, 12784, 12800, 13312, 19904, 19968, 42125, 42192, 42238, 42240, 42509, 42512, 42540,
   42560, 42608, 42612, 42622, 42623, 42652, 42654, 42726, 42736, 42738, 42775, 42784, 42786, 42864,
   42865, 42889, 42891, 42955, 42960, 42962, 42963, 42964, 42965, 42970, 42997, 43000, 43002, 43048,
   43052, 43053, 43072, 43124, 43136, 43206, 43216, 43226, 43232, 43256, 43259, 43260, 43261, 43310,
   43312, 43348, 43392, 43457, 43471, 43482, 43488, 43519, 43520, 43575, 43584, 43598, 43600, 43610,
   43616, 43639, 43642, 43715, 43739, 43742, 43744, 43760, 43762, 43767, 43777, 43783, 43785, 43791,
   43793, 43799, 43808, 43815, 43816, 43823, 43824, 43867, 43872, 43881, 43968, 44011, 44012, 44014,
   44016, 44026, 44032, 55204, 64014, 64016, 64017, 64018, 64019, 64021, 64031, 64032, 64033, 64034,
   64035, 64037, 64039, 64042, 64286, 64287, 65056, 65072, 65139, 65140]

/-- The boundaries of letters of names from U+10000 on. -/
def letterFlipsToEnd : List Nat :=
  [65536, 65548, 65549, 65575, 65576, 65595, 65596, 65598, 65599, 65614, 65616, 65630, 65664, 65787,
   66045, 66046, 66176, 66205, 66208, 66257, 66272, 66273, 66304, 66336, 66349, 66369, 66370, 66378,
   66384, 66427, 66432, 66462, 66464, 66500, 66504, 66512, 66560, 66718, 66720, 66730, 66736, 66772,
   66776, 66812, 66816, 66856, 66864, 66916, 66928, 66939, 66940, 66955, 66956, 66963, 66964, 66966,
   66967, 66978, 66979, 66994, 66995, 67002, 67003, 67005, 67072, 67383, 67392, 67414, 67424, 67432,
   67456, 67457, 67584, 67590, 67592, 67593, 67594, 67638, 67639, 67641, 67644, 67645, 67647, 67670,
   67680, 67703, 67712, 67743, 67808, 67827, 67828, 67830, 67840, 67862, 67872, 67898, 67968, 68024,
   68030, 68032, 68096, 68100, 68101, 68103, 68108, 68116, 68117, 68120, 68121, 68150, 68152, 68155,
   68159, 68160, 68192, 68221, 68224, 68253, 68288, 68296, 68297, 68327, 68352, 68406, 68416, 68438,
   68448, 68467, 68480, 68498, 68608, 68681, 68736, 68787, 68800, 68851, 68864, 68904, 68912, 68922,
   69248, 69290, 69291, 69293, 69296, 69298, 69376, 69405, 69415, 69416, 69424, 69457, 69488, 69510,
   69552, 69573, 69600, 69623, 69632, 69703, 69734, 69750, 69759, 69819, 69826, 69827, 69840, 69865,
   69872, 69882, 69888, 69941, 69942, 69952, 69956, 69960, 69968, 70004, 70006, 70007, 70016, 70085,
   70089, 70093, 70094, 70107, 70108, 70109, 70144, 70162, 70163, 70200, 70206, 70207, 70272, 70279,
   70280, 70281, 70282, 70286, 70287, 70302, 70303, 70313, 70320, 70379, 70384, 70394, 70400, 70404,
   70405, 70413, 70415, 70417, 70419, 70441, 70442, 70449, 70450, 70452, 70453, 70458, 70459, 70469,
   70471, 70473, 70475, 70478, 70480, 70481, 70487, 70488, 70493, 70500, 70502, 70509, 70512, 70517,
   70656, 70731, 70736, 70746, 70750, 70754, 70784, 70854, 70855, 70856, 70864, 70874, 71040, 71094,
   71096, 71105, 71128, 71134, 71168, 71233, 71236, 71237, 71248, 71258, 71296, 71353, 71360, 71370,
   71424, 71451, 71453, 71468, 71472, 71482, 71488, 71495, 71680, 71739, 71840, 71914, 71935, 71943,
   71945, 71946, 71948, 71956, 71957, 71959, 71960, 71990, 71991, 71993, 71995, 72004, 72016, 72026,
   72096, 72104, 72106, 72152, 72154, 72162, 72163, 72165, 72192, 72255, 72263, 72264, 72272, 72346,
   72349, 72350, 72368, 72441, 72704, 72713, 72714, 72759, 72760, 72769, 72784, 72794, 72818, 72848,
   72850, 72872, 72873, 72887, 72960, 72967, 72968, 72970, 72971, 73015, 73018, 73019, 73020, 73022,
   73023, 73032, 73040, 73050, 73056, 73062, 73063, 73065, 73066, 73103, 73104, 73106, 73107, 73113,
   73120, 73130, 73440, 73463, 73648, 73649, 73728, 74650, 74880, 75076, 77712, 77809, 77824, 78895,
   82944, 83527, 92160, 92729, 92736, 92767, 92768, 92778, 92784, 92863, 92864, 92874, 92880, 92910,
   92912, 92917, 92928, 92983, 92992, 92996, 93008, 93018, 93027, 93048, 93053, 93072, 93760, 93824,
   93952, 94027, 94031, 94088, 94095, 94112, 94176, 94178, 94179, 94181, 94192, 94194, 94208,
   100344, 100352, 101590, 101632, 101641, 110576, 110580, 110581, 110588, 110589, 110591, 110592,
   110883, 110928, 110931, 110948, 110952, 110960, 111356, 113664, 113771, 113776, 113789, 113792,
   113801, 113808, 113818, 113821, 113823, 118528, 118574, 118576, 118599, 121344, 121399, 121403,
   121453, 121461, 121462, 121476, 121477, 121499, 121504, 121505, 121520, 122624, 122655, 122880,
   122887, 122888, 122905, 122907, 122914, 122915, 122917, 122918, 122923, 123136, 123181, 123184,
   123198, 123200, 123210, 123214, 123215, 123536, 123567, 123584, 123642, 124896, 124903, 124904,
   124908, 124909, 124911, 124912, 124927, 124928, 125125, 125136, 125143, 125184, 125260, 125264,
   125274, 131072, 173792, 173824, 177977, 177984, 178206, 178208, 183970, 183984, 191457, 196608,
   201547]

/-- The boundaries of letters that are written from right to left. -/
def rightToLeftFlips : List Nat :=
  [1488, 1515, 1519, 1525, 1568, 1600, 1601, 1611, 1646, 1648, 1649, 1653, 1657, 1748, 1749, 1750,
   1765, 1767, 1774, 1776, 1786, 1792, 1808, 1809, 1810, 1840, 1869, 1958, 1969, 1970, 1984, 2027,
   2036, 2038, 2048, 2070, 2074, 2075, 2084, 2085, 2088, 2089, 2112, 2137, 2144, 2155, 2160, 2184,
   2185, 2191, 2208, 2250, 65139, 65140, 67584, 67590, 67592, 67593, 67594, 67638, 67639, 67641,
   67644, 67645, 67647, 67670, 67680, 67703, 67712, 67743, 67808, 67827, 67828, 67830, 67840, 67862,
   67872, 67898, 67968, 68024, 68030, 68032, 68096, 68097, 68112, 68116, 68117, 68120, 68121, 68150,
   68192, 68221, 68224, 68253, 68288, 68296, 68297, 68325, 68352, 68406, 68416, 68438, 68448, 68467,
   68480, 68498, 68608, 68681, 68736, 68787, 68800, 68851, 68864, 68900, 69248, 69290, 69296, 69298,
   69376, 69405, 69415, 69416, 69424, 69446, 69488, 69506, 69552, 69573, 69600, 69623, 124928,
   125125, 125184, 125252, 125259, 125260, 125264, 125274]

/-- The boundaries of letters that join the letter behind them. -/
def leftJoiningFlips : List Nat :=
  [1568, 1569, 1574, 1575, 1576, 1577, 1578, 1583, 1587, 1600, 1601, 1608, 1609, 1611, 1646, 1648,
   1657, 1672, 1690, 1728, 1729, 1731, 1740, 1741, 1742, 1743, 1744, 1746, 1786, 1789, 1791, 1792,
   1810, 1813, 1818, 1822, 1823, 1832, 1833, 1834, 1835, 1836, 1837, 1839, 1870, 1881, 1884, 1899,
   1901, 1905, 1906, 1907, 1909, 1912, 1914, 1920, 1994, 2027, 2113, 2118, 2120, 2121, 2122, 2132,
   2133, 2134, 2144, 2145, 2146, 2150, 2152, 2153, 2182, 2183, 2185, 2190, 2208, 2218, 2223, 2225,
   2227, 2233, 2234, 2249, 6176, 6265, 6279, 6313, 6314, 6315, 43072, 43123, 68288, 68293, 68301,
   68302, 68307, 68317, 68318, 68321, 68480, 68481, 68482, 68483, 68486, 68489, 68490, 68492, 68493,
   68494, 68496, 68497, 68864, 68898, 68899, 68900, 69424, 69427, 69428, 69445, 69488, 69492, 69494,
   69506, 69552, 69553, 69554, 69556, 69560, 69561, 69563, 69565, 69566, 69568, 69569, 69570, 69572,
   69573, 125184, 125252]

/-- The boundaries of letters that join the letter in front of them. -/
def rightJoiningFlips : List Nat :=
  [1568, 1569, 1570, 1600, 1601, 1611, 1646, 1648, 1649, 1652, 1657, 1748, 1749, 1750, 1774, 1776,
   1786, 1789, 1791, 1792, 1808, 1809, 1810, 1840, 1869, 1920, 1994, 2027, 2112, 2137, 2144, 2145,
   2146, 2150, 2151, 2155, 2160, 2179, 2182, 2183, 2185, 2191, 2208, 2221, 2222, 2249, 6176, 6265,
   6279, 6313, 6314, 6315, 43072, 43122, 68288, 68294, 68295, 68296, 68297, 68299, 68302, 68311,
   68312, 68322, 68324, 68325, 68480, 68498, 68865, 68900, 69424, 69445, 69488, 69506, 69552, 69553,
   69554, 69559, 69560, 69568, 69569, 69573, 125184, 125252]

/-- The boundaries of Greek characters. -/
def greekFlips : List Nat :=
  [880, 884, 885, 888, 890, 894, 895, 896, 900, 901, 902, 903, 904, 907, 908, 909, 910, 930, 931,
   994, 1008, 1024, 7462, 7467, 7517, 7522, 7526, 7531, 7615, 7616, 7936, 7958, 7960, 7966, 7968,
   8006, 8008, 8014, 8016, 8024, 8025, 8026, 8027, 8028, 8029, 8030, 8031, 8062, 8064, 8117, 8118,
   8133, 8134, 8148, 8150, 8156, 8157, 8176, 8178, 8181, 8182, 8191, 8486, 8487, 43877, 43878,
   65856, 65935, 65952, 65953, 119296, 119366]

/-- The boundaries of Hebrew characters. -/
def hebrewFlips : List Nat :=
  [1425, 1480, 1488, 1515, 1519, 1525, 64285, 64311, 64312, 64317, 64318, 64319, 64320, 64322,
   64323, 64325, 64326, 64336]

/-- The boundaries of the characters of kana and of Han characters. -/
def japaneseFlips : List Nat :=
  [11904, 11930, 11931, 12020, 12032, 12246, 12293, 12294, 12295, 12296, 12321, 12330, 12344, 12348,
   12353, 12439, 12445, 12448, 12449, 12539, 12541, 12544, 12784, 12800, 13008, 13055, 13056, 13144,
   13312, 19904, 19968, 40960, 63744, 64110, 64112, 64218, 65382, 65392, 65393, 65438, 94178, 94180,
   94192, 94194, 110576, 110580, 110581, 110588, 110589, 110591, 110592, 110883, 110898, 110899,
   110928, 110931, 110933, 110934, 110948, 110952, 127488, 127489, 131072, 173792, 173824, 177978,
   177984, 178206, 178208, 183970, 183984, 191457, 191472, 192094, 194560, 195102, 196608, 201547,
   201552, 205744]

/-- Whether a character is a letter of names. -/
def isNameLetter (c : Char) : Bool :=
  let n := c.toNat
  (boundariesUpTo n letterFlipsTo0FFF + boundariesUpTo n letterFlipsToFFFF +
    boundariesUpTo n letterFlipsToEnd) % 2 == 1

/-- Whether a character is written from right to left. -/
def isRightToLeft (c : Char) : Bool := liesIn rightToLeftFlips c.toNat

/-- Whether a character joins the one behind it. -/
def joinsNext (c : Char) : Bool := liesIn leftJoiningFlips c.toNat

/-- Whether a character joins the one in front of it. -/
def joinsPrevious (c : Char) : Bool := liesIn rightJoiningFlips c.toNat

/-- Whether a character is Greek. -/
def isGreek (c : Char) : Bool := liesIn greekFlips c.toNat

/-- Whether a character is Hebrew. -/
def isHebrew (c : Char) : Bool := liesIn hebrewFlips c.toNat

/-- Whether a character belongs to kana or is a Han character. -/
def isJapanese (c : Char) : Bool := liesIn japaneseFlips c.toNat

end Gridwalk.Text
