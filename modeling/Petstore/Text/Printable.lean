/-!
# Printable characters

Classes of characters that do not show as themselves. The two large ones are Unicode classes, given
as tables of boundaries: an ascending list of code points at which membership changes, beginning
outside. A code point is a member when an odd number of boundaries lie at or below it.

* *Unprintable*: the general categories `Cc`, `Cf`, `Cs`, `Co`, `Cn`, `Zl`, `Zp` and `Zs`, the
  space apart.
* *Extending*: the property `Grapheme_Extend`, marks that join the character before them. The two
  halfwidth sound marks U+FF9E and U+FF9F are left out: they are letters and take a place of their
  own.
* *Fillers*: the letters with the property `Default_Ignorable_Code_Point`, which stand for a
  missing part of a syllable and are drawn as nothing.
-/

namespace Petstore.Text

/-- Membership in a class given by its boundaries. -/
def withinBoundaries : List Nat → Nat → Bool
  | [], _ => false
  | b :: bs, n => if n < b then false else !withinBoundaries bs n

/-- The boundaries of the unprintable characters. -/
def unprintableBoundaries : List Nat := [
  0, 32, 127, 161, 173, 174, 888, 890, 896, 900, 907, 908, 909, 910, 930, 931, 1328, 1329, 1367,
  1369, 1419, 1421, 1424, 1425, 1480, 1488, 1515, 1519, 1525, 1542, 1564, 1565, 1757, 1758, 1806,
  1808, 1867, 1869, 1970, 1984, 2043, 2045, 2094, 2096, 2111, 2112, 2140, 2142, 2143, 2144, 2155,
  2160, 2192, 2199, 2274, 2275, 2436, 2437, 2445, 2447, 2449, 2451, 2473, 2474, 2481, 2482, 2483,
  2486, 2490, 2492, 2501, 2503, 2505, 2507, 2511, 2519, 2520, 2524, 2526, 2527, 2532, 2534, 2559,
  2561, 2564, 2565, 2571, 2575, 2577, 2579, 2601, 2602, 2609, 2610, 2612, 2613, 2615, 2616, 2618,
  2620, 2621, 2622, 2627, 2631, 2633, 2635, 2638, 2641, 2642, 2649, 2653, 2654, 2655, 2662, 2679,
  2689, 2692, 2693, 2702, 2703, 2706, 2707, 2729, 2730, 2737, 2738, 2740, 2741, 2746, 2748, 2758,
  2759, 2762, 2763, 2766, 2768, 2769, 2784, 2788, 2790, 2802, 2809, 2816, 2817, 2820, 2821, 2829,
  2831, 2833, 2835, 2857, 2858, 2865, 2866, 2868, 2869, 2874, 2876, 2885, 2887, 2889, 2891, 2894,
  2901, 2904, 2908, 2910, 2911, 2916, 2918, 2936, 2946, 2948, 2949, 2955, 2958, 2961, 2962, 2966,
  2969, 2971, 2972, 2973, 2974, 2976, 2979, 2981, 2984, 2987, 2990, 3002, 3006, 3011, 3014, 3017,
  3018, 3022, 3024, 3025, 3031, 3032, 3046, 3067, 3072, 3085, 3086, 3089, 3090, 3113, 3114, 3130,
  3132, 3141, 3142, 3145, 3146, 3150, 3157, 3159, 3160, 3163, 3164, 3166, 3168, 3172, 3174, 3184,
  3191, 3213, 3214, 3217, 3218, 3241, 3242, 3252, 3253, 3258, 3260, 3269, 3270, 3273, 3274, 3278,
  3285, 3287, 3292, 3295, 3296, 3300, 3302, 3312, 3313, 3316, 3328, 3341, 3342, 3345, 3346, 3397,
  3398, 3401, 3402, 3408, 3412, 3428, 3430, 3456, 3457, 3460, 3461, 3479, 3482, 3506, 3507, 3516,
  3517, 3518, 3520, 3527, 3530, 3531, 3535, 3541, 3542, 3543, 3544, 3552, 3558, 3568, 3570, 3573,
  3585, 3643, 3647, 3676, 3713, 3715, 3716, 3717, 3718, 3723, 3724, 3748, 3749, 3750, 3751, 3774,
  3776, 3781, 3782, 3783, 3784, 3791, 3792, 3802, 3804, 3808, 3840, 3912, 3913, 3949, 3953, 3992,
  3993, 4029, 4030, 4045, 4046, 4059, 4096, 4294, 4295, 4296, 4301, 4302, 4304, 4681, 4682, 4686,
  4688, 4695, 4696, 4697, 4698, 4702, 4704, 4745, 4746, 4750, 4752, 4785, 4786, 4790, 4792, 4799,
  4800, 4801, 4802, 4806, 4808, 4823, 4824, 4881, 4882, 4886, 4888, 4955, 4957, 4989, 4992, 5018,
  5024, 5110, 5112, 5118, 5120, 5760, 5761, 5789, 5792, 5881, 5888, 5910, 5919, 5943, 5952, 5972,
  5984, 5997, 5998, 6001, 6002, 6004, 6016, 6110, 6112, 6122, 6128, 6138, 6144, 6158, 6159, 6170,
  6176, 6265, 6272, 6315, 6320, 6390, 6400, 6431, 6432, 6444, 6448, 6460, 6464, 6465, 6468, 6510,
  6512, 6517, 6528, 6572, 6576, 6602, 6608, 6619, 6622, 6684, 6686, 6751, 6752, 6781, 6783, 6794,
  6800, 6810, 6816, 6830, 6832, 6878, 6880, 6892, 6912, 6989, 6990, 7156, 7164, 7224, 7227, 7242,
  7245, 7307, 7312, 7355, 7357, 7368, 7376, 7419, 7424, 7958, 7960, 7966, 7968, 8006, 8008, 8014,
  8016, 8024, 8025, 8026, 8027, 8028, 8029, 8030, 8031, 8062, 8064, 8117, 8118, 8133, 8134, 8148,
  8150, 8156, 8157, 8176, 8178, 8181, 8182, 8191, 8208, 8232, 8240, 8287, 8304, 8306, 8308, 8335,
  8336, 8349, 8352, 8386, 8400, 8433, 8448, 8588, 8592, 9258, 9280, 9291, 9312, 11124, 11126, 11508,
  11513, 11558, 11559, 11560, 11565, 11566, 11568, 11624, 11631, 11633, 11647, 11671, 11680, 11687,
  11688, 11695, 11696, 11703, 11704, 11711, 11712, 11719, 11720, 11727, 11728, 11735, 11736, 11743,
  11744, 11870, 11904, 11930, 11931, 12020, 12032, 12246, 12272, 12288, 12289, 12352, 12353, 12439,
  12441, 12544, 12549, 12592, 12593, 12687, 12688, 12774, 12783, 12831, 12832, 42125, 42128, 42183,
  42192, 42540, 42560, 42744, 42752, 42973, 42993, 43053, 43056, 43066, 43072, 43128, 43136, 43206,
  43214, 43226, 43232, 43348, 43359, 43389, 43392, 43470, 43471, 43482, 43486, 43519, 43520, 43575,
  43584, 43598, 43600, 43610, 43612, 43715, 43739, 43767, 43777, 43783, 43785, 43791, 43793, 43799,
  43808, 43815, 43816, 43823, 43824, 43884, 43888, 44014, 44016, 44026, 44032, 55204, 55216, 55239,
  55243, 55292, 63744, 64110, 64112, 64218, 64256, 64263, 64275, 64280, 64285, 64311, 64312, 64317,
  64318, 64319, 64320, 64322, 64323, 64325, 64326, 64976, 65008, 65050, 65056, 65107, 65108, 65127,
  65128, 65132, 65136, 65141, 65142, 65277, 65281, 65471, 65474, 65480, 65482, 65488, 65490, 65496,
  65498, 65501, 65504, 65511, 65512, 65519, 65532, 65534, 65536, 65548, 65549, 65575, 65576, 65595,
  65596, 65598, 65599, 65614, 65616, 65630, 65664, 65787, 65792, 65795, 65799, 65844, 65847, 65935,
  65936, 65949, 65952, 65953, 66000, 66046, 66176, 66205, 66208, 66257, 66272, 66300, 66304, 66340,
  66349, 66379, 66384, 66427, 66432, 66462, 66463, 66500, 66504, 66518, 66560, 66718, 66720, 66730,
  66736, 66772, 66776, 66812, 66816, 66856, 66864, 66916, 66927, 66939, 66940, 66955, 66956, 66963,
  66964, 66966, 66967, 66978, 66979, 66994, 66995, 67002, 67003, 67005, 67008, 67060, 67072, 67383,
  67392, 67414, 67424, 67432, 67456, 67462, 67463, 67505, 67506, 67515, 67584, 67590, 67592, 67593,
  67594, 67638, 67639, 67641, 67644, 67645, 67647, 67670, 67671, 67743, 67751, 67760, 67808, 67827,
  67828, 67830, 67835, 67868, 67871, 67898, 67903, 67930, 67968, 68024, 68028, 68048, 68050, 68100,
  68101, 68103, 68108, 68116, 68117, 68120, 68121, 68150, 68152, 68155, 68159, 68169, 68176, 68185,
  68192, 68256, 68288, 68327, 68331, 68343, 68352, 68406, 68409, 68438, 68440, 68467, 68472, 68498,
  68505, 68509, 68521, 68528, 68608, 68681, 68736, 68787, 68800, 68851, 68858, 68904, 68912, 68922,
  68928, 68966, 68969, 68998, 69006, 69008, 69216, 69247, 69248, 69290, 69291, 69294, 69296, 69298,
  69314, 69320, 69328, 69337, 69370, 69416, 69424, 69466, 69488, 69514, 69552, 69580, 69600, 69623,
  69632, 69710, 69714, 69750, 69759, 69821, 69822, 69827, 69840, 69865, 69872, 69882, 69888, 69941,
  69942, 69960, 69968, 70007, 70016, 70112, 70113, 70133, 70144, 70162, 70163, 70210, 70272, 70279,
  70280, 70281, 70282, 70286, 70287, 70302, 70303, 70314, 70320, 70379, 70384, 70394, 70400, 70404,
  70405, 70413, 70415, 70417, 70419, 70441, 70442, 70449, 70450, 70452, 70453, 70458, 70459, 70469,
  70471, 70473, 70475, 70478, 70480, 70481, 70487, 70488, 70493, 70500, 70502, 70509, 70512, 70517,
  70528, 70538, 70539, 70540, 70542, 70543, 70544, 70582, 70583, 70593, 70594, 70595, 70597, 70598,
  70599, 70603, 70604, 70614, 70615, 70617, 70625, 70627, 70656, 70748, 70749, 70754, 70784, 70856,
  70864, 70874, 71040, 71094, 71096, 71134, 71168, 71237, 71248, 71258, 71264, 71277, 71296, 71354,
  71360, 71370, 71376, 71396, 71424, 71451, 71453, 71468, 71472, 71495, 71680, 71740, 71840, 71923,
  71935, 71943, 71945, 71946, 71948, 71956, 71957, 71959, 71960, 71990, 71991, 71993, 71995, 72007,
  72016, 72026, 72096, 72104, 72106, 72152, 72154, 72165, 72192, 72264, 72272, 72355, 72368, 72441,
  72448, 72458, 72544, 72552, 72640, 72674, 72688, 72698, 72704, 72713, 72714, 72759, 72760, 72774,
  72784, 72813, 72816, 72848, 72850, 72872, 72873, 72887, 72960, 72967, 72968, 72970, 72971, 73015,
  73018, 73019, 73020, 73022, 73023, 73032, 73040, 73050, 73056, 73062, 73063, 73065, 73066, 73103,
  73104, 73106, 73107, 73113, 73120, 73130, 73136, 73180, 73184, 73194, 73440, 73465, 73472, 73489,
  73490, 73531, 73534, 73563, 73648, 73649, 73664, 73714, 73727, 74650, 74752, 74863, 74864, 74869,
  74880, 75076, 77712, 77811, 77824, 78896, 78912, 78934, 78944, 82939, 82944, 83527, 90368, 90426,
  92160, 92729, 92736, 92767, 92768, 92778, 92782, 92863, 92864, 92874, 92880, 92910, 92912, 92918,
  92928, 92998, 93008, 93018, 93019, 93026, 93027, 93048, 93053, 93072, 93504, 93562, 93760, 93851,
  93856, 93881, 93883, 93908, 93952, 94027, 94031, 94088, 94095, 94112, 94176, 94181, 94192, 94199,
  94208, 101590, 101631, 101663, 101760, 101875, 110576, 110580, 110581, 110588, 110589, 110591,
  110592, 110883, 110898, 110899, 110928, 110931, 110933, 110934, 110948, 110952, 110960, 111356,
  113664, 113771, 113776, 113789, 113792, 113801, 113808, 113818, 113820, 113824, 117760, 118013,
  118016, 118452, 118458, 118481, 118496, 118513, 118528, 118574, 118576, 118599, 118608, 118724,
  118784, 119030, 119040, 119079, 119081, 119155, 119163, 119275, 119296, 119366, 119488, 119508,
  119520, 119540, 119552, 119639, 119648, 119673, 119808, 119893, 119894, 119965, 119966, 119968,
  119970, 119971, 119973, 119975, 119977, 119981, 119982, 119994, 119995, 119996, 119997, 120004,
  120005, 120070, 120071, 120075, 120077, 120085, 120086, 120093, 120094, 120122, 120123, 120127,
  120128, 120133, 120134, 120135, 120138, 120145, 120146, 120486, 120488, 120780, 120782, 121484,
  121499, 121504, 121505, 121520, 122624, 122655, 122661, 122667, 122880, 122887, 122888, 122905,
  122907, 122914, 122915, 122917, 122918, 122923, 122928, 122990, 123023, 123024, 123136, 123181,
  123184, 123198, 123200, 123210, 123214, 123216, 123536, 123567, 123584, 123642, 123647, 123648,
  124112, 124154, 124368, 124411, 124415, 124416, 124608, 124639, 124640, 124662, 124670, 124672,
  124896, 124903, 124904, 124908, 124909, 124911, 124912, 124927, 124928, 125125, 125127, 125143,
  125184, 125260, 125264, 125274, 125278, 125280, 126065, 126133, 126209, 126270, 126464, 126468,
  126469, 126496, 126497, 126499, 126500, 126501, 126503, 126504, 126505, 126515, 126516, 126520,
  126521, 126522, 126523, 126524, 126530, 126531, 126535, 126536, 126537, 126538, 126539, 126540,
  126541, 126544, 126545, 126547, 126548, 126549, 126551, 126552, 126553, 126554, 126555, 126556,
  126557, 126558, 126559, 126560, 126561, 126563, 126564, 126565, 126567, 126571, 126572, 126579,
  126580, 126584, 126585, 126589, 126590, 126591, 126592, 126602, 126603, 126620, 126625, 126628,
  126629, 126634, 126635, 126652, 126704, 126706, 126976, 127020, 127024, 127124, 127136, 127151,
  127153, 127168, 127169, 127184, 127185, 127222, 127232, 127406, 127462, 127491, 127504, 127548,
  127552, 127561, 127568, 127570, 127584, 127590, 127744, 128729, 128732, 128749, 128752, 128765,
  128768, 128986, 128992, 129004, 129008, 129009, 129024, 129036, 129040, 129096, 129104, 129114,
  129120, 129160, 129168, 129198, 129200, 129212, 129216, 129218, 129232, 129241, 129280, 129624,
  129632, 129646, 129648, 129661, 129664, 129675, 129678, 129735, 129736, 129737, 129741, 129757,
  129759, 129771, 129775, 129785, 129792, 129939, 129940, 130043, 131072, 173792, 173824, 178206,
  178208, 183982, 183984, 191457, 191472, 192094, 194560, 195102, 196608, 201547, 201552, 210042,
  917760, 918000, 1114112]

/-- The boundaries of the extending characters. -/
def extendingBoundaries : List Nat := [
  768, 880, 1155, 1162, 1425, 1470, 1471, 1472, 1473, 1475, 1476, 1478, 1479, 1480, 1552, 1563,
  1611, 1632, 1648, 1649, 1750, 1757, 1759, 1765, 1767, 1769, 1770, 1774, 1809, 1810, 1840, 1867,
  1958, 1969, 2027, 2036, 2045, 2046, 2070, 2074, 2075, 2084, 2085, 2088, 2089, 2094, 2137, 2140,
  2199, 2208, 2250, 2274, 2275, 2307, 2362, 2363, 2364, 2365, 2369, 2377, 2381, 2382, 2385, 2392,
  2402, 2404, 2433, 2434, 2492, 2493, 2494, 2495, 2497, 2501, 2509, 2510, 2519, 2520, 2530, 2532,
  2558, 2559, 2561, 2563, 2620, 2621, 2625, 2627, 2631, 2633, 2635, 2638, 2641, 2642, 2672, 2674,
  2677, 2678, 2689, 2691, 2748, 2749, 2753, 2758, 2759, 2761, 2765, 2766, 2786, 2788, 2810, 2816,
  2817, 2818, 2876, 2877, 2878, 2880, 2881, 2885, 2893, 2894, 2901, 2904, 2914, 2916, 2946, 2947,
  3006, 3007, 3008, 3009, 3021, 3022, 3031, 3032, 3072, 3073, 3076, 3077, 3132, 3133, 3134, 3137,
  3142, 3145, 3146, 3150, 3157, 3159, 3170, 3172, 3201, 3202, 3260, 3261, 3263, 3265, 3266, 3267,
  3270, 3273, 3274, 3278, 3285, 3287, 3298, 3300, 3328, 3330, 3387, 3389, 3390, 3391, 3393, 3397,
  3405, 3406, 3415, 3416, 3426, 3428, 3457, 3458, 3530, 3531, 3535, 3536, 3538, 3541, 3542, 3543,
  3551, 3552, 3633, 3634, 3636, 3643, 3655, 3663, 3761, 3762, 3764, 3773, 3784, 3791, 3864, 3866,
  3893, 3894, 3895, 3896, 3897, 3898, 3953, 3967, 3968, 3973, 3974, 3976, 3981, 3992, 3993, 4029,
  4038, 4039, 4141, 4145, 4146, 4152, 4153, 4155, 4157, 4159, 4184, 4186, 4190, 4193, 4209, 4213,
  4226, 4227, 4229, 4231, 4237, 4238, 4253, 4254, 4957, 4960, 5906, 5910, 5938, 5941, 5970, 5972,
  6002, 6004, 6068, 6070, 6071, 6078, 6086, 6087, 6089, 6100, 6109, 6110, 6155, 6158, 6159, 6160,
  6277, 6279, 6313, 6314, 6432, 6435, 6439, 6441, 6450, 6451, 6457, 6460, 6679, 6681, 6683, 6684,
  6742, 6743, 6744, 6751, 6752, 6753, 6754, 6755, 6757, 6765, 6771, 6781, 6783, 6784, 6832, 6878,
  6880, 6892, 6912, 6916, 6964, 6974, 6978, 6981, 7019, 7028, 7040, 7042, 7074, 7078, 7080, 7086,
  7142, 7143, 7144, 7146, 7149, 7150, 7151, 7156, 7212, 7220, 7222, 7224, 7376, 7379, 7380, 7393,
  7394, 7401, 7405, 7406, 7412, 7413, 7416, 7418, 7616, 7680, 8204, 8205, 8400, 8433, 11503, 11506,
  11647, 11648, 11744, 11776, 12330, 12336, 12441, 12443, 42607, 42611, 42612, 42622, 42654, 42656,
  42736, 42738, 43010, 43011, 43014, 43015, 43019, 43020, 43045, 43047, 43052, 43053, 43204, 43206,
  43232, 43250, 43263, 43264, 43302, 43310, 43335, 43346, 43347, 43348, 43392, 43395, 43443, 43444,
  43446, 43450, 43452, 43454, 43456, 43457, 43493, 43494, 43561, 43567, 43569, 43571, 43573, 43575,
  43587, 43588, 43596, 43597, 43644, 43645, 43696, 43697, 43698, 43701, 43703, 43705, 43710, 43712,
  43713, 43714, 43756, 43758, 43766, 43767, 44005, 44006, 44008, 44009, 44013, 44014, 64286, 64287,
  65024, 65040, 65056, 65072, 66045, 66046, 66272, 66273, 66422, 66427, 68097, 68100, 68101, 68103,
  68108, 68112, 68152, 68155, 68159, 68160, 68325, 68327, 68900, 68904, 68969, 68974, 69291, 69293,
  69370, 69376, 69446, 69457, 69506, 69510, 69633, 69634, 69688, 69703, 69744, 69745, 69747, 69749,
  69759, 69762, 69811, 69815, 69817, 69819, 69826, 69827, 69888, 69891, 69927, 69932, 69933, 69941,
  70003, 70004, 70016, 70018, 70070, 70079, 70080, 70081, 70089, 70093, 70095, 70096, 70191, 70194,
  70196, 70200, 70206, 70207, 70209, 70210, 70367, 70368, 70371, 70379, 70400, 70402, 70459, 70461,
  70462, 70463, 70464, 70465, 70477, 70478, 70487, 70488, 70502, 70509, 70512, 70517, 70584, 70585,
  70587, 70593, 70594, 70595, 70597, 70598, 70599, 70602, 70606, 70609, 70610, 70611, 70625, 70627,
  70712, 70720, 70722, 70725, 70726, 70727, 70750, 70751, 70832, 70833, 70835, 70841, 70842, 70843,
  70845, 70846, 70847, 70849, 70850, 70852, 71087, 71088, 71090, 71094, 71100, 71102, 71103, 71105,
  71132, 71134, 71219, 71227, 71229, 71230, 71231, 71233, 71339, 71340, 71341, 71342, 71344, 71352,
  71453, 71454, 71455, 71456, 71458, 71462, 71463, 71468, 71727, 71736, 71737, 71739, 71984, 71985,
  71995, 71999, 72003, 72004, 72148, 72152, 72154, 72156, 72160, 72161, 72193, 72203, 72243, 72249,
  72251, 72255, 72263, 72264, 72273, 72279, 72281, 72284, 72330, 72343, 72344, 72346, 72544, 72545,
  72546, 72549, 72550, 72551, 72752, 72759, 72760, 72766, 72767, 72768, 72850, 72872, 72874, 72881,
  72882, 72884, 72885, 72887, 73009, 73015, 73018, 73019, 73020, 73022, 73023, 73030, 73031, 73032,
  73104, 73106, 73109, 73110, 73111, 73112, 73459, 73461, 73472, 73474, 73526, 73531, 73536, 73539,
  73562, 73563, 78912, 78913, 78919, 78934, 90398, 90410, 90413, 90416, 92912, 92917, 92976, 92983,
  94031, 94032, 94095, 94099, 94180, 94181, 94192, 94194, 113821, 113823, 118528, 118574, 118576,
  118599, 119141, 119146, 119149, 119155, 119163, 119171, 119173, 119180, 119210, 119214, 119362,
  119365, 121344, 121399, 121403, 121453, 121461, 121462, 121476, 121477, 121499, 121504, 121505,
  121520, 122880, 122887, 122888, 122905, 122907, 122914, 122915, 122917, 122918, 122923, 123023,
  123024, 123184, 123191, 123566, 123567, 123628, 123632, 124140, 124144, 124398, 124400, 124643,
  124644, 124646, 124647, 124654, 124656, 124661, 124662, 125136, 125143, 125252, 125259, 917536,
  917632, 917760, 918000]

/-- The letters that are drawn as nothing. -/
def fillers : List Nat := [0x115F, 0x1160, 0x3164, 0xFFA0]

/-- Shows as itself: printable, no mark on the character before it, and drawn as something. -/
def isPrintable (c : Char) : Bool :=
  !withinBoundaries unprintableBoundaries c.toNat &&
    !withinBoundaries extendingBoundaries c.toNat && !fillers.contains c.toNat

end Petstore.Text
