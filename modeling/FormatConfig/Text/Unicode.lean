/-!
# Unicode character classes

Range tables for the character classes that readers of configuration files rely on:
letters, non-spacing marks, decimal digits, connector punctuation and space separators
by general category, the Diacritic, White_Space, Case_Ignorable and Cased properties,
and the simple lower-case mapping, all as Unicode 17 defines them. The tables list
inclusive ranges of code points in increasing order.

Identifiers are read by a later version of the standard, which assigns many code points
that Unicode 17 leaves open. The letter table therefore counts as a letter every code
point of the Basic and Supplementary Multilingual Planes that Unicode 17 leaves
unassigned, apart from noncharacters, reserved default-ignorable code points and the
few later non-spacing marks listed with the marks; of the ideographic planes it adds
U+2B81E to U+2B81F and the Seal block, U+3D000 to U+3FC3F.
-/

namespace FormatConfig

namespace Unicode

/-- Whether `n` lies in one of the sorted inclusive ranges, by binary search. -/
def inRanges (table : Array (Nat × Nat)) (n : Nat) : Bool :=
  go 0 table.size
where
  go (lo hi : Nat) : Bool :=
    if lo < hi then
      let mid := (lo + hi) / 2
      let r := table.getD mid (0, 0)
      if n < r.1 then go lo mid
      else if r.2 < n then go (mid + 1) hi
      else true
    else false
  termination_by hi - lo

/-- Letters and letter numbers (general categories Lu, Ll, Lt, Lm, Lo and Nl), with the
code points assigned after Unicode 17 as the module documentation describes. -/
def letterRanges : Array (Nat × Nat) :=
  #[(65, 90), (97, 122), (170, 170), (181, 181), (186, 186), (192, 214), (216, 246),
    (248, 705), (710, 721), (736, 740), (748, 748), (750, 750), (880, 884), (886, 893),
    (895, 899), (902, 902), (904, 1013), (1015, 1153), (1162, 1369), (1376, 1416),
    (1419, 1420), (1424, 1424), (1481, 1522), (1525, 1535), (1568, 1610), (1646, 1647),
    (1649, 1747), (1749, 1749), (1765, 1766), (1774, 1775), (1786, 1788), (1791, 1791),
    (1806, 1806), (1808, 1808), (1810, 1839), (1867, 1957), (1969, 1983), (1994, 2026),
    (2036, 2037), (2042, 2044), (2048, 2069), (2074, 2074), (2084, 2084), (2088, 2088),
    (2094, 2095), (2111, 2136), (2140, 2141), (2143, 2183), (2185, 2191), (2194, 2198),
    (2208, 2249), (2308, 2361), (2365, 2365), (2384, 2384), (2392, 2401), (2417, 2432),
    (2436, 2491), (2493, 2493), (2501, 2502), (2505, 2506), (2510, 2518), (2520, 2529),
    (2532, 2533), (2544, 2545), (2556, 2556), (2559, 2560), (2564, 2619), (2621, 2621),
    (2627, 2630), (2633, 2634), (2638, 2640), (2642, 2661), (2674, 2676), (2679, 2688),
    (2692, 2747), (2749, 2749), (2758, 2758), (2762, 2762), (2766, 2785), (2788, 2789),
    (2802, 2809), (2816, 2816), (2820, 2875), (2877, 2877), (2885, 2886), (2889, 2890),
    (2894, 2898), (2904, 2913), (2916, 2917), (2929, 2929), (2936, 2945), (2947, 3005),
    (3011, 3013), (3017, 3017), (3022, 3030), (3032, 3045), (3067, 3071), (3077, 3131),
    (3133, 3133), (3141, 3141), (3145, 3145), (3150, 3156), (3159, 3169), (3172, 3173),
    (3184, 3190), (3200, 3200), (3205, 3259), (3261, 3261), (3269, 3269), (3273, 3273),
    (3278, 3284), (3287, 3297), (3300, 3301), (3312, 3314), (3316, 3327), (3332, 3386),
    (3389, 3389), (3397, 3397), (3401, 3401), (3406, 3406), (3408, 3414), (3423, 3425),
    (3428, 3429), (3450, 3456), (3460, 3529), (3531, 3534), (3541, 3541), (3543, 3543),
    (3552, 3557), (3568, 3569), (3573, 3632), (3634, 3635), (3643, 3646), (3648, 3654),
    (3676, 3760), (3762, 3763), (3773, 3783), (3791, 3791), (3802, 3840), (3904, 3952),
    (3976, 3980), (3992, 3992), (4029, 4029), (4045, 4045), (4059, 4138), (4159, 4159),
    (4176, 4181), (4186, 4189), (4193, 4193), (4197, 4198), (4206, 4208), (4213, 4225),
    (4238, 4238), (4256, 4346), (4348, 4956), (4989, 5007), (5018, 5119), (5121, 5740),
    (5743, 5759), (5761, 5786), (5789, 5866), (5870, 5905), (5910, 5937), (5943, 5969),
    (5972, 6001), (6004, 6067), (6103, 6103), (6108, 6108), (6110, 6111), (6122, 6127),
    (6138, 6143), (6170, 6276), (6279, 6312), (6314, 6431), (6444, 6447), (6460, 6463),
    (6465, 6467), (6480, 6607), (6619, 6621), (6656, 6678), (6684, 6685), (6688, 6740),
    (6751, 6751), (6781, 6782), (6794, 6799), (6810, 6815), (6823, 6823), (6830, 6831),
    (6879, 6879), (6893, 6911), (6917, 6963), (6981, 6989), (7043, 7072), (7086, 7087),
    (7098, 7141), (7156, 7163), (7168, 7203), (7224, 7226), (7242, 7247), (7258, 7293),
    (7296, 7359), (7368, 7375), (7401, 7404), (7406, 7411), (7413, 7414), (7418, 7615),
    (7680, 8124), (8126, 8126), (8130, 8140), (8144, 8156), (8160, 8172), (8176, 8188),
    (8191, 8191), (8305, 8307), (8319, 8319), (8335, 8351), (8386, 8399), (8433, 8447),
    (8450, 8450), (8455, 8455), (8458, 8467), (8469, 8469), (8473, 8477), (8484, 8484),
    (8486, 8486), (8488, 8488), (8490, 8493), (8495, 8505), (8508, 8511), (8517, 8521),
    (8526, 8526), (8544, 8584), (8588, 8591), (9258, 9279), (9291, 9311), (11124, 11125),
    (11264, 11492), (11499, 11502), (11506, 11512), (11520, 11631), (11633, 11646),
    (11648, 11743), (11823, 11823), (11870, 11903), (11930, 11930), (12020, 12031),
    (12246, 12271), (12293, 12295), (12321, 12329), (12337, 12341), (12344, 12348),
    (12352, 12440), (12445, 12447), (12449, 12538), (12540, 12687), (12704, 12735),
    (12774, 12782), (12784, 12799), (12831, 12831), (13312, 19903), (19968, 42127),
    (42183, 42237), (42240, 42508), (42512, 42527), (42538, 42606), (42623, 42653),
    (42656, 42735), (42744, 42751), (42775, 42783), (42786, 42888), (42891, 43009),
    (43011, 43013), (43015, 43018), (43020, 43042), (43053, 43055), (43066, 43123),
    (43128, 43135), (43138, 43187), (43206, 43213), (43226, 43231), (43250, 43255),
    (43259, 43259), (43261, 43262), (43274, 43301), (43312, 43334), (43348, 43358),
    (43360, 43391), (43396, 43442), (43470, 43471), (43482, 43485), (43488, 43492),
    (43494, 43503), (43514, 43560), (43575, 43586), (43588, 43595), (43598, 43599),
    (43610, 43611), (43616, 43638), (43642, 43642), (43646, 43695), (43697, 43697),
    (43701, 43702), (43705, 43709), (43712, 43712), (43714, 43741), (43744, 43754),
    (43762, 43764), (43767, 43866), (43868, 43881), (43884, 44002), (44014, 44015),
    (44026, 55295), (63744, 64285), (64287, 64296), (64298, 64433), (64467, 64829),
    (64848, 64911), (64914, 64967), (65008, 65019), (65050, 65055), (65107, 65107),
    (65127, 65127), (65132, 65278), (65280, 65280), (65313, 65338), (65345, 65370),
    (65382, 65503), (65511, 65511), (65519, 65519), (65536, 65791), (65795, 65798),
    (65844, 65846), (65856, 65908), (65935, 65935), (65949, 65951), (65953, 65999),
    (66046, 66271), (66300, 66335), (66340, 66421), (66427, 66462), (66464, 66511),
    (66513, 66719), (66730, 66926), (66928, 67670), (67680, 67702), (67712, 67750),
    (67760, 67834), (67840, 67861), (67868, 67870), (67872, 67902), (67904, 68027),
    (68030, 68031), (68048, 68049), (68096, 68096), (68100, 68100), (68103, 68107),
    (68112, 68151), (68155, 68158), (68169, 68175), (68185, 68220), (68224, 68252),
    (68256, 68295), (68297, 68324), (68327, 68330), (68343, 68408), (68416, 68439),
    (68448, 68471), (68480, 68504), (68509, 68520), (68528, 68857), (68864, 68899),
    (68904, 68911), (68922, 68927), (68938, 68968), (68975, 69005), (69008, 69215),
    (69247, 69290), (69294, 69322), (69324, 69327), (69337, 69369), (69376, 69404),
    (69415, 69445), (69466, 69505), (69514, 69572), (69580, 69631), (69635, 69687),
    (69710, 69713), (69745, 69746), (69749, 69758), (69763, 69807), (69827, 69836),
    (69838, 69871), (69882, 69887), (69891, 69926), (69941, 69941), (69956, 69956),
    (69959, 70002), (70006, 70015), (70019, 70066), (70081, 70084), (70106, 70106),
    (70108, 70108), (70112, 70112), (70133, 70187), (70207, 70208), (70210, 70312),
    (70314, 70366), (70379, 70383), (70394, 70399), (70404, 70458), (70461, 70461),
    (70469, 70470), (70473, 70474), (70478, 70486), (70488, 70497), (70500, 70501),
    (70509, 70511), (70517, 70583), (70593, 70593), (70595, 70596), (70598, 70598),
    (70603, 70603), (70609, 70609), (70611, 70611), (70614, 70614), (70617, 70624),
    (70627, 70708), (70727, 70730), (70748, 70748), (70751, 70831), (70852, 70853),
    (70855, 70863), (70874, 71086), (71094, 71095), (71128, 71131), (71134, 71215),
    (71236, 71247), (71258, 71263), (71277, 71338), (71352, 71352), (71354, 71359),
    (71370, 71375), (71396, 71452), (71468, 71471), (71488, 71723), (71740, 71903),
    (71923, 71983), (71990, 71990), (71993, 71994), (71999, 71999), (72001, 72001),
    (72007, 72015), (72026, 72144), (72152, 72153), (72161, 72161), (72163, 72163),
    (72165, 72192), (72203, 72242), (72250, 72250), (72264, 72272), (72284, 72329),
    (72349, 72349), (72355, 72447), (72458, 72543), (72552, 72672), (72674, 72687),
    (72698, 72750), (72759, 72759), (72768, 72768), (72774, 72783), (72813, 72815),
    (72818, 72849), (72872, 72872), (72887, 73008), (73015, 73017), (73019, 73019),
    (73022, 73022), (73030, 73030), (73032, 73039), (73050, 73097), (73103, 73103),
    (73106, 73106), (73112, 73119), (73130, 73183), (73194, 73199), (73201, 73458),
    (73465, 73471), (73474, 73474), (73476, 73523), (73531, 73533), (73563, 73663),
    (73714, 73726), (73728, 74863), (74869, 77808), (77811, 78895), (78913, 78918),
    (78934, 90397), (90426, 92767), (92778, 92781), (92784, 92863), (92874, 92911),
    (92918, 92975), (92992, 92995), (92998, 93007), (93018, 93018), (93026, 93548),
    (93562, 93823), (93851, 94030), (94032, 94032), (94088, 94094), (94099, 94177),
    (94179, 94179), (94181, 94191), (94194, 113819), (113828, 117759), (118013, 118015),
    (118452, 118457), (118481, 118495), (118513, 118527), (118574, 118575),
    (118599, 118607), (118724, 118783), (119030, 119039), (119275, 119295),
    (119366, 119375), (119378, 119386), (119388, 119487), (119508, 119519),
    (119540, 119551), (119639, 119647), (119673, 120512), (120514, 120538),
    (120540, 120570), (120572, 120596), (120598, 120628), (120630, 120654),
    (120656, 120686), (120688, 120712), (120714, 120744), (120746, 120770),
    (120772, 120781), (121484, 121498), (121504, 121504), (121520, 122879),
    (122887, 122887), (122905, 122906), (122914, 122914), (122917, 122917),
    (122923, 123022), (123024, 123183), (123191, 123199), (123210, 123214),
    (123216, 123565), (123567, 123627), (123642, 123646), (123648, 124139),
    (124154, 124397), (124400, 124400), (124411, 124414), (124416, 124642),
    (124644, 124645), (124647, 124653), (124656, 124660), (124662, 125126),
    (125143, 125251), (125259, 125263), (125274, 125277), (125280, 126064),
    (126133, 126208), (126270, 126703), (126706, 126975), (127020, 127023),
    (127124, 127135), (127151, 127152), (127168, 127168), (127184, 127184),
    (127222, 127231), (127406, 127461), (127491, 127503), (127548, 127551),
    (127561, 127567), (127570, 127583), (127590, 127743), (128729, 128731),
    (128749, 128751), (128765, 128767), (128986, 128991), (129004, 129007),
    (129009, 129023), (129036, 129039), (129096, 129103), (129114, 129119),
    (129160, 129167), (129198, 129199), (129212, 129215), (129218, 129231),
    (129241, 129279), (129624, 129631), (129646, 129647), (129661, 129663),
    (129675, 129677), (129735, 129735), (129737, 129740), (129757, 129758),
    (129771, 129774), (129785, 129791), (129939, 129939), (130043, 131069),
    (131072, 173791), (173824, 183981), (183984, 191456), (191472, 192093),
    (194560, 195101), (196608, 201546), (201552, 210041), (249856, 261183)]

/-- Non-spacing marks (general category Mn), with the later marks U+05C8, U+0B53 to U+0B54,
U+1ADE, U+1AEC, U+10ECB, U+11DF0, U+1D127 to U+1D128, U+1D250 to U+1D251 and U+1D25B. -/
def nonspacingMarkRanges : Array (Nat × Nat) :=
  #[(768, 879), (1155, 1159), (1425, 1469), (1471, 1471), (1473, 1474), (1476, 1477),
    (1479, 1480), (1552, 1562), (1611, 1631), (1648, 1648), (1750, 1756), (1759, 1764),
    (1767, 1768), (1770, 1773), (1809, 1809), (1840, 1866), (1958, 1968), (2027, 2035),
    (2045, 2045), (2070, 2073), (2075, 2083), (2085, 2087), (2089, 2093), (2137, 2139),
    (2199, 2207), (2250, 2273), (2275, 2306), (2362, 2362), (2364, 2364), (2369, 2376),
    (2381, 2381), (2385, 2391), (2402, 2403), (2433, 2433), (2492, 2492), (2497, 2500),
    (2509, 2509), (2530, 2531), (2558, 2558), (2561, 2562), (2620, 2620), (2625, 2626),
    (2631, 2632), (2635, 2637), (2641, 2641), (2672, 2673), (2677, 2677), (2689, 2690),
    (2748, 2748), (2753, 2757), (2759, 2760), (2765, 2765), (2786, 2787), (2810, 2815),
    (2817, 2817), (2876, 2876), (2879, 2879), (2881, 2884), (2893, 2893), (2899, 2902),
    (2914, 2915), (2946, 2946), (3008, 3008), (3021, 3021), (3072, 3072), (3076, 3076),
    (3132, 3132), (3134, 3136), (3142, 3144), (3146, 3149), (3157, 3158), (3170, 3171),
    (3201, 3201), (3260, 3260), (3263, 3263), (3270, 3270), (3276, 3277), (3298, 3299),
    (3328, 3329), (3387, 3388), (3393, 3396), (3405, 3405), (3426, 3427), (3457, 3457),
    (3530, 3530), (3538, 3540), (3542, 3542), (3633, 3633), (3636, 3642), (3655, 3662),
    (3761, 3761), (3764, 3772), (3784, 3790), (3864, 3865), (3893, 3893), (3895, 3895),
    (3897, 3897), (3953, 3966), (3968, 3972), (3974, 3975), (3981, 3991), (3993, 4028),
    (4038, 4038), (4141, 4144), (4146, 4151), (4153, 4154), (4157, 4158), (4184, 4185),
    (4190, 4192), (4209, 4212), (4226, 4226), (4229, 4230), (4237, 4237), (4253, 4253),
    (4957, 4959), (5906, 5908), (5938, 5939), (5970, 5971), (6002, 6003), (6068, 6069),
    (6071, 6077), (6086, 6086), (6089, 6099), (6109, 6109), (6155, 6157), (6159, 6159),
    (6277, 6278), (6313, 6313), (6432, 6434), (6439, 6440), (6450, 6450), (6457, 6459),
    (6679, 6680), (6683, 6683), (6742, 6742), (6744, 6750), (6752, 6752), (6754, 6754),
    (6757, 6764), (6771, 6780), (6783, 6783), (6832, 6845), (6847, 6878), (6880, 6892),
    (6912, 6915), (6964, 6964), (6966, 6970), (6972, 6972), (6978, 6978), (7019, 7027),
    (7040, 7041), (7074, 7077), (7080, 7081), (7083, 7085), (7142, 7142), (7144, 7145),
    (7149, 7149), (7151, 7153), (7212, 7219), (7222, 7223), (7376, 7378), (7380, 7392),
    (7394, 7400), (7405, 7405), (7412, 7412), (7416, 7417), (7616, 7679), (8400, 8412),
    (8417, 8417), (8421, 8432), (11503, 11505), (11647, 11647), (11744, 11775),
    (12330, 12333), (12441, 12442), (42607, 42607), (42612, 42621), (42654, 42655),
    (42736, 42737), (43010, 43010), (43014, 43014), (43019, 43019), (43045, 43046),
    (43052, 43052), (43204, 43205), (43232, 43249), (43263, 43263), (43302, 43309),
    (43335, 43345), (43392, 43394), (43443, 43443), (43446, 43449), (43452, 43453),
    (43493, 43493), (43561, 43566), (43569, 43570), (43573, 43574), (43587, 43587),
    (43596, 43596), (43644, 43644), (43696, 43696), (43698, 43700), (43703, 43704),
    (43710, 43711), (43713, 43713), (43756, 43757), (43766, 43766), (44005, 44005),
    (44008, 44008), (44013, 44013), (64286, 64286), (65024, 65039), (65056, 65071),
    (66045, 66045), (66272, 66272), (66422, 66426), (68097, 68099), (68101, 68102),
    (68108, 68111), (68152, 68154), (68159, 68159), (68325, 68326), (68900, 68903),
    (68969, 68973), (69291, 69292), (69323, 69323), (69370, 69375), (69446, 69456),
    (69506, 69509), (69633, 69633), (69688, 69702), (69744, 69744), (69747, 69748),
    (69759, 69761), (69811, 69814), (69817, 69818), (69826, 69826), (69888, 69890),
    (69927, 69931), (69933, 69940), (70003, 70003), (70016, 70017), (70070, 70078),
    (70089, 70092), (70095, 70095), (70191, 70193), (70196, 70196), (70198, 70199),
    (70206, 70206), (70209, 70209), (70367, 70367), (70371, 70378), (70400, 70401),
    (70459, 70460), (70464, 70464), (70502, 70508), (70512, 70516), (70587, 70592),
    (70606, 70606), (70608, 70608), (70610, 70610), (70625, 70626), (70712, 70719),
    (70722, 70724), (70726, 70726), (70750, 70750), (70835, 70840), (70842, 70842),
    (70847, 70848), (70850, 70851), (71090, 71093), (71100, 71101), (71103, 71104),
    (71132, 71133), (71219, 71226), (71229, 71229), (71231, 71232), (71339, 71339),
    (71341, 71341), (71344, 71349), (71351, 71351), (71453, 71453), (71455, 71455),
    (71458, 71461), (71463, 71467), (71727, 71735), (71737, 71738), (71995, 71996),
    (71998, 71998), (72003, 72003), (72148, 72151), (72154, 72155), (72160, 72160),
    (72193, 72202), (72243, 72248), (72251, 72254), (72263, 72263), (72273, 72278),
    (72281, 72283), (72330, 72342), (72344, 72345), (72544, 72544), (72546, 72548),
    (72550, 72550), (72752, 72758), (72760, 72765), (72767, 72767), (72850, 72871),
    (72874, 72880), (72882, 72883), (72885, 72886), (73009, 73014), (73018, 73018),
    (73020, 73021), (73023, 73029), (73031, 73031), (73104, 73105), (73109, 73109),
    (73111, 73111), (73200, 73200), (73459, 73460), (73472, 73473), (73526, 73530),
    (73536, 73536), (73538, 73538), (73562, 73562), (78912, 78912), (78919, 78933),
    (90398, 90409), (90413, 90415), (92912, 92916), (92976, 92982), (94031, 94031),
    (94095, 94098), (94180, 94180), (113821, 113822), (118528, 118573), (118576, 118598),
    (119079, 119080), (119143, 119145), (119163, 119170), (119173, 119179),
    (119210, 119213), (119362, 119364), (119376, 119377), (119387, 119387),
    (121344, 121398), (121403, 121452), (121461, 121461), (121476, 121476),
    (121499, 121503), (121505, 121519), (122880, 122886), (122888, 122904),
    (122907, 122913), (122915, 122916), (122918, 122922), (123023, 123023),
    (123184, 123190), (123566, 123566), (123628, 123631), (124140, 124143),
    (124398, 124399), (124643, 124643), (124646, 124646), (124654, 124655),
    (124661, 124661), (125136, 125142), (125252, 125258), (917760, 917999)]

/-- Code points with the Diacritic property: marks and modifiers that change the
letter before them, such as `^`, the grave accent and the diaeresis. -/
def diacriticRanges : Array (Nat × Nat) :=
  #[(94, 94), (96, 96), (168, 168), (175, 175), (180, 180), (183, 184), (688, 846),
    (848, 855), (861, 866), (884, 885), (890, 890), (900, 901), (1155, 1159), (1369, 1369),
    (1425, 1469), (1471, 1471), (1473, 1474), (1476, 1477), (1479, 1479), (1611, 1618),
    (1623, 1624), (1759, 1760), (1765, 1766), (1770, 1772), (1840, 1866), (1958, 1968),
    (2027, 2037), (2072, 2073), (2200, 2207), (2249, 2258), (2275, 2302), (2364, 2364),
    (2381, 2381), (2385, 2388), (2417, 2417), (2492, 2492), (2509, 2509), (2620, 2620),
    (2637, 2637), (2748, 2748), (2765, 2765), (2813, 2815), (2876, 2876), (2893, 2893),
    (2901, 2901), (3021, 3021), (3132, 3132), (3149, 3149), (3260, 3260), (3277, 3277),
    (3387, 3388), (3405, 3405), (3530, 3530), (3642, 3642), (3655, 3660), (3662, 3662),
    (3770, 3770), (3784, 3788), (3864, 3865), (3893, 3893), (3895, 3895), (3897, 3897),
    (3902, 3903), (3970, 3972), (3974, 3975), (4038, 4038), (4151, 4151), (4153, 4154),
    (4195, 4196), (4201, 4205), (4231, 4237), (4239, 4239), (4250, 4251), (4957, 4959),
    (5908, 5909), (5940, 5940), (6089, 6099), (6109, 6109), (6457, 6459), (6752, 6752),
    (6773, 6780), (6783, 6783), (6832, 6846), (6849, 6859), (6863, 6877), (6880, 6891),
    (6964, 6964), (6980, 6980), (7019, 7027), (7082, 7083), (7142, 7142), (7154, 7155),
    (7222, 7223), (7288, 7293), (7376, 7400), (7405, 7405), (7412, 7412), (7415, 7417),
    (7468, 7530), (7579, 7614), (7620, 7631), (7669, 7679), (8125, 8125), (8127, 8129),
    (8141, 8143), (8157, 8159), (8173, 8175), (8189, 8190), (11503, 11505), (11823, 11823),
    (12330, 12335), (12441, 12444), (12540, 12540), (42607, 42607), (42620, 42621),
    (42623, 42623), (42652, 42653), (42736, 42737), (42752, 42785), (42888, 42890),
    (42993, 42993), (43000, 43001), (43014, 43014), (43052, 43052), (43204, 43204),
    (43232, 43249), (43307, 43310), (43347, 43347), (43443, 43443), (43456, 43456),
    (43493, 43493), (43643, 43645), (43711, 43714), (43766, 43766), (43867, 43871),
    (43881, 43883), (44012, 44013), (64286, 64286), (65056, 65071), (65342, 65342),
    (65344, 65344), (65392, 65392), (65438, 65439), (65507, 65507), (66272, 66272),
    (67456, 67461), (67463, 67504), (67506, 67514), (68152, 68154), (68159, 68159),
    (68325, 68326), (68898, 68903), (68942, 68942), (68969, 68973), (69370, 69370),
    (69373, 69375), (69446, 69456), (69506, 69509), (69702, 69702), (69744, 69744),
    (69817, 69818), (69939, 69940), (70003, 70003), (70080, 70080), (70090, 70092),
    (70197, 70198), (70377, 70378), (70459, 70460), (70477, 70477), (70502, 70508),
    (70512, 70516), (70606, 70608), (70610, 70611), (70625, 70626), (70722, 70722),
    (70726, 70726), (70850, 70851), (71103, 71104), (71231, 71231), (71350, 71351),
    (71467, 71467), (71737, 71738), (71997, 71998), (72003, 72003), (72160, 72160),
    (72244, 72244), (72263, 72263), (72345, 72345), (72767, 72767), (73026, 73026),
    (73028, 73029), (73111, 73111), (73177, 73177), (73537, 73538), (73562, 73562),
    (78919, 78933), (90415, 90415), (92912, 92916), (92976, 92982), (93547, 93548),
    (94095, 94111), (94192, 94193), (110576, 110579), (110581, 110587), (110589, 110590),
    (118528, 118573), (118576, 118598), (119143, 119145), (119149, 119154),
    (119163, 119170), (119173, 119179), (119210, 119213), (122928, 122989),
    (123184, 123190), (123566, 123566), (123628, 123631), (124398, 124399),
    (125136, 125142), (125252, 125254), (125256, 125258)]

/-- Decimal digits (general category Nd). -/
def decimalDigitRanges : Array (Nat × Nat) :=
  #[(48, 57), (1632, 1641), (1776, 1785), (1984, 1993), (2406, 2415), (2534, 2543),
    (2662, 2671), (2790, 2799), (2918, 2927), (3046, 3055), (3174, 3183), (3302, 3311),
    (3430, 3439), (3558, 3567), (3664, 3673), (3792, 3801), (3872, 3881), (4160, 4169),
    (4240, 4249), (6112, 6121), (6160, 6169), (6470, 6479), (6608, 6617), (6784, 6793),
    (6800, 6809), (6992, 7001), (7088, 7097), (7232, 7241), (7248, 7257), (42528, 42537),
    (43216, 43225), (43264, 43273), (43472, 43481), (43504, 43513), (43600, 43609),
    (44016, 44025), (65296, 65305), (66720, 66729), (68912, 68921), (68928, 68937),
    (69734, 69743), (69872, 69881), (69942, 69951), (70096, 70105), (70384, 70393),
    (70736, 70745), (70864, 70873), (71248, 71257), (71360, 71369), (71376, 71395),
    (71472, 71481), (71904, 71913), (72016, 72025), (72688, 72697), (72784, 72793),
    (73040, 73049), (73120, 73129), (73184, 73193), (73552, 73561), (90416, 90425),
    (92768, 92777), (92864, 92873), (93008, 93017), (93552, 93561), (118000, 118009),
    (120782, 120831), (123200, 123209), (123632, 123641), (124144, 124153),
    (124401, 124410), (125264, 125273), (130032, 130041)]

/-- Connector punctuation (general category Pc). -/
def connectorRanges : Array (Nat × Nat) :=
  #[(95, 95), (8255, 8256), (8276, 8276), (65075, 65076), (65101, 65103), (65343, 65343)]

/-- Space separators (general category Zs). -/
def spaceSeparatorRanges : Array (Nat × Nat) :=
  #[(32, 32), (160, 160), (5760, 5760), (8192, 8202), (8239, 8239), (8287, 8287),
    (12288, 12288)]

/-- Code points with the White_Space property. -/
def whiteSpaceRanges : Array (Nat × Nat) :=
  #[(9, 13), (32, 32), (133, 133), (160, 160), (5760, 5760), (8192, 8202), (8232, 8233),
    (8239, 8239), (8287, 8287), (12288, 12288)]

/-- Case-ignorable code points: marks, format characters, modifier letters and
symbols, and the apostrophe, period, colon and the like inside words. -/
def caseIgnorableRanges : Array (Nat × Nat) :=
  #[(39, 39), (46, 46), (58, 58), (94, 94), (96, 96), (168, 168), (173, 173), (175, 175),
    (180, 180), (183, 184), (688, 879), (884, 885), (890, 890), (900, 901), (903, 903),
    (1155, 1161), (1369, 1369), (1375, 1375), (1425, 1469), (1471, 1471), (1473, 1474),
    (1476, 1477), (1479, 1479), (1524, 1524), (1536, 1541), (1552, 1562), (1564, 1564),
    (1600, 1600), (1611, 1631), (1648, 1648), (1750, 1757), (1759, 1768), (1770, 1773),
    (1807, 1807), (1809, 1809), (1840, 1866), (1958, 1968), (2027, 2037), (2042, 2042),
    (2045, 2045), (2070, 2093), (2137, 2139), (2184, 2184), (2192, 2193), (2199, 2207),
    (2249, 2306), (2362, 2362), (2364, 2364), (2369, 2376), (2381, 2381), (2385, 2391),
    (2402, 2403), (2417, 2417), (2433, 2433), (2492, 2492), (2497, 2500), (2509, 2509),
    (2530, 2531), (2558, 2558), (2561, 2562), (2620, 2620), (2625, 2626), (2631, 2632),
    (2635, 2637), (2641, 2641), (2672, 2673), (2677, 2677), (2689, 2690), (2748, 2748),
    (2753, 2757), (2759, 2760), (2765, 2765), (2786, 2787), (2810, 2815), (2817, 2817),
    (2876, 2876), (2879, 2879), (2881, 2884), (2893, 2893), (2901, 2902), (2914, 2915),
    (2946, 2946), (3008, 3008), (3021, 3021), (3072, 3072), (3076, 3076), (3132, 3132),
    (3134, 3136), (3142, 3144), (3146, 3149), (3157, 3158), (3170, 3171), (3201, 3201),
    (3260, 3260), (3263, 3263), (3270, 3270), (3276, 3277), (3298, 3299), (3328, 3329),
    (3387, 3388), (3393, 3396), (3405, 3405), (3426, 3427), (3457, 3457), (3530, 3530),
    (3538, 3540), (3542, 3542), (3633, 3633), (3636, 3642), (3654, 3662), (3761, 3761),
    (3764, 3772), (3782, 3782), (3784, 3790), (3864, 3865), (3893, 3893), (3895, 3895),
    (3897, 3897), (3953, 3966), (3968, 3972), (3974, 3975), (3981, 3991), (3993, 4028),
    (4038, 4038), (4141, 4144), (4146, 4151), (4153, 4154), (4157, 4158), (4184, 4185),
    (4190, 4192), (4209, 4212), (4226, 4226), (4229, 4230), (4237, 4237), (4253, 4253),
    (4348, 4348), (4957, 4959), (5906, 5908), (5938, 5939), (5970, 5971), (6002, 6003),
    (6068, 6069), (6071, 6077), (6086, 6086), (6089, 6099), (6103, 6103), (6109, 6109),
    (6155, 6159), (6211, 6211), (6277, 6278), (6313, 6313), (6432, 6434), (6439, 6440),
    (6450, 6450), (6457, 6459), (6679, 6680), (6683, 6683), (6742, 6742), (6744, 6750),
    (6752, 6752), (6754, 6754), (6757, 6764), (6771, 6780), (6783, 6783), (6823, 6823),
    (6832, 6877), (6880, 6891), (6912, 6915), (6964, 6964), (6966, 6970), (6972, 6972),
    (6978, 6978), (7019, 7027), (7040, 7041), (7074, 7077), (7080, 7081), (7083, 7085),
    (7142, 7142), (7144, 7145), (7149, 7149), (7151, 7153), (7212, 7219), (7222, 7223),
    (7288, 7293), (7376, 7378), (7380, 7392), (7394, 7400), (7405, 7405), (7412, 7412),
    (7416, 7417), (7468, 7530), (7544, 7544), (7579, 7679), (8125, 8125), (8127, 8129),
    (8141, 8143), (8157, 8159), (8173, 8175), (8189, 8190), (8203, 8207), (8216, 8217),
    (8228, 8228), (8231, 8231), (8234, 8238), (8288, 8292), (8294, 8303), (8305, 8305),
    (8319, 8319), (8336, 8348), (8400, 8432), (11388, 11389), (11503, 11505),
    (11631, 11631), (11647, 11647), (11744, 11775), (11823, 11823), (12293, 12293),
    (12330, 12333), (12337, 12341), (12347, 12347), (12441, 12446), (12540, 12542),
    (40981, 40981), (42232, 42237), (42508, 42508), (42607, 42610), (42612, 42621),
    (42623, 42623), (42652, 42655), (42736, 42737), (42752, 42785), (42864, 42864),
    (42888, 42890), (42993, 42996), (43000, 43001), (43010, 43010), (43014, 43014),
    (43019, 43019), (43045, 43046), (43052, 43052), (43204, 43205), (43232, 43249),
    (43263, 43263), (43302, 43309), (43335, 43345), (43392, 43394), (43443, 43443),
    (43446, 43449), (43452, 43453), (43471, 43471), (43493, 43494), (43561, 43566),
    (43569, 43570), (43573, 43574), (43587, 43587), (43596, 43596), (43632, 43632),
    (43644, 43644), (43696, 43696), (43698, 43700), (43703, 43704), (43710, 43711),
    (43713, 43713), (43741, 43741), (43756, 43757), (43763, 43764), (43766, 43766),
    (43867, 43871), (43881, 43883), (44005, 44005), (44008, 44008), (44013, 44013),
    (64286, 64286), (64434, 64450), (65024, 65039), (65043, 65043), (65056, 65071),
    (65106, 65106), (65109, 65109), (65279, 65279), (65287, 65287), (65294, 65294),
    (65306, 65306), (65342, 65342), (65344, 65344), (65392, 65392), (65438, 65439),
    (65507, 65507), (65529, 65531), (66045, 66045), (66272, 66272), (66422, 66426),
    (67456, 67461), (67463, 67504), (67506, 67514), (68097, 68099), (68101, 68102),
    (68108, 68111), (68152, 68154), (68159, 68159), (68325, 68326), (68900, 68903),
    (68942, 68942), (68969, 68973), (68975, 68975), (69291, 69292), (69317, 69317),
    (69370, 69375), (69446, 69456), (69506, 69509), (69633, 69633), (69688, 69702),
    (69744, 69744), (69747, 69748), (69759, 69761), (69811, 69814), (69817, 69818),
    (69821, 69821), (69826, 69826), (69837, 69837), (69888, 69890), (69927, 69931),
    (69933, 69940), (70003, 70003), (70016, 70017), (70070, 70078), (70089, 70092),
    (70095, 70095), (70191, 70193), (70196, 70196), (70198, 70199), (70206, 70206),
    (70209, 70209), (70367, 70367), (70371, 70378), (70400, 70401), (70459, 70460),
    (70464, 70464), (70502, 70508), (70512, 70516), (70587, 70592), (70606, 70606),
    (70608, 70608), (70610, 70610), (70625, 70626), (70712, 70719), (70722, 70724),
    (70726, 70726), (70750, 70750), (70835, 70840), (70842, 70842), (70847, 70848),
    (70850, 70851), (71090, 71093), (71100, 71101), (71103, 71104), (71132, 71133),
    (71219, 71226), (71229, 71229), (71231, 71232), (71339, 71339), (71341, 71341),
    (71344, 71349), (71351, 71351), (71453, 71453), (71455, 71455), (71458, 71461),
    (71463, 71467), (71727, 71735), (71737, 71738), (71995, 71996), (71998, 71998),
    (72003, 72003), (72148, 72151), (72154, 72155), (72160, 72160), (72193, 72202),
    (72243, 72248), (72251, 72254), (72263, 72263), (72273, 72278), (72281, 72283),
    (72330, 72342), (72344, 72345), (72544, 72544), (72546, 72548), (72550, 72550),
    (72752, 72758), (72760, 72765), (72767, 72767), (72850, 72871), (72874, 72880),
    (72882, 72883), (72885, 72886), (73009, 73014), (73018, 73018), (73020, 73021),
    (73023, 73029), (73031, 73031), (73104, 73105), (73109, 73109), (73111, 73111),
    (73177, 73177), (73459, 73460), (73472, 73473), (73526, 73530), (73536, 73536),
    (73538, 73538), (73562, 73562), (78896, 78912), (78919, 78933), (90398, 90409),
    (90413, 90415), (92912, 92916), (92976, 92982), (92992, 92995), (93504, 93506),
    (93547, 93548), (94031, 94031), (94095, 94111), (94176, 94177), (94179, 94180),
    (94194, 94195), (110576, 110579), (110581, 110587), (110589, 110590), (113821, 113822),
    (113824, 113827), (118528, 118573), (118576, 118598), (119143, 119145),
    (119155, 119170), (119173, 119179), (119210, 119213), (119362, 119364),
    (121344, 121398), (121403, 121452), (121461, 121461), (121476, 121476),
    (121499, 121503), (121505, 121519), (122880, 122886), (122888, 122904),
    (122907, 122913), (122915, 122916), (122918, 122922), (122928, 122989),
    (123023, 123023), (123184, 123197), (123566, 123566), (123628, 123631),
    (124139, 124143), (124398, 124399), (124643, 124643), (124646, 124646),
    (124654, 124655), (124661, 124661), (124671, 124671), (125136, 125142),
    (125252, 125259), (127995, 127999), (917505, 917505), (917536, 917631),
    (917760, 917999)]

/-- Cased code points: upper-case, lower-case and title-case letters, and the other
code points with a case. -/
def casedRanges : Array (Nat × Nat) :=
  #[(65, 90), (97, 122), (170, 170), (181, 181), (186, 186), (192, 214), (216, 246),
    (248, 442), (444, 447), (452, 659), (662, 696), (704, 705), (736, 740), (837, 837),
    (880, 883), (886, 887), (890, 893), (895, 895), (902, 902), (904, 906), (908, 908),
    (910, 929), (931, 1013), (1015, 1153), (1162, 1327), (1329, 1366), (1376, 1416),
    (4256, 4293), (4295, 4295), (4301, 4301), (4304, 4346), (4348, 4351), (5024, 5109),
    (5112, 5117), (7296, 7306), (7312, 7354), (7357, 7359), (7424, 7615), (7680, 7957),
    (7960, 7965), (7968, 8005), (8008, 8013), (8016, 8023), (8025, 8025), (8027, 8027),
    (8029, 8029), (8031, 8061), (8064, 8116), (8118, 8124), (8126, 8126), (8130, 8132),
    (8134, 8140), (8144, 8147), (8150, 8155), (8160, 8172), (8178, 8180), (8182, 8188),
    (8305, 8305), (8319, 8319), (8336, 8348), (8450, 8450), (8455, 8455), (8458, 8467),
    (8469, 8469), (8473, 8477), (8484, 8484), (8486, 8486), (8488, 8488), (8490, 8493),
    (8495, 8500), (8505, 8505), (8508, 8511), (8517, 8521), (8526, 8526), (8544, 8575),
    (8579, 8580), (9398, 9449), (11264, 11492), (11499, 11502), (11506, 11507),
    (11520, 11557), (11559, 11559), (11565, 11565), (42560, 42605), (42624, 42653),
    (42786, 42887), (42891, 42894), (42896, 42972), (42993, 42998), (43000, 43002),
    (43824, 43866), (43868, 43881), (43888, 43967), (64256, 64262), (64275, 64279),
    (65313, 65338), (65345, 65370), (66560, 66639), (66736, 66771), (66776, 66811),
    (66928, 66938), (66940, 66954), (66956, 66962), (66964, 66965), (66967, 66977),
    (66979, 66993), (66995, 67001), (67003, 67004), (67456, 67456), (67459, 67461),
    (67463, 67504), (67506, 67514), (68736, 68786), (68800, 68850), (68944, 68965),
    (68976, 68997), (71840, 71903), (93760, 93823), (93856, 93880), (93883, 93907),
    (119808, 119892), (119894, 119964), (119966, 119967), (119970, 119970),
    (119973, 119974), (119977, 119980), (119982, 119993), (119995, 119995),
    (119997, 120003), (120005, 120069), (120071, 120074), (120077, 120084),
    (120086, 120092), (120094, 120121), (120123, 120126), (120128, 120132),
    (120134, 120134), (120138, 120144), (120146, 120485), (120488, 120512),
    (120514, 120538), (120540, 120570), (120572, 120596), (120598, 120628),
    (120630, 120654), (120656, 120686), (120688, 120712), (120714, 120744),
    (120746, 120770), (120772, 120779), (122624, 122633), (122635, 122654),
    (122661, 122666), (122928, 122989), (125184, 125251), (127280, 127305),
    (127312, 127337), (127344, 127369)]

/-- Runs of the lower-case mapping: `(lo, hi, delta, step)` maps every `step`-th code
point from `lo` to `hi` to itself plus `delta`. -/
def lowerRuns : Array (Nat × Nat × Int × Nat) :=
  #[(65, 90, 32, 1), (192, 214, 32, 1), (216, 222, 32, 1), (256, 302, 1, 2),
    (306, 310, 1, 2), (313, 327, 1, 2), (330, 374, 1, 2), (376, 376, -121, 1),
    (377, 381, 1, 2), (385, 385, 210, 1), (386, 388, 1, 2), (390, 390, 206, 1),
    (391, 391, 1, 1), (393, 394, 205, 1), (395, 395, 1, 1), (398, 398, 79, 1),
    (399, 399, 202, 1), (400, 400, 203, 1), (401, 401, 1, 1), (403, 403, 205, 1),
    (404, 404, 207, 1), (406, 406, 211, 1), (407, 407, 209, 1), (408, 408, 1, 1),
    (412, 412, 211, 1), (413, 413, 213, 1), (415, 415, 214, 1), (416, 420, 1, 2),
    (422, 422, 218, 1), (423, 423, 1, 1), (425, 425, 218, 1), (428, 428, 1, 1),
    (430, 430, 218, 1), (431, 431, 1, 1), (433, 434, 217, 1), (435, 437, 1, 2),
    (439, 439, 219, 1), (440, 440, 1, 1), (444, 444, 1, 1), (452, 452, 2, 1),
    (453, 453, 1, 1), (455, 455, 2, 1), (456, 456, 1, 1), (458, 458, 2, 1),
    (459, 475, 1, 2), (478, 494, 1, 2), (497, 497, 2, 1), (498, 500, 1, 2),
    (502, 502, -97, 1), (503, 503, -56, 1), (504, 542, 1, 2), (544, 544, -130, 1),
    (546, 562, 1, 2), (570, 570, 10795, 1), (571, 571, 1, 1), (573, 573, -163, 1),
    (574, 574, 10792, 1), (577, 577, 1, 1), (579, 579, -195, 1), (580, 580, 69, 1),
    (581, 581, 71, 1), (582, 590, 1, 2), (880, 882, 1, 2), (886, 886, 1, 1),
    (895, 895, 116, 1), (902, 902, 38, 1), (904, 906, 37, 1), (908, 908, 64, 1),
    (910, 911, 63, 1), (913, 929, 32, 1), (931, 939, 32, 1), (975, 975, 8, 1),
    (984, 1006, 1, 2), (1012, 1012, -60, 1), (1015, 1015, 1, 1), (1017, 1017, -7, 1),
    (1018, 1018, 1, 1), (1021, 1023, -130, 1), (1024, 1039, 80, 1), (1040, 1071, 32, 1),
    (1120, 1152, 1, 2), (1162, 1214, 1, 2), (1216, 1216, 15, 1), (1217, 1229, 1, 2),
    (1232, 1326, 1, 2), (1329, 1366, 48, 1), (4256, 4293, 7264, 1), (4295, 4295, 7264, 1),
    (4301, 4301, 7264, 1), (5024, 5103, 38864, 1), (5104, 5109, 8, 1), (7305, 7305, 1, 1),
    (7312, 7354, -3008, 1), (7357, 7359, -3008, 1), (7680, 7828, 1, 2),
    (7838, 7838, -7615, 1), (7840, 7934, 1, 2), (7944, 7951, -8, 1), (7960, 7965, -8, 1),
    (7976, 7983, -8, 1), (7992, 7999, -8, 1), (8008, 8013, -8, 1), (8025, 8031, -8, 2),
    (8040, 8047, -8, 1), (8072, 8079, -8, 1), (8088, 8095, -8, 1), (8104, 8111, -8, 1),
    (8120, 8121, -8, 1), (8122, 8123, -74, 1), (8124, 8124, -9, 1), (8136, 8139, -86, 1),
    (8140, 8140, -9, 1), (8152, 8153, -8, 1), (8154, 8155, -100, 1), (8168, 8169, -8, 1),
    (8170, 8171, -112, 1), (8172, 8172, -7, 1), (8184, 8185, -128, 1),
    (8186, 8187, -126, 1), (8188, 8188, -9, 1), (8486, 8486, -7517, 1),
    (8490, 8490, -8383, 1), (8491, 8491, -8262, 1), (8498, 8498, 28, 1),
    (8544, 8559, 16, 1), (8579, 8579, 1, 1), (9398, 9423, 26, 1), (11264, 11311, 48, 1),
    (11360, 11360, 1, 1), (11362, 11362, -10743, 1), (11363, 11363, -3814, 1),
    (11364, 11364, -10727, 1), (11367, 11371, 1, 2), (11373, 11373, -10780, 1),
    (11374, 11374, -10749, 1), (11375, 11375, -10783, 1), (11376, 11376, -10782, 1),
    (11378, 11378, 1, 1), (11381, 11381, 1, 1), (11390, 11391, -10815, 1),
    (11392, 11490, 1, 2), (11499, 11501, 1, 2), (11506, 11506, 1, 1), (42560, 42604, 1, 2),
    (42624, 42650, 1, 2), (42786, 42798, 1, 2), (42802, 42862, 1, 2), (42873, 42875, 1, 2),
    (42877, 42877, -35332, 1), (42878, 42886, 1, 2), (42891, 42891, 1, 1),
    (42893, 42893, -42280, 1), (42896, 42898, 1, 2), (42902, 42920, 1, 2),
    (42922, 42922, -42308, 1), (42923, 42923, -42319, 1), (42924, 42924, -42315, 1),
    (42925, 42925, -42305, 1), (42926, 42926, -42308, 1), (42928, 42928, -42258, 1),
    (42929, 42929, -42282, 1), (42930, 42930, -42261, 1), (42931, 42931, 928, 1),
    (42932, 42946, 1, 2), (42948, 42948, -48, 1), (42949, 42949, -42307, 1),
    (42950, 42950, -35384, 1), (42951, 42953, 1, 2), (42955, 42955, -42343, 1),
    (42956, 42970, 1, 2), (42972, 42972, -42561, 1), (42997, 42997, 1, 1),
    (65313, 65338, 32, 1), (66560, 66599, 40, 1), (66736, 66771, 40, 1),
    (66928, 66938, 39, 1), (66940, 66954, 39, 1), (66956, 66962, 39, 1),
    (66964, 66965, 39, 1), (68736, 68786, 64, 1), (68944, 68965, 32, 1),
    (71840, 71871, 32, 1), (93760, 93791, 32, 1), (93856, 93880, 27, 1),
    (125184, 125217, 34, 1)]

/-- Letters, including letter numbers. -/
def isLetter (c : Char) : Bool := inRanges letterRanges c.toNat

/-- Non-spacing marks. -/
def isNonspacingMark (c : Char) : Bool := inRanges nonspacingMarkRanges c.toNat

/-- Diacritics such as `^`, the grave accent and the diaeresis. -/
def isDiacritic (c : Char) : Bool := inRanges diacriticRanges c.toNat

/-- Case-ignorable characters, which a capital sigma looks past. -/
def isCaseIgnorable (c : Char) : Bool := inRanges caseIgnorableRanges c.toNat

/-- Characters that have a case. -/
def isCased (c : Char) : Bool := inRanges casedRanges c.toNat

/-- Decimal digits of any script. -/
def isDecimalDigit (c : Char) : Bool := inRanges decimalDigitRanges c.toNat

/-- Connector punctuation such as `_`. -/
def isConnector (c : Char) : Bool := inRanges connectorRanges c.toNat

/-- Space separators such as the no-break space. -/
def isSpaceSeparator (c : Char) : Bool := inRanges spaceSeparatorRanges c.toNat

/-- White space in the sense of the Unicode White_Space property. -/
def isWhiteSpace (c : Char) : Bool := inRanges whiteSpaceRanges c.toNat

/-- The lower-case form of one code point when it is a single code point. -/
def lowerSimple (c : Char) : Char :=
  match lowerRuns.toList.find? (fun (lo, hi, _, step) =>
      lo ≤ c.toNat && c.toNat ≤ hi && (c.toNat - lo) % step == 0) with
  | some (_, _, delta, _) => Char.ofNat (Int.toNat (c.toNat + delta))
  | none => c

/-- The full lower-case form of one code point: a capital I with dot above becomes a
small i followed by a combining dot. -/
def lowerChar (c : Char) : List Char :=
  if c.toNat = 0x130 then ['i', Char.ofNat 0x307] else [lowerSimple c]

/-- Whether a word continues on this side of a capital sigma: the nearest character
that is not case-ignorable is cased. -/
def wordContinues (side : List Char) : Bool :=
  match side.dropWhile isCaseIgnorable with
  | c :: _ => isCased c
  | [] => false

/-- Lower-cases a text; a capital sigma that ends a word becomes a final sigma: one with
a word before it and none after it. -/
def toLower (s : String) : String :=
  let cs := s.toList
  let rec go : List Char → List Char → List Char
    | _, [] => []
    | before, c :: after =>
      let here :=
        if c.toNat = 0x3A3 then
          if wordContinues before && !wordContinues after then [Char.ofNat 0x3C2]
          else [Char.ofNat 0x3C3]
        else lowerChar c
      here ++ go (c :: before) after
  String.ofList (go [] cs)

/-- Removes white space from both ends. -/
def trim (s : String) : String :=
  String.ofList ((s.toList.dropWhile isWhiteSpace).reverse.dropWhile isWhiteSpace).reverse

end Unicode

end FormatConfig
