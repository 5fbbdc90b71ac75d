import Sluice.Text.Ranges

/-!
# Characters of domain names

Ranges of code points beyond ASCII, after the mapping table of UTS 46 (version 17) and the general
category Mark.

* `DomainTable.disallowed`: no domain name has them;
* `DomainTable.altered`: a domain name has other characters, or none, in their place;
* `DomainTable.toAscii`: the ones of those whose replacement is empty or has ASCII characters, with
  the replacement of the first of each range; where the replacement is a single character the
  others of the range follow it in order;
* `DomainTable.marks`: no label begins with them.
-/

set_option maxRecDepth 8000

namespace Sluice.DomainTable

/-- Code points that no domain name has. -/
def disallowed : List (Nat × Nat) :=
  [(128, 159), (888, 889), (896, 899), (907, 907), (909, 909), (930, 930), (1328, 1328),
    (1367, 1368), (1419, 1420), (1424, 1424), (1480, 1487), (1515, 1518), (1525, 1541),
    (1564, 1564), (1757, 1757), (1806, 1807), (1867, 1868), (1970, 1983), (2043, 2044),
    (2094, 2095), (2111, 2111), (2140, 2141), (2143, 2143), (2155, 2159), (2192, 2198),
    (2274, 2274), (2436, 2436), (2445, 2446), (2449, 2450), (2473, 2473), (2481, 2481),
    (2483, 2485), (2490, 2491), (2501, 2502), (2505, 2506), (2511, 2518), (2520, 2523),
    (2526, 2526), (2532, 2533), (2559, 2560), (2564, 2564), (2571, 2574), (2577, 2578),
    (2601, 2601), (2609, 2609), (2612, 2612), (2615, 2615), (2618, 2619), (2621, 2621),
    (2627, 2630), (2633, 2634), (2638, 2640), (2642, 2648), (2653, 2653), (2655, 2661),
    (2679, 2688), (2692, 2692), (2702, 2702), (2706, 2706), (2729, 2729), (2737, 2737),
    (2740, 2740), (2746, 2747), (2758, 2758), (2762, 2762), (2766, 2767), (2769, 2783),
    (2788, 2789), (2802, 2808), (2816, 2816), (2820, 2820), (2829, 2830), (2833, 2834),
    (2857, 2857), (2865, 2865), (2868, 2868), (2874, 2875), (2885, 2886), (2889, 2890),
    (2894, 2900), (2904, 2907), (2910, 2910), (2916, 2917), (2936, 2945), (2948, 2948),
    (2955, 2957), (2961, 2961), (2966, 2968), (2971, 2971), (2973, 2973), (2976, 2978),
    (2981, 2983), (2987, 2989), (3002, 3005), (3011, 3013), (3017, 3017), (3022, 3023),
    (3025, 3030), (3032, 3045), (3067, 3071), (3085, 3085), (3089, 3089), (3113, 3113),
    (3130, 3131), (3141, 3141), (3145, 3145), (3150, 3156), (3159, 3159), (3163, 3163),
    (3166, 3167), (3172, 3173), (3184, 3190), (3213, 3213), (3217, 3217), (3241, 3241),
    (3252, 3252), (3258, 3259), (3269, 3269), (3273, 3273), (3278, 3284), (3287, 3291),
    (3295, 3295), (3300, 3301), (3312, 3312), (3316, 3327), (3341, 3341), (3345, 3345),
    (3397, 3397), (3401, 3401), (3408, 3411), (3428, 3429), (3456, 3456), (3460, 3460),
    (3479, 3481), (3506, 3506), (3516, 3516), (3518, 3519), (3527, 3529), (3531, 3534),
    (3541, 3541), (3543, 3543), (3552, 3557), (3568, 3569), (3573, 3584), (3643, 3646),
    (3676, 3712), (3715, 3715), (3717, 3717), (3723, 3723), (3748, 3748), (3750, 3750),
    (3774, 3775), (3781, 3781), (3783, 3783), (3791, 3791), (3802, 3803), (3808, 3839),
    (3912, 3912), (3949, 3952), (3992, 3992), (4029, 4029), (4045, 4045), (4059, 4095),
    (4294, 4294), (4296, 4300), (4302, 4303), (4681, 4681), (4686, 4687), (4695, 4695),
    (4697, 4697), (4702, 4703), (4745, 4745), (4750, 4751), (4785, 4785), (4790, 4791),
    (4799, 4799), (4801, 4801), (4806, 4807), (4823, 4823), (4881, 4881), (4886, 4887),
    (4955, 4956), (4989, 4991), (5018, 5023), (5110, 5111), (5118, 5119), (5760, 5760),
    (5789, 5791), (5881, 5887), (5910, 5918), (5943, 5951), (5972, 5983), (5997, 5997),
    (6001, 6001), (6004, 6015), (6110, 6111), (6122, 6127), (6138, 6143), (6170, 6175),
    (6265, 6271), (6315, 6319), (6390, 6399), (6431, 6431), (6444, 6447), (6460, 6463),
    (6465, 6467), (6510, 6511), (6517, 6527), (6572, 6575), (6602, 6607), (6619, 6621),
    (6684, 6685), (6751, 6751), (6781, 6782), (6794, 6799), (6810, 6815), (6830, 6831),
    (6878, 6879), (6892, 6911), (6989, 6989), (7156, 7163), (7224, 7226), (7242, 7244),
    (7307, 7311), (7355, 7356), (7368, 7375), (7419, 7423), (7958, 7959), (7966, 7967),
    (8006, 8007), (8014, 8015), (8024, 8024), (8026, 8026), (8028, 8028), (8030, 8030),
    (8062, 8063), (8117, 8117), (8133, 8133), (8148, 8149), (8156, 8156), (8176, 8177),
    (8181, 8181), (8191, 8191), (8206, 8207), (8228, 8230), (8232, 8238), (8293, 8297),
    (8306, 8307), (8335, 8335), (8349, 8351), (8386, 8399), (8433, 8447), (8588, 8591),
    (9258, 9279), (9291, 9311), (9352, 9371), (11124, 11125), (11508, 11512), (11558, 11558),
    (11560, 11564), (11566, 11567), (11624, 11630), (11633, 11646), (11671, 11679), (11687, 11687),
    (11695, 11695), (11703, 11703), (11711, 11711), (11719, 11719), (11727, 11727), (11735, 11735),
    (11743, 11743), (11870, 11903), (11930, 11930), (12020, 12031), (12246, 12287), (12352, 12352),
    (12439, 12440), (12544, 12548), (12592, 12592), (12687, 12687), (12774, 12783), (12831, 12831),
    (13250, 13250), (13255, 13255), (13272, 13272), (42125, 42127), (42183, 42191), (42540, 42559),
    (42744, 42751), (42973, 42992), (43053, 43055), (43066, 43071), (43128, 43135), (43206, 43213),
    (43226, 43231), (43348, 43358), (43389, 43391), (43470, 43470), (43482, 43485), (43519, 43519),
    (43575, 43583), (43598, 43599), (43610, 43611), (43715, 43738), (43767, 43776), (43783, 43784),
    (43791, 43792), (43799, 43807), (43815, 43815), (43823, 43823), (43884, 43887), (44014, 44015),
    (44026, 44031), (55204, 55215), (55239, 55242), (55292, 63743), (64110, 64111), (64218, 64255),
    (64263, 64274), (64280, 64284), (64311, 64311), (64317, 64317), (64319, 64319), (64322, 64322),
    (64325, 64325), (64976, 65007), (65042, 65042), (65049, 65055), (65072, 65072), (65106, 65107),
    (65127, 65127), (65132, 65135), (65141, 65141), (65277, 65278), (65280, 65280), (65471, 65473),
    (65480, 65481), (65488, 65489), (65496, 65497), (65501, 65503), (65511, 65511), (65519, 65535),
    (65548, 65548), (65575, 65575), (65595, 65595), (65598, 65598), (65614, 65615), (65630, 65663),
    (65787, 65791), (65795, 65798), (65844, 65846), (65935, 65935), (65949, 65951), (65953, 65999),
    (66046, 66175), (66205, 66207), (66257, 66271), (66300, 66303), (66340, 66348), (66379, 66383),
    (66427, 66431), (66462, 66462), (66500, 66503), (66518, 66559), (66718, 66719), (66730, 66735),
    (66772, 66775), (66812, 66815), (66856, 66863), (66916, 66926), (66939, 66939), (66955, 66955),
    (66963, 66963), (66966, 66966), (66978, 66978), (66994, 66994), (67002, 67002), (67005, 67007),
    (67060, 67071), (67383, 67391), (67414, 67423), (67432, 67455), (67462, 67462), (67505, 67505),
    (67515, 67583), (67590, 67591), (67593, 67593), (67638, 67638), (67641, 67643), (67645, 67646),
    (67670, 67670), (67743, 67750), (67760, 67807), (67827, 67827), (67830, 67834), (67868, 67870),
    (67898, 67902), (67930, 67967), (68024, 68027), (68048, 68049), (68100, 68100), (68103, 68107),
    (68116, 68116), (68120, 68120), (68150, 68151), (68155, 68158), (68169, 68175), (68185, 68191),
    (68256, 68287), (68327, 68330), (68343, 68351), (68406, 68408), (68438, 68439), (68467, 68471),
    (68498, 68504), (68509, 68520), (68528, 68607), (68681, 68735), (68787, 68799), (68851, 68857),
    (68904, 68911), (68922, 68927), (68966, 68968), (68998, 69005), (69008, 69215), (69247, 69247),
    (69290, 69290), (69294, 69295), (69298, 69313), (69320, 69327), (69337, 69369), (69416, 69423),
    (69466, 69487), (69514, 69551), (69580, 69599), (69623, 69631), (69710, 69713), (69750, 69758),
    (69821, 69821), (69827, 69839), (69865, 69871), (69882, 69887), (69941, 69941), (69960, 69967),
    (70007, 70015), (70112, 70112), (70133, 70143), (70162, 70162), (70210, 70271), (70279, 70279),
    (70281, 70281), (70286, 70286), (70302, 70302), (70314, 70319), (70379, 70383), (70394, 70399),
    (70404, 70404), (70413, 70414), (70417, 70418), (70441, 70441), (70449, 70449), (70452, 70452),
    (70458, 70458), (70469, 70470), (70473, 70474), (70478, 70479), (70481, 70486), (70488, 70492),
    (70500, 70501), (70509, 70511), (70517, 70527), (70538, 70538), (70540, 70541), (70543, 70543),
    (70582, 70582), (70593, 70593), (70595, 70596), (70598, 70598), (70603, 70603), (70614, 70614),
    (70617, 70624), (70627, 70655), (70748, 70748), (70754, 70783), (70856, 70863), (70874, 71039),
    (71094, 71095), (71134, 71167), (71237, 71247), (71258, 71263), (71277, 71295), (71354, 71359),
    (71370, 71375), (71396, 71423), (71451, 71452), (71468, 71471), (71495, 71679), (71740, 71839),
    (71923, 71934), (71943, 71944), (71946, 71947), (71956, 71956), (71959, 71959), (71990, 71990),
    (71993, 71994), (72007, 72015), (72026, 72095), (72104, 72105), (72152, 72153), (72165, 72191),
    (72264, 72271), (72355, 72367), (72441, 72447), (72458, 72543), (72552, 72639), (72674, 72687),
    (72698, 72703), (72713, 72713), (72759, 72759), (72774, 72783), (72813, 72815), (72848, 72849),
    (72872, 72872), (72887, 72959), (72967, 72967), (72970, 72970), (73015, 73017), (73019, 73019),
    (73022, 73022), (73032, 73039), (73050, 73055), (73062, 73062), (73065, 73065), (73103, 73103),
    (73106, 73106), (73113, 73119), (73130, 73135), (73180, 73183), (73194, 73439), (73465, 73471),
    (73489, 73489), (73531, 73533), (73563, 73647), (73649, 73663), (73714, 73726), (74650, 74751),
    (74863, 74863), (74869, 74879), (75076, 77711), (77811, 77823), (78896, 78911), (78934, 78943),
    (82939, 82943), (83527, 90367), (90426, 92159), (92729, 92735), (92767, 92767), (92778, 92781),
    (92863, 92863), (92874, 92879), (92910, 92911), (92918, 92927), (92998, 93007), (93018, 93018),
    (93026, 93026), (93048, 93052), (93072, 93503), (93562, 93759), (93851, 93855), (93881, 93882),
    (93908, 93951), (94027, 94030), (94088, 94094), (94112, 94175), (94181, 94191), (94199, 94207),
    (101590, 101630), (101663, 101759), (101875, 110575), (110580, 110580), (110588, 110588),
    (110591, 110591), (110883, 110897), (110899, 110927), (110931, 110932), (110934, 110947),
    (110952, 110959), (111356, 113663), (113771, 113775), (113789, 113791), (113801, 113807),
    (113818, 113819), (113828, 117759), (118013, 118015), (118452, 118457), (118481, 118495),
    (118513, 118527), (118574, 118575), (118599, 118607), (118724, 118783), (119030, 119039),
    (119079, 119080), (119275, 119295), (119366, 119487), (119508, 119519), (119540, 119551),
    (119639, 119647), (119673, 119807), (119893, 119893), (119965, 119965), (119968, 119969),
    (119971, 119972), (119975, 119976), (119981, 119981), (119994, 119994), (119996, 119996),
    (120004, 120004), (120070, 120070), (120075, 120076), (120085, 120085), (120093, 120093),
    (120122, 120122), (120127, 120127), (120133, 120133), (120135, 120137), (120145, 120145),
    (120486, 120487), (120780, 120781), (121484, 121498), (121504, 121504), (121520, 122623),
    (122655, 122660), (122667, 122879), (122887, 122887), (122905, 122906), (122914, 122914),
    (122917, 122917), (122923, 122927), (122990, 123022), (123024, 123135), (123181, 123183),
    (123198, 123199), (123210, 123213), (123216, 123535), (123567, 123583), (123642, 123646),
    (123648, 124111), (124154, 124367), (124411, 124414), (124416, 124607), (124639, 124639),
    (124662, 124669), (124672, 124895), (124903, 124903), (124908, 124908), (124911, 124911),
    (124927, 124927), (125125, 125126), (125143, 125183), (125260, 125263), (125274, 125277),
    (125280, 126064), (126133, 126208), (126270, 126463), (126468, 126468), (126496, 126496),
    (126499, 126499), (126501, 126502), (126504, 126504), (126515, 126515), (126520, 126520),
    (126522, 126522), (126524, 126529), (126531, 126534), (126536, 126536), (126538, 126538),
    (126540, 126540), (126544, 126544), (126547, 126547), (126549, 126550), (126552, 126552),
    (126554, 126554), (126556, 126556), (126558, 126558), (126560, 126560), (126563, 126563),
    (126565, 126566), (126571, 126571), (126579, 126579), (126584, 126584), (126589, 126589),
    (126591, 126591), (126602, 126602), (126620, 126624), (126628, 126628), (126634, 126634),
    (126652, 126703), (126706, 126975), (127020, 127023), (127124, 127135), (127151, 127152),
    (127168, 127168), (127184, 127184), (127222, 127232), (127406, 127461), (127491, 127503),
    (127548, 127551), (127561, 127567), (127570, 127583), (127590, 127743), (128729, 128731),
    (128749, 128751), (128765, 128767), (128986, 128991), (129004, 129007), (129009, 129023),
    (129036, 129039), (129096, 129103), (129114, 129119), (129160, 129167), (129198, 129199),
    (129212, 129215), (129218, 129231), (129241, 129279), (129624, 129631), (129646, 129647),
    (129661, 129663), (129675, 129677), (129735, 129735), (129737, 129740), (129757, 129758),
    (129771, 129774), (129785, 129791), (129939, 129939), (130043, 131071), (173792, 173823),
    (178206, 178207), (183982, 183983), (191457, 191471), (192094, 194559), (195102, 196607),
    (201547, 201551), (210042, 917759), (918000, 1114111)]

/-- Code points that are replaced by others or by nothing. -/
def altered : List (Nat × Nat) :=
  [(160, 160), (168, 168), (170, 170), (173, 173), (175, 175), (178, 181), (184, 186), (188, 190),
    (192, 214), (216, 222), (256, 256), (258, 258), (260, 260), (262, 262), (264, 264), (266, 266),
    (268, 268), (270, 270), (272, 272), (274, 274), (276, 276), (278, 278), (280, 280), (282, 282),
    (284, 284), (286, 286), (288, 288), (290, 290), (292, 292), (294, 294), (296, 296), (298, 298),
    (300, 300), (302, 302), (304, 304), (306, 308), (310, 310), (313, 313), (315, 315), (317, 317),
    (319, 321), (323, 323), (325, 325), (327, 327), (329, 330), (332, 332), (334, 334), (336, 336),
    (338, 338), (340, 340), (342, 342), (344, 344), (346, 346), (348, 348), (350, 350), (352, 352),
    (354, 354), (356, 356), (358, 358), (360, 360), (362, 362), (364, 364), (366, 366), (368, 368),
    (370, 370), (372, 372), (374, 374), (376, 377), (379, 379), (381, 381), (383, 383), (385, 386),
    (388, 388), (390, 391), (393, 395), (398, 401), (403, 404), (406, 408), (412, 413), (415, 416),
    (418, 418), (420, 420), (422, 423), (425, 425), (428, 428), (430, 431), (433, 435), (437, 437),
    (439, 440), (444, 444), (452, 461), (463, 463), (465, 465), (467, 467), (469, 469), (471, 471),
    (473, 473), (475, 475), (478, 478), (480, 480), (482, 482), (484, 484), (486, 486), (488, 488),
    (490, 490), (492, 492), (494, 494), (497, 500), (502, 504), (506, 506), (508, 508), (510, 510),
    (512, 512), (514, 514), (516, 516), (518, 518), (520, 520), (522, 522), (524, 524), (526, 526),
    (528, 528), (530, 530), (532, 532), (534, 534), (536, 536), (538, 538), (540, 540), (542, 542),
    (544, 544), (546, 546), (548, 548), (550, 550), (552, 552), (554, 554), (556, 556), (558, 558),
    (560, 560), (562, 562), (570, 571), (573, 574), (577, 577), (579, 582), (584, 584), (586, 586),
    (588, 588), (590, 590), (688, 696), (728, 733), (736, 740), (832, 833), (835, 837), (847, 847),
    (880, 880), (882, 882), (884, 884), (886, 886), (890, 890), (894, 895), (900, 906), (908, 908),
    (910, 911), (913, 929), (931, 939), (975, 982), (984, 984), (986, 986), (988, 988), (990, 990),
    (992, 992), (994, 994), (996, 996), (998, 998), (1000, 1000), (1002, 1002), (1004, 1004),
    (1006, 1006), (1008, 1010), (1012, 1013), (1015, 1015), (1017, 1018), (1021, 1071),
    (1120, 1120), (1122, 1122), (1124, 1124), (1126, 1126), (1128, 1128), (1130, 1130),
    (1132, 1132), (1134, 1134), (1136, 1136), (1138, 1138), (1140, 1140), (1142, 1142),
    (1144, 1144), (1146, 1146), (1148, 1148), (1150, 1150), (1152, 1152), (1162, 1162),
    (1164, 1164), (1166, 1166), (1168, 1168), (1170, 1170), (1172, 1172), (1174, 1174),
    (1176, 1176), (1178, 1178), (1180, 1180), (1182, 1182), (1184, 1184), (1186, 1186),
    (1188, 1188), (1190, 1190), (1192, 1192), (1194, 1194), (1196, 1196), (1198, 1198),
    (1200, 1200), (1202, 1202), (1204, 1204), (1206, 1206), (1208, 1208), (1210, 1210),
    (1212, 1212), (1214, 1214), (1216, 1217), (1219, 1219), (1221, 1221), (1223, 1223),
    (1225, 1225), (1227, 1227), (1229, 1229), (1232, 1232), (1234, 1234), (1236, 1236),
    (1238, 1238), (1240, 1240), (1242, 1242), (1244, 1244), (1246, 1246), (1248, 1248),
    (1250, 1250), (1252, 1252), (1254, 1254), (1256, 1256), (1258, 1258), (1260, 1260),
    (1262, 1262), (1264, 1264), (1266, 1266), (1268, 1268), (1270, 1270), (1272, 1272),
    (1274, 1274), (1276, 1276), (1278, 1278), (1280, 1280), (1282, 1282), (1284, 1284),
    (1286, 1286), (1288, 1288), (1290, 1290), (1292, 1292), (1294, 1294), (1296, 1296),
    (1298, 1298), (1300, 1300), (1302, 1302), (1304, 1304), (1306, 1306), (1308, 1308),
    (1310, 1310), (1312, 1312), (1314, 1314), (1316, 1316), (1318, 1318), (1320, 1320),
    (1322, 1322), (1324, 1324), (1326, 1326), (1329, 1366), (1415, 1415), (1653, 1656),
    (2392, 2399), (2524, 2525), (2527, 2527), (2611, 2611), (2614, 2614), (2649, 2651),
    (2654, 2654), (2908, 2909), (3635, 3635), (3763, 3763), (3804, 3805), (3852, 3852),
    (3907, 3907), (3917, 3917), (3922, 3922), (3927, 3927), (3932, 3932), (3945, 3945),
    (3955, 3955), (3957, 3961), (3969, 3969), (3987, 3987), (3997, 3997), (4002, 4002),
    (4007, 4007), (4012, 4012), (4025, 4025), (4256, 4293), (4295, 4295), (4301, 4301),
    (4348, 4348), (4447, 4448), (5112, 5117), (6068, 6069), (6155, 6159), (7296, 7305),
    (7312, 7354), (7357, 7359), (7468, 7470), (7472, 7482), (7484, 7501), (7503, 7530),
    (7544, 7544), (7579, 7615), (7680, 7680), (7682, 7682), (7684, 7684), (7686, 7686),
    (7688, 7688), (7690, 7690), (7692, 7692), (7694, 7694), (7696, 7696), (7698, 7698),
    (7700, 7700), (7702, 7702), (7704, 7704), (7706, 7706), (7708, 7708), (7710, 7710),
    (7712, 7712), (7714, 7714), (7716, 7716), (7718, 7718), (7720, 7720), (7722, 7722),
    (7724, 7724), (7726, 7726), (7728, 7728), (7730, 7730), (7732, 7732), (7734, 7734),
    (7736, 7736), (7738, 7738), (7740, 7740), (7742, 7742), (7744, 7744), (7746, 7746),
    (7748, 7748), (7750, 7750), (7752, 7752), (7754, 7754), (7756, 7756), (7758, 7758),
    (7760, 7760), (7762, 7762), (7764, 7764), (7766, 7766), (7768, 7768), (7770, 7770),
    (7772, 7772), (7774, 7774), (7776, 7776), (7778, 7778), (7780, 7780), (7782, 7782),
    (7784, 7784), (7786, 7786), (7788, 7788), (7790, 7790), (7792, 7792), (7794, 7794),
    (7796, 7796), (7798, 7798), (7800, 7800), (7802, 7802), (7804, 7804), (7806, 7806),
    (7808, 7808), (7810, 7810), (7812, 7812), (7814, 7814), (7816, 7816), (7818, 7818),
    (7820, 7820), (7822, 7822), (7824, 7824), (7826, 7826), (7828, 7828), (7834, 7835),
    (7838, 7838), (7840, 7840), (7842, 7842), (7844, 7844), (7846, 7846), (7848, 7848),
    (7850, 7850), (7852, 7852), (7854, 7854), (7856, 7856), (7858, 7858), (7860, 7860),
    (7862, 7862), (7864, 7864), (7866, 7866), (7868, 7868), (7870, 7870), (7872, 7872),
    (7874, 7874), (7876, 7876), (7878, 7878), (7880, 7880), (7882, 7882), (7884, 7884),
    (7886, 7886), (7888, 7888), (7890, 7890), (7892, 7892), (7894, 7894), (7896, 7896),
    (7898, 7898), (7900, 7900), (7902, 7902), (7904, 7904), (7906, 7906), (7908, 7908),
    (7910, 7910), (7912, 7912), (7914, 7914), (7916, 7916), (7918, 7918), (7920, 7920),
    (7922, 7922), (7924, 7924), (7926, 7926), (7928, 7928), (7930, 7930), (7932, 7932),
    (7934, 7934), (7944, 7951), (7960, 7965), (7976, 7983), (7992, 7999), (8008, 8013),
    (8025, 8025), (8027, 8027), (8029, 8029), (8031, 8031), (8040, 8047), (8049, 8049),
    (8051, 8051), (8053, 8053), (8055, 8055), (8057, 8057), (8059, 8059), (8061, 8061),
    (8064, 8111), (8114, 8116), (8119, 8132), (8135, 8143), (8147, 8147), (8152, 8155),
    (8157, 8159), (8163, 8163), (8168, 8175), (8178, 8180), (8183, 8190), (8192, 8203),
    (8209, 8209), (8215, 8215), (8239, 8239), (8243, 8244), (8246, 8247), (8252, 8252),
    (8254, 8254), (8263, 8265), (8279, 8279), (8287, 8292), (8298, 8305), (8308, 8334),
    (8336, 8348), (8360, 8360), (8448, 8451), (8453, 8455), (8457, 8467), (8469, 8470),
    (8473, 8477), (8480, 8482), (8484, 8484), (8486, 8486), (8488, 8488), (8490, 8493),
    (8495, 8505), (8507, 8512), (8517, 8521), (8528, 8575), (8579, 8579), (8585, 8585),
    (8748, 8749), (8751, 8752), (9001, 9002), (9312, 9351), (9372, 9450), (10764, 10764),
    (10868, 10870), (10972, 10972), (11264, 11311), (11360, 11360), (11362, 11364), (11367, 11367),
    (11369, 11369), (11371, 11371), (11373, 11376), (11378, 11378), (11381, 11381), (11388, 11392),
    (11394, 11394), (11396, 11396), (11398, 11398), (11400, 11400), (11402, 11402), (11404, 11404),
    (11406, 11406), (11408, 11408), (11410, 11410), (11412, 11412), (11414, 11414), (11416, 11416),
    (11418, 11418), (11420, 11420), (11422, 11422), (11424, 11424), (11426, 11426), (11428, 11428),
    (11430, 11430), (11432, 11432), (11434, 11434), (11436, 11436), (11438, 11438), (11440, 11440),
    (11442, 11442), (11444, 11444), (11446, 11446), (11448, 11448), (11450, 11450), (11452, 11452),
    (11454, 11454), (11456, 11456), (11458, 11458), (11460, 11460), (11462, 11462), (11464, 11464),
    (11466, 11466), (11468, 11468), (11470, 11470), (11472, 11472), (11474, 11474), (11476, 11476),
    (11478, 11478), (11480, 11480), (11482, 11482), (11484, 11484), (11486, 11486), (11488, 11488),
    (11490, 11490), (11499, 11499), (11501, 11501), (11506, 11506), (11631, 11631), (11935, 11935),
    (12019, 12019), (12032, 12245), (12288, 12288), (12290, 12290), (12342, 12342), (12344, 12346),
    (12443, 12444), (12447, 12447), (12543, 12543), (12593, 12686), (12690, 12703), (12800, 12830),
    (12832, 12871), (12880, 12926), (12928, 13249), (13251, 13254), (13256, 13271), (13273, 13311),
    (42560, 42560), (42562, 42562), (42564, 42564), (42566, 42566), (42568, 42568), (42570, 42570),
    (42572, 42572), (42574, 42574), (42576, 42576), (42578, 42578), (42580, 42580), (42582, 42582),
    (42584, 42584), (42586, 42586), (42588, 42588), (42590, 42590), (42592, 42592), (42594, 42594),
    (42596, 42596), (42598, 42598), (42600, 42600), (42602, 42602), (42604, 42604), (42624, 42624),
    (42626, 42626), (42628, 42628), (42630, 42630), (42632, 42632), (42634, 42634), (42636, 42636),
    (42638, 42638), (42640, 42640), (42642, 42642), (42644, 42644), (42646, 42646), (42648, 42648),
    (42650, 42650), (42652, 42653), (42786, 42786), (42788, 42788), (42790, 42790), (42792, 42792),
    (42794, 42794), (42796, 42796), (42798, 42798), (42802, 42802), (42804, 42804), (42806, 42806),
    (42808, 42808), (42810, 42810), (42812, 42812), (42814, 42814), (42816, 42816), (42818, 42818),
    (42820, 42820), (42822, 42822), (42824, 42824), (42826, 42826), (42828, 42828), (42830, 42830),
    (42832, 42832), (42834, 42834), (42836, 42836), (42838, 42838), (42840, 42840), (42842, 42842),
    (42844, 42844), (42846, 42846), (42848, 42848), (42850, 42850), (42852, 42852), (42854, 42854),
    (42856, 42856), (42858, 42858), (42860, 42860), (42862, 42862), (42864, 42864), (42873, 42873),
    (42875, 42875), (42877, 42878), (42880, 42880), (42882, 42882), (42884, 42884), (42886, 42886),
    (42891, 42891), (42893, 42893), (42896, 42896), (42898, 42898), (42902, 42902), (42904, 42904),
    (42906, 42906), (42908, 42908), (42910, 42910), (42912, 42912), (42914, 42914), (42916, 42916),
    (42918, 42918), (42920, 42920), (42922, 42926), (42928, 42932), (42934, 42934), (42936, 42936),
    (42938, 42938), (42940, 42940), (42942, 42942), (42944, 42944), (42946, 42946), (42948, 42951),
    (42953, 42953), (42955, 42956), (42958, 42958), (42960, 42960), (42962, 42962), (42964, 42964),
    (42966, 42966), (42968, 42968), (42970, 42970), (42972, 42972), (42993, 42997), (43000, 43001),
    (43868, 43871), (43881, 43881), (43888, 43967), (63744, 64013), (64016, 64016), (64018, 64018),
    (64021, 64030), (64032, 64032), (64034, 64034), (64037, 64038), (64042, 64109), (64112, 64217),
    (64256, 64262), (64275, 64279), (64285, 64285), (64287, 64310), (64312, 64316), (64318, 64318),
    (64320, 64321), (64323, 64324), (64326, 64433), (64467, 64829), (64848, 64911), (64914, 64967),
    (65008, 65020), (65024, 65041), (65043, 65048), (65073, 65092), (65095, 65105), (65108, 65126),
    (65128, 65131), (65136, 65138), (65140, 65140), (65142, 65276), (65279, 65279), (65281, 65470),
    (65474, 65479), (65482, 65487), (65490, 65495), (65498, 65500), (65504, 65510), (65512, 65518),
    (66560, 66599), (66736, 66771), (66928, 66938), (66940, 66954), (66956, 66962), (66964, 66965),
    (67457, 67461), (67463, 67504), (67506, 67514), (68736, 68786), (68944, 68965), (71840, 71871),
    (93760, 93791), (93856, 93880), (113824, 113827), (117974, 118009), (119134, 119140),
    (119155, 119162), (119227, 119232), (119808, 119892), (119894, 119964), (119966, 119967),
    (119970, 119970), (119973, 119974), (119977, 119980), (119982, 119993), (119995, 119995),
    (119997, 120003), (120005, 120069), (120071, 120074), (120077, 120084), (120086, 120092),
    (120094, 120121), (120123, 120126), (120128, 120132), (120134, 120134), (120138, 120144),
    (120146, 120485), (120488, 120779), (120782, 120831), (122928, 122989), (125184, 125217),
    (126464, 126467), (126469, 126495), (126497, 126498), (126500, 126500), (126503, 126503),
    (126505, 126514), (126516, 126519), (126521, 126521), (126523, 126523), (126530, 126530),
    (126535, 126535), (126537, 126537), (126539, 126539), (126541, 126543), (126545, 126546),
    (126548, 126548), (126551, 126551), (126553, 126553), (126555, 126555), (126557, 126557),
    (126559, 126559), (126561, 126562), (126564, 126564), (126567, 126570), (126572, 126578),
    (126580, 126583), (126585, 126588), (126590, 126590), (126592, 126601), (126603, 126619),
    (126625, 126627), (126629, 126633), (126635, 126651), (127233, 127242), (127248, 127278),
    (127280, 127311), (127338, 127340), (127376, 127376), (127488, 127490), (127504, 127547),
    (127552, 127560), (127568, 127569), (130032, 130041), (194560, 195101), (917760, 917999)]

/-- Replacements that are empty or have ASCII characters, first part. -/
def toAsciiLow : List (Nat × Nat × String) :=
  [(160, 160, " "), (168, 168, " \u0308"), (170, 170, "a"), (173, 173, ""), (175, 175, " \u0304"),
    (178, 179, "2"), (180, 180, " \u0301"), (184, 184, " \u0327"), (185, 185, "1"),
    (186, 186, "o"), (188, 188, "1\u20444"), (189, 189, "1\u20442"), (190, 190, "3\u20444"),
    (304, 304, "i\u0307"), (306, 306, "ij"), (307, 307, "ij"), (319, 319, "l\u00b7"),
    (320, 320, "l\u00b7"), (329, 329, "\u02bcn"), (383, 383, "s"), (452, 452, "d\u017e"),
    (453, 453, "d\u017e"), (454, 454, "d\u017e"), (455, 455, "lj"), (456, 456, "lj"),
    (457, 457, "lj"), (458, 458, "nj"), (459, 459, "nj"), (460, 460, "nj"), (497, 497, "dz"),
    (498, 498, "dz"), (499, 499, "dz"), (688, 688, "h"), (690, 690, "j"), (691, 691, "r"),
    (695, 695, "w"), (696, 696, "y"), (728, 728, " \u0306"), (729, 729, " \u0307"),
    (730, 730, " \u030a"), (731, 731, " \u0328"), (732, 732, " \u0303"), (733, 733, " \u030b"),
    (737, 737, "l"), (738, 738, "s"), (739, 739, "x"), (847, 847, ""), (890, 890, " \u03b9"),
    (894, 894, ";"), (900, 900, " \u0301"), (901, 901, " \u0308\u0301"), (4447, 4448, ""),
    (6068, 6069, ""), (6155, 6159, ""), (7468, 7468, "a"), (7470, 7470, "b"), (7472, 7473, "d"),
    (7475, 7482, "g"), (7484, 7484, "o"), (7486, 7486, "p"), (7487, 7487, "r"), (7488, 7489, "t"),
    (7490, 7490, "w"), (7491, 7491, "a"), (7495, 7495, "b"), (7496, 7497, "d"), (7501, 7501, "g"),
    (7503, 7503, "k"), (7504, 7504, "m"), (7506, 7506, "o"), (7510, 7510, "p"), (7511, 7512, "t"),
    (7515, 7515, "v"), (7522, 7522, "i"), (7523, 7523, "r"), (7524, 7525, "u"), (7580, 7580, "c"),
    (7584, 7584, "f"), (7611, 7611, "z"), (7834, 7834, "a\u02be"), (8125, 8125, " \u0313"),
    (8127, 8127, " \u0313"), (8128, 8128, " \u0342"), (8129, 8129, " \u0308\u0342"),
    (8141, 8141, " \u0313\u0300"), (8142, 8142, " \u0313\u0301"), (8143, 8143, " \u0313\u0342"),
    (8157, 8157, " \u0314\u0300"), (8158, 8158, " \u0314\u0301"), (8159, 8159, " \u0314\u0342"),
    (8173, 8173, " \u0308\u0300"), (8174, 8174, " \u0308\u0301"), (8175, 8175, "`"),
    (8189, 8189, " \u0301"), (8190, 8190, " \u0314"), (8192, 8192, " "), (8193, 8193, " "),
    (8194, 8194, " "), (8195, 8195, " "), (8196, 8196, " "), (8197, 8197, " "), (8198, 8198, " "),
    (8199, 8199, " "), (8200, 8200, " "), (8201, 8201, " "), (8202, 8202, " "), (8203, 8203, ""),
    (8215, 8215, " \u0333"), (8239, 8239, " "), (8252, 8252, "!!"), (8254, 8254, " \u0305"),
    (8263, 8263, "??"), (8264, 8264, "?!"), (8265, 8265, "!?"), (8287, 8287, " "),
    (8288, 8292, ""), (8298, 8303, ""), (8304, 8304, "0"), (8305, 8305, "i"), (8308, 8313, "4"),
    (8314, 8314, "+"), (8316, 8316, "="), (8317, 8318, "("), (8319, 8319, "n"), (8320, 8329, "0"),
    (8330, 8330, "+"), (8332, 8332, "="), (8333, 8334, "("), (8336, 8336, "a"), (8337, 8337, "e"),
    (8338, 8338, "o"), (8339, 8339, "x"), (8341, 8341, "h"), (8342, 8345, "k"), (8346, 8346, "p"),
    (8347, 8348, "s"), (8360, 8360, "rs"), (8448, 8448, "a/c"), (8449, 8449, "a/s"),
    (8450, 8450, "c"), (8451, 8451, "\u00b0c"), (8453, 8453, "c/o"), (8454, 8454, "c/u"),
    (8457, 8457, "\u00b0f"), (8458, 8459, "g"), (8460, 8460, "h"), (8461, 8461, "h"),
    (8462, 8462, "h"), (8464, 8464, "i"), (8465, 8465, "i"), (8466, 8466, "l"), (8467, 8467, "l"),
    (8469, 8469, "n"), (8470, 8470, "no"), (8473, 8475, "p"), (8476, 8476, "r"), (8477, 8477, "r"),
    (8480, 8480, "sm"), (8481, 8481, "tel"), (8482, 8482, "tm"), (8484, 8484, "z"),
    (8488, 8488, "z"), (8490, 8490, "k"), (8492, 8493, "b"), (8495, 8495, "e"), (8496, 8497, "e"),
    (8499, 8499, "m"), (8500, 8500, "o"), (8505, 8505, "i"), (8507, 8507, "fax"),
    (8517, 8517, "d"), (8518, 8519, "d"), (8520, 8521, "i"), (8528, 8528, "1\u20447"),
    (8529, 8529, "1\u20449"), (8530, 8530, "1\u204410"), (8531, 8531, "1\u20443"),
    (8532, 8532, "2\u20443"), (8533, 8533, "1\u20445"), (8534, 8534, "2\u20445"),
    (8535, 8535, "3\u20445"), (8536, 8536, "4\u20445"), (8537, 8537, "1\u20446"),
    (8538, 8538, "5\u20446"), (8539, 8539, "1\u20448"), (8540, 8540, "3\u20448"),
    (8541, 8541, "5\u20448"), (8542, 8542, "7\u20448"), (8543, 8543, "1\u2044"), (8544, 8544, "i"),
    (8545, 8545, "ii"), (8546, 8546, "iii"), (8547, 8547, "iv"), (8548, 8548, "v"),
    (8549, 8549, "vi"), (8550, 8550, "vii"), (8551, 8551, "viii"), (8552, 8552, "ix"),
    (8553, 8553, "x"), (8554, 8554, "xi"), (8555, 8555, "xii"), (8556, 8556, "l"),
    (8557, 8558, "c"), (8559, 8559, "m"), (8560, 8560, "i"), (8561, 8561, "ii"),
    (8562, 8562, "iii"), (8563, 8563, "iv"), (8564, 8564, "v"), (8565, 8565, "vi"),
    (8566, 8566, "vii"), (8567, 8567, "viii"), (8568, 8568, "ix"), (8569, 8569, "x"),
    (8570, 8570, "xi"), (8571, 8571, "xii"), (8572, 8572, "l"), (8573, 8574, "c"),
    (8575, 8575, "m"), (8585, 8585, "0\u20443"), (9312, 9320, "1"), (9321, 9321, "10"),
    (9322, 9322, "11"), (9323, 9323, "12"), (9324, 9324, "13"), (9325, 9325, "14"),
    (9326, 9326, "15"), (9327, 9327, "16"), (9328, 9328, "17"), (9329, 9329, "18"),
    (9330, 9330, "19"), (9331, 9331, "20"), (9332, 9332, "(1)"), (9333, 9333, "(2)"),
    (9334, 9334, "(3)"), (9335, 9335, "(4)"), (9336, 9336, "(5)"), (9337, 9337, "(6)"),
    (9338, 9338, "(7)"), (9339, 9339, "(8)"), (9340, 9340, "(9)"), (9341, 9341, "(10)"),
    (9342, 9342, "(11)"), (9343, 9343, "(12)"), (9344, 9344, "(13)"), (9345, 9345, "(14)"),
    (9346, 9346, "(15)"), (9347, 9347, "(16)"), (9348, 9348, "(17)"), (9349, 9349, "(18)"),
    (9350, 9350, "(19)"), (9351, 9351, "(20)"), (9372, 9372, "(a)"), (9373, 9373, "(b)"),
    (9374, 9374, "(c)"), (9375, 9375, "(d)"), (9376, 9376, "(e)"), (9377, 9377, "(f)"),
    (9378, 9378, "(g)"), (9379, 9379, "(h)"), (9380, 9380, "(i)"), (9381, 9381, "(j)"),
    (9382, 9382, "(k)"), (9383, 9383, "(l)"), (9384, 9384, "(m)"), (9385, 9385, "(n)"),
    (9386, 9386, "(o)"), (9387, 9387, "(p)"), (9388, 9388, "(q)"), (9389, 9389, "(r)"),
    (9390, 9390, "(s)"), (9391, 9391, "(t)"), (9392, 9392, "(u)"), (9393, 9393, "(v)"),
    (9394, 9394, "(w)"), (9395, 9395, "(x)"), (9396, 9396, "(y)"), (9397, 9397, "(z)"),
    (9398, 9423, "a"), (9424, 9449, "a"), (9450, 9450, "0"), (10868, 10868, "::="),
    (10869, 10869, "=="), (10870, 10870, "==="), (11388, 11388, "j"), (11389, 11389, "v"),
    (12288, 12288, " "), (12290, 12290, "."), (12443, 12443, " \u3099"), (12444, 12444, " \u309a"),
    (12644, 12644, ""), (12800, 12800, "(\u1100)"), (12801, 12801, "(\u1102)"),
    (12802, 12802, "(\u1103)"), (12803, 12803, "(\u1105)"), (12804, 12804, "(\u1106)"),
    (12805, 12805, "(\u1107)"), (12806, 12806, "(\u1109)"), (12807, 12807, "(\u110b)"),
    (12808, 12808, "(\u110c)"), (12809, 12809, "(\u110e)"), (12810, 12810, "(\u110f)"),
    (12811, 12811, "(\u1110)"), (12812, 12812, "(\u1111)"), (12813, 12813, "(\u1112)"),
    (12814, 12814, "(\uac00)"), (12815, 12815, "(\ub098)"), (12816, 12816, "(\ub2e4)"),
    (12817, 12817, "(\ub77c)"), (12818, 12818, "(\ub9c8)"), (12819, 12819, "(\ubc14)"),
    (12820, 12820, "(\uc0ac)"), (12821, 12821, "(\uc544)"), (12822, 12822, "(\uc790)"),
    (12823, 12823, "(\ucc28)"), (12824, 12824, "(\uce74)"), (12825, 12825, "(\ud0c0)"),
    (12826, 12826, "(\ud30c)"), (12827, 12827, "(\ud558)"), (12828, 12828, "(\uc8fc)"),
    (12829, 12829, "(\uc624\uc804)"), (12830, 12830, "(\uc624\ud6c4)"), (12832, 12832, "(\u4e00)"),
    (12833, 12833, "(\u4e8c)"), (12834, 12834, "(\u4e09)"), (12835, 12835, "(\u56db)"),
    (12836, 12836, "(\u4e94)"), (12837, 12837, "(\u516d)"), (12838, 12838, "(\u4e03)"),
    (12839, 12839, "(\u516b)"), (12840, 12840, "(\u4e5d)"), (12841, 12841, "(\u5341)"),
    (12842, 12842, "(\u6708)"), (12843, 12843, "(\u706b)"), (12844, 12844, "(\u6c34)"),
    (12845, 12845, "(\u6728)"), (12846, 12846, "(\u91d1)"), (12847, 12847, "(\u571f)"),
    (12848, 12848, "(\u65e5)"), (12849, 12849, "(\u682a)"), (12850, 12850, "(\u6709)"),
    (12851, 12851, "(\u793e)"), (12852, 12852, "(\u540d)"), (12853, 12853, "(\u7279)"),
    (12854, 12854, "(\u8ca1)"), (12855, 12855, "(\u795d)"), (12856, 12856, "(\u52b4)"),
    (12857, 12857, "(\u4ee3)"), (12858, 12858, "(\u547c)"), (12859, 12859, "(\u5b66)"),
    (12860, 12860, "(\u76e3)"), (12861, 12861, "(\u4f01)"), (12862, 12862, "(\u8cc7)"),
    (12863, 12863, "(\u5354)"), (12864, 12864, "(\u796d)"), (12865, 12865, "(\u4f11)"),
    (12866, 12866, "(\u81ea)"), (12867, 12867, "(\u81f3)"), (12880, 12880, "pte"),
    (12881, 12881, "21"), (12882, 12882, "22"), (12883, 12883, "23"), (12884, 12884, "24"),
    (12885, 12885, "25"), (12886, 12886, "26"), (12887, 12887, "27"), (12888, 12888, "28"),
    (12889, 12889, "29"), (12890, 12890, "30"), (12891, 12891, "31"), (12892, 12892, "32")]

/-- Replacements that are empty or have ASCII characters, second part. -/
def toAsciiHigh : List (Nat × Nat × String) :=
  [(12893, 12893, "33"), (12894, 12894, "34"), (12895, 12895, "35"), (12977, 12977, "36"),
    (12978, 12978, "37"), (12979, 12979, "38"), (12980, 12980, "39"), (12981, 12981, "40"),
    (12982, 12982, "41"), (12983, 12983, "42"), (12984, 12984, "43"), (12985, 12985, "44"),
    (12986, 12986, "45"), (12987, 12987, "46"), (12988, 12988, "47"), (12989, 12989, "48"),
    (12990, 12990, "49"), (12991, 12991, "50"), (12992, 12992, "1\u6708"),
    (12993, 12993, "2\u6708"), (12994, 12994, "3\u6708"), (12995, 12995, "4\u6708"),
    (12996, 12996, "5\u6708"), (12997, 12997, "6\u6708"), (12998, 12998, "7\u6708"),
    (12999, 12999, "8\u6708"), (13000, 13000, "9\u6708"), (13001, 13001, "10\u6708"),
    (13002, 13002, "11\u6708"), (13003, 13003, "12\u6708"), (13004, 13004, "hg"),
    (13005, 13005, "erg"), (13006, 13006, "ev"), (13007, 13007, "ltd"), (13144, 13144, "0\u70b9"),
    (13145, 13145, "1\u70b9"), (13146, 13146, "2\u70b9"), (13147, 13147, "3\u70b9"),
    (13148, 13148, "4\u70b9"), (13149, 13149, "5\u70b9"), (13150, 13150, "6\u70b9"),
    (13151, 13151, "7\u70b9"), (13152, 13152, "8\u70b9"), (13153, 13153, "9\u70b9"),
    (13154, 13154, "10\u70b9"), (13155, 13155, "11\u70b9"), (13156, 13156, "12\u70b9"),
    (13157, 13157, "13\u70b9"), (13158, 13158, "14\u70b9"), (13159, 13159, "15\u70b9"),
    (13160, 13160, "16\u70b9"), (13161, 13161, "17\u70b9"), (13162, 13162, "18\u70b9"),
    (13163, 13163, "19\u70b9"), (13164, 13164, "20\u70b9"), (13165, 13165, "21\u70b9"),
    (13166, 13166, "22\u70b9"), (13167, 13167, "23\u70b9"), (13168, 13168, "24\u70b9"),
    (13169, 13169, "hpa"), (13170, 13170, "da"), (13171, 13171, "au"), (13172, 13172, "bar"),
    (13173, 13173, "ov"), (13174, 13174, "pc"), (13175, 13175, "dm"), (13176, 13176, "dm2"),
    (13177, 13177, "dm3"), (13178, 13178, "iu"), (13184, 13184, "pa"), (13185, 13185, "na"),
    (13186, 13186, "\u03bca"), (13187, 13187, "ma"), (13188, 13188, "ka"), (13189, 13189, "kb"),
    (13190, 13190, "mb"), (13191, 13191, "gb"), (13192, 13192, "cal"), (13193, 13193, "kcal"),
    (13194, 13194, "pf"), (13195, 13195, "nf"), (13196, 13196, "\u03bcf"),
    (13197, 13197, "\u03bcg"), (13198, 13198, "mg"), (13199, 13199, "kg"), (13200, 13200, "hz"),
    (13201, 13201, "khz"), (13202, 13202, "mhz"), (13203, 13203, "ghz"), (13204, 13204, "thz"),
    (13205, 13205, "\u03bcl"), (13206, 13206, "ml"), (13207, 13207, "dl"), (13208, 13208, "kl"),
    (13209, 13209, "fm"), (13210, 13210, "nm"), (13211, 13211, "\u03bcm"), (13212, 13212, "mm"),
    (13213, 13213, "cm"), (13214, 13214, "km"), (13215, 13215, "mm2"), (13216, 13216, "cm2"),
    (13217, 13217, "m2"), (13218, 13218, "km2"), (13219, 13219, "mm3"), (13220, 13220, "cm3"),
    (13221, 13221, "m3"), (13222, 13222, "km3"), (13223, 13223, "m\u2215s"),
    (13224, 13224, "m\u2215s2"), (13225, 13225, "pa"), (13226, 13226, "kpa"),
    (13227, 13227, "mpa"), (13228, 13228, "gpa"), (13229, 13229, "rad"),
    (13230, 13230, "rad\u2215s"), (13231, 13231, "rad\u2215s2"), (13232, 13232, "ps"),
    (13233, 13233, "ns"), (13234, 13234, "\u03bcs"), (13235, 13235, "ms"), (13236, 13236, "pv"),
    (13237, 13237, "nv"), (13238, 13238, "\u03bcv"), (13239, 13239, "mv"), (13240, 13240, "kv"),
    (13241, 13241, "mv"), (13242, 13242, "pw"), (13243, 13243, "nw"), (13244, 13244, "\u03bcw"),
    (13245, 13245, "mw"), (13246, 13246, "kw"), (13247, 13247, "mw"), (13248, 13248, "k\u03c9"),
    (13249, 13249, "m\u03c9"), (13251, 13251, "bq"), (13252, 13252, "cc"), (13253, 13253, "cd"),
    (13254, 13254, "c\u2215kg"), (13256, 13256, "db"), (13257, 13257, "gy"), (13258, 13258, "ha"),
    (13259, 13259, "hp"), (13260, 13260, "in"), (13261, 13261, "kk"), (13262, 13262, "km"),
    (13263, 13263, "kt"), (13264, 13264, "lm"), (13265, 13265, "ln"), (13266, 13266, "log"),
    (13267, 13267, "lx"), (13268, 13268, "mb"), (13269, 13269, "mil"), (13270, 13270, "mol"),
    (13271, 13271, "ph"), (13273, 13273, "ppm"), (13274, 13274, "pr"), (13275, 13275, "sr"),
    (13276, 13276, "sv"), (13277, 13277, "wb"), (13278, 13278, "v\u2215m"),
    (13279, 13279, "a\u2215m"), (13280, 13280, "1\u65e5"), (13281, 13281, "2\u65e5"),
    (13282, 13282, "3\u65e5"), (13283, 13283, "4\u65e5"), (13284, 13284, "5\u65e5"),
    (13285, 13285, "6\u65e5"), (13286, 13286, "7\u65e5"), (13287, 13287, "8\u65e5"),
    (13288, 13288, "9\u65e5"), (13289, 13289, "10\u65e5"), (13290, 13290, "11\u65e5"),
    (13291, 13291, "12\u65e5"), (13292, 13292, "13\u65e5"), (13293, 13293, "14\u65e5"),
    (13294, 13294, "15\u65e5"), (13295, 13295, "16\u65e5"), (13296, 13296, "17\u65e5"),
    (13297, 13297, "18\u65e5"), (13298, 13298, "19\u65e5"), (13299, 13299, "20\u65e5"),
    (13300, 13300, "21\u65e5"), (13301, 13301, "22\u65e5"), (13302, 13302, "23\u65e5"),
    (13303, 13303, "24\u65e5"), (13304, 13304, "25\u65e5"), (13305, 13305, "26\u65e5"),
    (13306, 13306, "27\u65e5"), (13307, 13307, "28\u65e5"), (13308, 13308, "29\u65e5"),
    (13309, 13309, "30\u65e5"), (13310, 13310, "31\u65e5"), (13311, 13311, "gal"),
    (42993, 42993, "s"), (42994, 42994, "c"), (42995, 42995, "f"), (42996, 42996, "q"),
    (64256, 64256, "ff"), (64257, 64257, "fi"), (64258, 64258, "fl"), (64259, 64259, "ffi"),
    (64260, 64260, "ffl"), (64261, 64261, "st"), (64262, 64262, "st"), (64297, 64297, "+"),
    (64606, 64606, " \u064c\u0651"), (64607, 64607, " \u064d\u0651"),
    (64608, 64608, " \u064e\u0651"), (64609, 64609, " \u064f\u0651"),
    (64610, 64610, " \u0650\u0651"), (64611, 64611, " \u0651\u0670"),
    (65018, 65018, "\u0635\u0644\u0649 \u0627\u0644\u0644\u0647 \u0639\u0644\u064a\u0647 \u0648\u0633\u0644\u0645"),
    (65019, 65019, "\u062c\u0644 \u062c\u0644\u0627\u0644\u0647"), (65024, 65039, ""),
    (65040, 65040, ","), (65043, 65044, ":"), (65045, 65045, "!"), (65046, 65046, "?"),
    (65075, 65075, "_"), (65076, 65076, "_"), (65077, 65078, "("), (65079, 65079, "\x7b"),
    (65080, 65080, "\x7d"), (65095, 65095, "["), (65096, 65096, "]"), (65097, 65097, " \u0305"),
    (65098, 65098, " \u0305"), (65099, 65099, " \u0305"), (65100, 65100, " \u0305"),
    (65101, 65101, "_"), (65102, 65102, "_"), (65103, 65103, "_"), (65104, 65104, ","),
    (65108, 65108, ";"), (65109, 65109, ":"), (65110, 65110, "?"), (65111, 65111, "!"),
    (65113, 65114, "("), (65115, 65115, "\x7b"), (65116, 65116, "\x7d"), (65119, 65119, "#"),
    (65120, 65120, "&"), (65121, 65122, "*"), (65123, 65123, "-"), (65124, 65124, "<"),
    (65125, 65125, ">"), (65126, 65126, "="), (65128, 65128, "\\"), (65129, 65130, "$"),
    (65131, 65131, "@"), (65136, 65136, " \u064b"), (65138, 65138, " \u064c"),
    (65140, 65140, " \u064d"), (65142, 65142, " \u064e"), (65144, 65144, " \u064f"),
    (65146, 65146, " \u0650"), (65148, 65148, " \u0651"), (65150, 65150, " \u0652"),
    (65279, 65279, ""), (65281, 65312, "!"), (65313, 65338, "a"), (65339, 65374, "["),
    (65377, 65377, "."), (65440, 65440, ""), (65507, 65507, " \u0304"), (67493, 67493, "q"),
    (113824, 113827, ""), (117974, 117999, "a"), (118000, 118009, "0"), (119155, 119162, ""),
    (119808, 119833, "a"), (119834, 119859, "a"), (119860, 119885, "a"), (119886, 119892, "a"),
    (119894, 119911, "i"), (119912, 119937, "a"), (119938, 119963, "a"), (119964, 119964, "a"),
    (119966, 119967, "c"), (119970, 119970, "g"), (119973, 119974, "j"), (119977, 119980, "n"),
    (119982, 119989, "s"), (119990, 119993, "a"), (119995, 119995, "f"), (119997, 120003, "h"),
    (120005, 120015, "p"), (120016, 120041, "a"), (120042, 120067, "a"), (120068, 120069, "a"),
    (120071, 120074, "d"), (120077, 120084, "j"), (120086, 120092, "s"), (120094, 120119, "a"),
    (120120, 120121, "a"), (120123, 120126, "d"), (120128, 120132, "i"), (120134, 120134, "o"),
    (120138, 120144, "s"), (120146, 120171, "a"), (120172, 120197, "a"), (120198, 120223, "a"),
    (120224, 120249, "a"), (120250, 120275, "a"), (120276, 120301, "a"), (120302, 120327, "a"),
    (120328, 120353, "a"), (120354, 120379, "a"), (120380, 120405, "a"), (120406, 120431, "a"),
    (120432, 120457, "a"), (120458, 120483, "a"), (120782, 120791, "0"), (120792, 120801, "0"),
    (120802, 120811, "0"), (120812, 120821, "0"), (120822, 120831, "0"), (127233, 127233, "0,"),
    (127234, 127234, "1,"), (127235, 127235, "2,"), (127236, 127236, "3,"), (127237, 127237, "4,"),
    (127238, 127238, "5,"), (127239, 127239, "6,"), (127240, 127240, "7,"), (127241, 127241, "8,"),
    (127242, 127242, "9,"), (127248, 127248, "(a)"), (127249, 127249, "(b)"),
    (127250, 127250, "(c)"), (127251, 127251, "(d)"), (127252, 127252, "(e)"),
    (127253, 127253, "(f)"), (127254, 127254, "(g)"), (127255, 127255, "(h)"),
    (127256, 127256, "(i)"), (127257, 127257, "(j)"), (127258, 127258, "(k)"),
    (127259, 127259, "(l)"), (127260, 127260, "(m)"), (127261, 127261, "(n)"),
    (127262, 127262, "(o)"), (127263, 127263, "(p)"), (127264, 127264, "(q)"),
    (127265, 127265, "(r)"), (127266, 127266, "(s)"), (127267, 127267, "(t)"),
    (127268, 127268, "(u)"), (127269, 127269, "(v)"), (127270, 127270, "(w)"),
    (127271, 127271, "(x)"), (127272, 127272, "(y)"), (127273, 127273, "(z)"),
    (127274, 127274, "\u3014s\u3015"), (127275, 127275, "c"), (127276, 127276, "r"),
    (127277, 127277, "cd"), (127278, 127278, "wz"), (127280, 127305, "a"), (127306, 127306, "hv"),
    (127307, 127307, "mv"), (127308, 127308, "sd"), (127309, 127309, "ss"),
    (127310, 127310, "ppv"), (127311, 127311, "wc"), (127338, 127338, "mc"),
    (127339, 127339, "md"), (127340, 127340, "mr"), (127376, 127376, "dj"), (130032, 130041, "0"),
    (917760, 917999, "")]

/-- Replacements that are empty or have ASCII characters. -/
def toAscii : List (Nat × Nat × String) := toAsciiLow ++ toAsciiHigh

/-- Code points of the general category Mark. -/
def marks : List (Nat × Nat) :=
  [(768, 879), (1155, 1161), (1425, 1469), (1471, 1471), (1473, 1474), (1476, 1477), (1479, 1479),
    (1552, 1562), (1611, 1631), (1648, 1648), (1750, 1756), (1759, 1764), (1767, 1768),
    (1770, 1773), (1809, 1809), (1840, 1866), (1958, 1968), (2027, 2035), (2045, 2045),
    (2070, 2073), (2075, 2083), (2085, 2087), (2089, 2093), (2137, 2139), (2199, 2207),
    (2250, 2273), (2275, 2307), (2362, 2364), (2366, 2383), (2385, 2391), (2402, 2403),
    (2433, 2435), (2492, 2492), (2494, 2500), (2503, 2504), (2507, 2509), (2519, 2519),
    (2530, 2531), (2558, 2558), (2561, 2563), (2620, 2620), (2622, 2626), (2631, 2632),
    (2635, 2637), (2641, 2641), (2672, 2673), (2677, 2677), (2689, 2691), (2748, 2748),
    (2750, 2757), (2759, 2761), (2763, 2765), (2786, 2787), (2810, 2815), (2817, 2819),
    (2876, 2876), (2878, 2884), (2887, 2888), (2891, 2893), (2901, 2903), (2914, 2915),
    (2946, 2946), (3006, 3010), (3014, 3016), (3018, 3021), (3031, 3031), (3072, 3076),
    (3132, 3132), (3134, 3140), (3142, 3144), (3146, 3149), (3157, 3158), (3170, 3171),
    (3201, 3203), (3260, 3260), (3262, 3268), (3270, 3272), (3274, 3277), (3285, 3286),
    (3298, 3299), (3315, 3315), (3328, 3331), (3387, 3388), (3390, 3396), (3398, 3400),
    (3402, 3405), (3415, 3415), (3426, 3427), (3457, 3459), (3530, 3530), (3535, 3540),
    (3542, 3542), (3544, 3551), (3570, 3571), (3633, 3633), (3636, 3642), (3655, 3662),
    (3761, 3761), (3764, 3772), (3784, 3790), (3864, 3865), (3893, 3893), (3895, 3895),
    (3897, 3897), (3902, 3903), (3953, 3972), (3974, 3975), (3981, 3991), (3993, 4028),
    (4038, 4038), (4139, 4158), (4182, 4185), (4190, 4192), (4194, 4196), (4199, 4205),
    (4209, 4212), (4226, 4237), (4239, 4239), (4250, 4253), (4957, 4959), (5906, 5909),
    (5938, 5940), (5970, 5971), (6002, 6003), (6068, 6099), (6109, 6109), (6155, 6157),
    (6159, 6159), (6277, 6278), (6313, 6313), (6432, 6443), (6448, 6459), (6679, 6683),
    (6741, 6750), (6752, 6780), (6783, 6783), (6832, 6877), (6880, 6891), (6912, 6916),
    (6964, 6980), (7019, 7027), (7040, 7042), (7073, 7085), (7142, 7155), (7204, 7223),
    (7376, 7378), (7380, 7400), (7405, 7405), (7412, 7412), (7415, 7417), (7616, 7679),
    (8400, 8432), (11503, 11505), (11647, 11647), (11744, 11775), (12330, 12335), (12441, 12442),
    (42607, 42610), (42612, 42621), (42654, 42655), (42736, 42737), (43010, 43010), (43014, 43014),
    (43019, 43019), (43043, 43047), (43052, 43052), (43136, 43137), (43188, 43205), (43232, 43249),
    (43263, 43263), (43302, 43309), (43335, 43347), (43392, 43395), (43443, 43456), (43493, 43493),
    (43561, 43574), (43587, 43587), (43596, 43597), (43643, 43645), (43696, 43696), (43698, 43700),
    (43703, 43704), (43710, 43711), (43713, 43713), (43755, 43759), (43765, 43766), (44003, 44010),
    (44012, 44013), (64286, 64286), (65024, 65039), (65056, 65071), (66045, 66045), (66272, 66272),
    (66422, 66426), (68097, 68099), (68101, 68102), (68108, 68111), (68152, 68154), (68159, 68159),
    (68325, 68326), (68900, 68903), (68969, 68973), (69291, 69292), (69370, 69375), (69446, 69456),
    (69506, 69509), (69632, 69634), (69688, 69702), (69744, 69744), (69747, 69748), (69759, 69762),
    (69808, 69818), (69826, 69826), (69888, 69890), (69927, 69940), (69957, 69958), (70003, 70003),
    (70016, 70018), (70067, 70080), (70089, 70092), (70094, 70095), (70188, 70199), (70206, 70206),
    (70209, 70209), (70367, 70378), (70400, 70403), (70459, 70460), (70462, 70468), (70471, 70472),
    (70475, 70477), (70487, 70487), (70498, 70499), (70502, 70508), (70512, 70516), (70584, 70592),
    (70594, 70594), (70597, 70597), (70599, 70602), (70604, 70608), (70610, 70610), (70625, 70626),
    (70709, 70726), (70750, 70750), (70832, 70851), (71087, 71093), (71096, 71104), (71132, 71133),
    (71216, 71232), (71339, 71351), (71453, 71467), (71724, 71738), (71984, 71989), (71991, 71992),
    (71995, 71998), (72000, 72000), (72002, 72003), (72145, 72151), (72154, 72160), (72164, 72164),
    (72193, 72202), (72243, 72249), (72251, 72254), (72263, 72263), (72273, 72283), (72330, 72345),
    (72544, 72551), (72751, 72758), (72760, 72767), (72850, 72871), (72873, 72886), (73009, 73014),
    (73018, 73018), (73020, 73021), (73023, 73029), (73031, 73031), (73098, 73102), (73104, 73105),
    (73107, 73111), (73459, 73462), (73472, 73473), (73475, 73475), (73524, 73530), (73534, 73538),
    (73562, 73562), (78912, 78912), (78919, 78933), (90398, 90415), (92912, 92916), (92976, 92982),
    (94031, 94031), (94033, 94087), (94095, 94098), (94180, 94180), (94192, 94193),
    (113821, 113822), (118528, 118573), (118576, 118598), (119141, 119145), (119149, 119154),
    (119163, 119170), (119173, 119179), (119210, 119213), (119362, 119364), (121344, 121398),
    (121403, 121452), (121461, 121461), (121476, 121476), (121499, 121503), (121505, 121519),
    (122880, 122886), (122888, 122904), (122907, 122913), (122915, 122916), (122918, 122922),
    (123023, 123023), (123184, 123190), (123566, 123566), (123628, 123631), (124140, 124143),
    (124398, 124399), (124643, 124643), (124646, 124646), (124654, 124655), (124661, 124661),
    (125136, 125142), (125252, 125258), (917760, 917999)]

/-- The replacement of a code point, if it is empty or has ASCII characters. -/
def replacement? (n : Nat) : Option (List Char) :=
  (toAscii.find? fun r => r.1 ≤ n && n ≤ r.2.1).map fun r =>
    match r.2.2.toList with
    | [c] => [Char.ofNat (c.toNat + (n - r.1))]
    | cs => cs

end Sluice.DomainTable
