import ActorDiagram.Text.Ranges

/-!
Lower-case letters of Unicode 14, and the small form of the letters that names of types and files
are compared by.
-/

namespace ActorDiagram.Text

/-- Lower-case characters beyond ASCII: small letters of the scripts that have two cases, the
ordinal indicators, small Roman numerals and circled letters. -/
def lowerCaseRanges : List (Nat × Nat) := [
  (170, 170), (181, 181), (186, 186), (223, 246), (248, 255), (257, 257), (259, 259),
  (261, 261), (263, 263), (265, 265), (267, 267), (269, 269), (271, 271), (273, 273),
  (275, 275), (277, 277), (279, 279), (281, 281), (283, 283), (285, 285), (287, 287),
  (289, 289), (291, 291), (293, 293), (295, 295), (297, 297), (299, 299), (301, 301),
  (303, 303), (305, 305), (307, 307), (309, 309), (311, 312), (314, 314), (316, 316),
  (318, 318), (320, 320), (322, 322), (324, 324), (326, 326), (328, 329), (331, 331),
  (333, 333), (335, 335), (337, 337), (339, 339), (341, 341), (343, 343), (345, 345),
  (347, 347), (349, 349), (351, 351), (353, 353), (355, 355), (357, 357), (359, 359),
  (361, 361), (363, 363), (365, 365), (367, 367), (369, 369), (371, 371), (373, 373),
  (375, 375), (378, 378), (380, 380), (382, 384), (387, 387), (389, 389), (392, 392),
  (396, 397), (402, 402), (405, 405), (409, 411), (414, 414), (417, 417), (419, 419),
  (421, 421), (424, 424), (426, 427), (429, 429), (432, 432), (436, 436), (438, 438),
  (441, 442), (445, 447), (454, 454), (457, 457), (460, 460), (462, 462), (464, 464),
  (466, 466), (468, 468), (470, 470), (472, 472), (474, 474), (476, 477), (479, 479),
  (481, 481), (483, 483), (485, 485), (487, 487), (489, 489), (491, 491), (493, 493),
  (495, 496), (499, 499), (501, 501), (505, 505), (507, 507), (509, 509), (511, 511),
  (513, 513), (515, 515), (517, 517), (519, 519), (521, 521), (523, 523), (525, 525),
  (527, 527), (529, 529), (531, 531), (533, 533), (535, 535), (537, 537), (539, 539),
  (541, 541), (543, 543), (545, 545), (547, 547), (549, 549), (551, 551), (553, 553),
  (555, 555), (557, 557), (559, 559), (561, 561), (563, 569), (572, 572), (575, 576),
  (578, 578), (583, 583), (585, 585), (587, 587), (589, 589), (591, 659), (661, 696),
  (704, 705), (736, 740), (837, 837), (881, 881), (883, 883), (887, 887), (890, 893),
  (912, 912), (940, 974), (976, 977), (981, 983), (985, 985), (987, 987), (989, 989),
  (991, 991), (993, 993), (995, 995), (997, 997), (999, 999), (1001, 1001), (1003, 1003),
  (1005, 1005), (1007, 1011), (1013, 1013), (1016, 1016), (1019, 1020), (1072, 1119),
  (1121, 1121), (1123, 1123), (1125, 1125), (1127, 1127), (1129, 1129), (1131, 1131),
  (1133, 1133), (1135, 1135), (1137, 1137), (1139, 1139), (1141, 1141), (1143, 1143),
  (1145, 1145), (1147, 1147), (1149, 1149), (1151, 1151), (1153, 1153), (1163, 1163),
  (1165, 1165), (1167, 1167), (1169, 1169), (1171, 1171), (1173, 1173), (1175, 1175),
  (1177, 1177), (1179, 1179), (1181, 1181), (1183, 1183), (1185, 1185), (1187, 1187),
  (1189, 1189), (1191, 1191), (1193, 1193), (1195, 1195), (1197, 1197), (1199, 1199),
  (1201, 1201), (1203, 1203), (1205, 1205), (1207, 1207), (1209, 1209), (1211, 1211),
  (1213, 1213), (1215, 1215), (1218, 1218), (1220, 1220), (1222, 1222), (1224, 1224),
  (1226, 1226), (1228, 1228), (1230, 1231), (1233, 1233), (1235, 1235), (1237, 1237),
  (1239, 1239), (1241, 1241), (1243, 1243), (1245, 1245), (1247, 1247), (1249, 1249),
  (1251, 1251), (1253, 1253), (1255, 1255), (1257, 1257), (1259, 1259), (1261, 1261),
  (1263, 1263), (1265, 1265), (1267, 1267), (1269, 1269), (1271, 1271), (1273, 1273),
  (1275, 1275), (1277, 1277), (1279, 1279), (1281, 1281), (1283, 1283), (1285, 1285),
  (1287, 1287), (1289, 1289), (1291, 1291), (1293, 1293), (1295, 1295), (1297, 1297),
  (1299, 1299), (1301, 1301), (1303, 1303), (1305, 1305), (1307, 1307), (1309, 1309),
  (1311, 1311), (1313, 1313), (1315, 1315), (1317, 1317), (1319, 1319), (1321, 1321),
  (1323, 1323), (1325, 1325), (1327, 1327), (1376, 1416), (4304, 4346), (4349, 4351),
  (5112, 5117), (7296, 7304), (7424, 7615), (7681, 7681), (7683, 7683), (7685, 7685),
  (7687, 7687), (7689, 7689), (7691, 7691), (7693, 7693), (7695, 7695), (7697, 7697),
  (7699, 7699), (7701, 7701), (7703, 7703), (7705, 7705), (7707, 7707), (7709, 7709),
  (7711, 7711), (7713, 7713), (7715, 7715), (7717, 7717), (7719, 7719), (7721, 7721),
  (7723, 7723), (7725, 7725), (7727, 7727), (7729, 7729), (7731, 7731), (7733, 7733),
  (7735, 7735), (7737, 7737), (7739, 7739), (7741, 7741), (7743, 7743), (7745, 7745),
  (7747, 7747), (7749, 7749), (7751, 7751), (7753, 7753), (7755, 7755), (7757, 7757),
  (7759, 7759), (7761, 7761), (7763, 7763), (7765, 7765), (7767, 7767), (7769, 7769),
  (7771, 7771), (7773, 7773), (7775, 7775), (7777, 7777), (7779, 7779), (7781, 7781),
  (7783, 7783), (7785, 7785), (7787, 7787), (7789, 7789), (7791, 7791), (7793, 7793),
  (7795, 7795), (7797, 7797), (7799, 7799), (7801, 7801), (7803, 7803), (7805, 7805),
  (7807, 7807), (7809, 7809), (7811, 7811), (7813, 7813), (7815, 7815), (7817, 7817),
  (7819, 7819), (7821, 7821), (7823, 7823), (7825, 7825), (7827, 7827), (7829, 7837),
  (7839, 7839), (7841, 7841), (7843, 7843), (7845, 7845), (7847, 7847), (7849, 7849),
  (7851, 7851), (7853, 7853), (7855, 7855), (7857, 7857), (7859, 7859), (7861, 7861),
  (7863, 7863), (7865, 7865), (7867, 7867), (7869, 7869), (7871, 7871), (7873, 7873),
  (7875, 7875), (7877, 7877), (7879, 7879), (7881, 7881), (7883, 7883), (7885, 7885),
  (7887, 7887), (7889, 7889), (7891, 7891), (7893, 7893), (7895, 7895), (7897, 7897),
  (7899, 7899), (7901, 7901), (7903, 7903), (7905, 7905), (7907, 7907), (7909, 7909),
  (7911, 7911), (7913, 7913), (7915, 7915), (7917, 7917), (7919, 7919), (7921, 7921),
  (7923, 7923), (7925, 7925), (7927, 7927), (7929, 7929), (7931, 7931), (7933, 7933),
  (7935, 7943), (7952, 7957), (7968, 7975), (7984, 7991), (8000, 8005), (8016, 8023),
  (8032, 8039), (8048, 8061), (8064, 8071), (8080, 8087), (8096, 8103), (8112, 8116),
  (8118, 8119), (8126, 8126), (8130, 8132), (8134, 8135), (8144, 8147), (8150, 8151),
  (8160, 8167), (8178, 8180), (8182, 8183), (8305, 8305), (8319, 8319), (8336, 8348),
  (8458, 8458), (8462, 8463), (8467, 8467), (8495, 8495), (8500, 8500), (8505, 8505),
  (8508, 8509), (8518, 8521), (8526, 8526), (8560, 8575), (8580, 8580), (9424, 9449),
  (11312, 11359), (11361, 11361), (11365, 11366), (11368, 11368), (11370, 11370),
  (11372, 11372), (11377, 11377), (11379, 11380), (11382, 11389), (11393, 11393),
  (11395, 11395), (11397, 11397), (11399, 11399), (11401, 11401), (11403, 11403),
  (11405, 11405), (11407, 11407), (11409, 11409), (11411, 11411), (11413, 11413),
  (11415, 11415), (11417, 11417), (11419, 11419), (11421, 11421), (11423, 11423),
  (11425, 11425), (11427, 11427), (11429, 11429), (11431, 11431), (11433, 11433),
  (11435, 11435), (11437, 11437), (11439, 11439), (11441, 11441), (11443, 11443),
  (11445, 11445), (11447, 11447), (11449, 11449), (11451, 11451), (11453, 11453),
  (11455, 11455), (11457, 11457), (11459, 11459), (11461, 11461), (11463, 11463),
  (11465, 11465), (11467, 11467), (11469, 11469), (11471, 11471), (11473, 11473),
  (11475, 11475), (11477, 11477), (11479, 11479), (11481, 11481), (11483, 11483),
  (11485, 11485), (11487, 11487), (11489, 11489), (11491, 11492), (11500, 11500),
  (11502, 11502), (11507, 11507), (11520, 11557), (11559, 11559), (11565, 11565),
  (42561, 42561), (42563, 42563), (42565, 42565), (42567, 42567), (42569, 42569),
  (42571, 42571), (42573, 42573), (42575, 42575), (42577, 42577), (42579, 42579),
  (42581, 42581), (42583, 42583), (42585, 42585), (42587, 42587), (42589, 42589),
  (42591, 42591), (42593, 42593), (42595, 42595), (42597, 42597), (42599, 42599),
  (42601, 42601), (42603, 42603), (42605, 42605), (42625, 42625), (42627, 42627),
  (42629, 42629), (42631, 42631), (42633, 42633), (42635, 42635), (42637, 42637),
  (42639, 42639), (42641, 42641), (42643, 42643), (42645, 42645), (42647, 42647),
  (42649, 42649), (42651, 42653), (42787, 42787), (42789, 42789), (42791, 42791),
  (42793, 42793), (42795, 42795), (42797, 42797), (42799, 42801), (42803, 42803),
  (42805, 42805), (42807, 42807), (42809, 42809), (42811, 42811), (42813, 42813),
  (42815, 42815), (42817, 42817), (42819, 42819), (42821, 42821), (42823, 42823),
  (42825, 42825), (42827, 42827), (42829, 42829), (42831, 42831), (42833, 42833),
  (42835, 42835), (42837, 42837), (42839, 42839), (42841, 42841), (42843, 42843),
  (42845, 42845), (42847, 42847), (42849, 42849), (42851, 42851), (42853, 42853),
  (42855, 42855), (42857, 42857), (42859, 42859), (42861, 42861), (42863, 42872),
  (42874, 42874), (42876, 42876), (42879, 42879), (42881, 42881), (42883, 42883),
  (42885, 42885), (42887, 42887), (42892, 42892), (42894, 42894), (42897, 42897),
  (42899, 42901), (42903, 42903), (42905, 42905), (42907, 42907), (42909, 42909),
  (42911, 42911), (42913, 42913), (42915, 42915), (42917, 42917), (42919, 42919),
  (42921, 42921), (42927, 42927), (42933, 42933), (42935, 42935), (42937, 42937),
  (42939, 42939), (42941, 42941), (42943, 42943), (42945, 42945), (42947, 42947),
  (42952, 42952), (42954, 42954), (42961, 42961), (42963, 42963), (42965, 42965),
  (42967, 42967), (42969, 42969), (42998, 42998), (43000, 43002), (43824, 43866),
  (43868, 43880), (43888, 43967), (64256, 64262), (64275, 64279), (65345, 65370),
  (66600, 66639), (66776, 66811), (66967, 66977), (66979, 66993), (66995, 67001),
  (67003, 67004), (67456, 67456), (67459, 67461), (67463, 67504), (67506, 67514),
  (68800, 68850), (71872, 71903), (93792, 93823), (119834, 119859), (119886, 119892),
  (119894, 119911), (119938, 119963), (119990, 119993), (119995, 119995), (119997, 120003),
  (120005, 120015), (120042, 120067), (120094, 120119), (120146, 120171), (120198, 120223),
  (120250, 120275), (120302, 120327), (120354, 120379), (120406, 120431), (120458, 120485),
  (120514, 120538), (120540, 120545), (120572, 120596), (120598, 120603), (120630, 120654),
  (120656, 120661), (120688, 120712), (120714, 120719), (120746, 120770), (120772, 120777),
  (120779, 120779), (122624, 122633), (122635, 122654), (125218, 125251)]

/-- Lower-case character. A letter of a script without cases is none. -/
def isLowerCase (c : Char) : Bool :=
  if c.toNat < 128 then c.isLower else inRanges lowerCaseRanges c.toNat

/-- Small form of a letter, as far as it is an ASCII letter: capitals of ASCII, and the Kelvin
sign, whose small form is `k`. -/
def toLowerCase (c : Char) : Char :=
  if c = '\u212a' then 'k' else c.toLower

end ActorDiagram.Text
