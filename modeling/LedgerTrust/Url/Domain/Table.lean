import LedgerTrust.Text.Ranges

/-!
# The characters of domains

Before a domain is looked up, some of its characters are replaced by others: capital letters by
small ones, and characters that are variants of others by those. The lists here say what
becomes of a character, under the rules for domains of Unicode 17; a character that is in none
of them cannot stand in a domain. One whose replacement is its composed form is listed with
those that are kept, since texts are composed later.
-/

namespace LedgerTrust.Url.Domain

/-- The ranges of the characters that are kept. -/
def keptRanges : List (Nat × Nat) :=
  [(0x0, 0x40), (0x5b, 0x7f), (0xa1, 0xa7), (0xa9, 0xa9), (0xab, 0xac), (0xae, 0xae), (0xb0, 0xb1),
   (0xb6, 0xb7), (0xbb, 0xbb), (0xbf, 0xbf), (0xd7, 0xd7), (0xdf, 0xff), (0x131, 0x131),
   (0x138, 0x138), (0x180, 0x180), (0x18d, 0x18d), (0x195, 0x195), (0x19a, 0x19b), (0x19e, 0x19e),
   (0x1aa, 0x1ab), (0x1ba, 0x1bb), (0x1be, 0x1c3), (0x1dd, 0x1dd), (0x1f0, 0x1f0), (0x221, 0x221),
   (0x234, 0x239), (0x23f, 0x240), (0x250, 0x2af), (0x2b9, 0x2d7), (0x2de, 0x2df), (0x2e5, 0x344),
   (0x346, 0x34e), (0x350, 0x36f), (0x374, 0x375), (0x37b, 0x37e), (0x387, 0x387), (0x390, 0x390),
   (0x3ac, 0x3ce), (0x3d7, 0x3d7), (0x3f3, 0x3f3), (0x3f6, 0x3f6), (0x3fc, 0x3fc), (0x430, 0x45f),
   (0x482, 0x489), (0x4cf, 0x4cf), (0x559, 0x586), (0x588, 0x58a), (0x58d, 0x58f), (0x591, 0x5c7),
   (0x5d0, 0x5ea), (0x5ef, 0x5f4), (0x606, 0x61b), (0x61d, 0x674), (0x679, 0x6dc), (0x6de, 0x70d),
   (0x710, 0x74a), (0x74d, 0x7b1), (0x7c0, 0x7fa), (0x7fd, 0x82d), (0x830, 0x83e), (0x840, 0x85b),
   (0x85e, 0x85e), (0x860, 0x86a), (0x870, 0x88f), (0x897, 0x8e1), (0x8e3, 0x983), (0x985, 0x98c),
   (0x98f, 0x990), (0x993, 0x9a8), (0x9aa, 0x9b0), (0x9b2, 0x9b2), (0x9b6, 0x9b9), (0x9bc, 0x9c4),
   (0x9c7, 0x9c8), (0x9cb, 0x9ce), (0x9d7, 0x9d7), (0x9dc, 0x9dd), (0x9df, 0x9e3), (0x9e6, 0x9fe),
   (0xa01, 0xa03), (0xa05, 0xa0a), (0xa0f, 0xa10), (0xa13, 0xa28), (0xa2a, 0xa30), (0xa32, 0xa33),
   (0xa35, 0xa36), (0xa38, 0xa39), (0xa3c, 0xa3c), (0xa3e, 0xa42), (0xa47, 0xa48), (0xa4b, 0xa4d),
   (0xa51, 0xa51), (0xa59, 0xa5c), (0xa5e, 0xa5e), (0xa66, 0xa76), (0xa81, 0xa83), (0xa85, 0xa8d),
   (0xa8f, 0xa91), (0xa93, 0xaa8), (0xaaa, 0xab0), (0xab2, 0xab3), (0xab5, 0xab9), (0xabc, 0xac5),
   (0xac7, 0xac9), (0xacb, 0xacd), (0xad0, 0xad0), (0xae0, 0xae3), (0xae6, 0xaf1), (0xaf9, 0xaff),
   (0xb01, 0xb03), (0xb05, 0xb0c), (0xb0f, 0xb10), (0xb13, 0xb28), (0xb2a, 0xb30), (0xb32, 0xb33),
   (0xb35, 0xb39), (0xb3c, 0xb44), (0xb47, 0xb48), (0xb4b, 0xb4d), (0xb55, 0xb57), (0xb5c, 0xb5d),
   (0xb5f, 0xb63), (0xb66, 0xb77), (0xb82, 0xb83), (0xb85, 0xb8a), (0xb8e, 0xb90), (0xb92, 0xb95),
   (0xb99, 0xb9a), (0xb9c, 0xb9c), (0xb9e, 0xb9f), (0xba3, 0xba4), (0xba8, 0xbaa), (0xbae, 0xbb9),
   (0xbbe, 0xbc2), (0xbc6, 0xbc8), (0xbca, 0xbcd), (0xbd0, 0xbd0), (0xbd7, 0xbd7), (0xbe6, 0xbfa),
   (0xc00, 0xc0c), (0xc0e, 0xc10), (0xc12, 0xc28), (0xc2a, 0xc39), (0xc3c, 0xc44), (0xc46, 0xc48),
   (0xc4a, 0xc4d), (0xc55, 0xc56), (0xc58, 0xc5a), (0xc5c, 0xc5d), (0xc60, 0xc63), (0xc66, 0xc6f),
   (0xc77, 0xc8c), (0xc8e, 0xc90), (0xc92, 0xca8), (0xcaa, 0xcb3), (0xcb5, 0xcb9), (0xcbc, 0xcc4),
   (0xcc6, 0xcc8), (0xcca, 0xccd), (0xcd5, 0xcd6), (0xcdc, 0xcde), (0xce0, 0xce3), (0xce6, 0xcef),
   (0xcf1, 0xcf3), (0xd00, 0xd0c), (0xd0e, 0xd10), (0xd12, 0xd44), (0xd46, 0xd48), (0xd4a, 0xd4f),
   (0xd54, 0xd63), (0xd66, 0xd7f), (0xd81, 0xd83), (0xd85, 0xd96), (0xd9a, 0xdb1), (0xdb3, 0xdbb),
   (0xdbd, 0xdbd), (0xdc0, 0xdc6), (0xdca, 0xdca), (0xdcf, 0xdd4), (0xdd6, 0xdd6), (0xdd8, 0xddf),
   (0xde6, 0xdef), (0xdf2, 0xdf4), (0xe01, 0xe32), (0xe34, 0xe3a), (0xe3f, 0xe5b), (0xe81, 0xe82),
   (0xe84, 0xe84), (0xe86, 0xe8a), (0xe8c, 0xea3), (0xea5, 0xea5), (0xea7, 0xeb2), (0xeb4, 0xebd),
   (0xec0, 0xec4), (0xec6, 0xec6), (0xec8, 0xece), (0xed0, 0xed9), (0xede, 0xedf), (0xf00, 0xf0b),
   (0xf0d, 0xf47), (0xf49, 0xf6c), (0xf71, 0xf76), (0xf78, 0xf78), (0xf7a, 0xf97), (0xf99, 0xfbc),
   (0xfbe, 0xfcc), (0xfce, 0xfda), (0x1000, 0x109f), (0x10d0, 0x10fb), (0x10fd, 0x115e),
   (0x1161, 0x1248), (0x124a, 0x124d), (0x1250, 0x1256), (0x1258, 0x1258), (0x125a, 0x125d),
   (0x1260, 0x1288), (0x128a, 0x128d), (0x1290, 0x12b0), (0x12b2, 0x12b5), (0x12b8, 0x12be),
   (0x12c0, 0x12c0), (0x12c2, 0x12c5), (0x12c8, 0x12d6), (0x12d8, 0x1310), (0x1312, 0x1315),
   (0x1318, 0x135a), (0x135d, 0x137c), (0x1380, 0x1399), (0x13a0, 0x13f5), (0x1400, 0x167f),
   (0x1681, 0x169c), (0x16a0, 0x16f8), (0x1700, 0x1715), (0x171f, 0x1736), (0x1740, 0x1753),
   (0x1760, 0x176c), (0x176e, 0x1770), (0x1772, 0x1773), (0x1780, 0x17b3), (0x17b6, 0x17dd),
   (0x17e0, 0x17e9), (0x17f0, 0x17f9), (0x1800, 0x180a), (0x1810, 0x1819), (0x1820, 0x1878),
   (0x1880, 0x18aa), (0x18b0, 0x18f5), (0x1900, 0x191e), (0x1920, 0x192b), (0x1930, 0x193b),
   (0x1940, 0x1940), (0x1944, 0x196d), (0x1970, 0x1974), (0x1980, 0x19ab), (0x19b0, 0x19c9),
   (0x19d0, 0x19da), (0x19de, 0x1a1b), (0x1a1e, 0x1a5e), (0x1a60, 0x1a7c), (0x1a7f, 0x1a89),
   (0x1a90, 0x1a99), (0x1aa0, 0x1aad), (0x1ab0, 0x1add), (0x1ae0, 0x1aeb), (0x1b00, 0x1b4c),
   (0x1b4e, 0x1bf3), (0x1bfc, 0x1c37), (0x1c3b, 0x1c49), (0x1c4d, 0x1c7f), (0x1cc0, 0x1cc7),
   (0x1cd0, 0x1cfa), (0x1d00, 0x1d2b), (0x1d2f, 0x1d2f), (0x1d3b, 0x1d3b), (0x1d4e, 0x1d4e),
   (0x1d6b, 0x1d77), (0x1d79, 0x1d9a), (0x1dc0, 0x1dff), (0x1e96, 0x1e99), (0x1e9c, 0x1e9d),
   (0x1e9f, 0x1e9f), (0x1f00, 0x1f07), (0x1f10, 0x1f15), (0x1f20, 0x1f27), (0x1f30, 0x1f37),
   (0x1f40, 0x1f45), (0x1f50, 0x1f57), (0x1f60, 0x1f67), (0x1f70, 0x1f7d), (0x1fb0, 0x1fb1),
   (0x1fb6, 0x1fb6), (0x1fbe, 0x1fbe), (0x1fc6, 0x1fc6), (0x1fd0, 0x1fd3), (0x1fd6, 0x1fd7),
   (0x1fe0, 0x1fe7), (0x1fef, 0x1fef), (0x1ff6, 0x1ff6), (0x200c, 0x200d), (0x2010, 0x2010),
   (0x2012, 0x2016), (0x2018, 0x2023), (0x2027, 0x2027), (0x2030, 0x2032), (0x2035, 0x2035),
   (0x2038, 0x203b), (0x203d, 0x203d), (0x203f, 0x2046), (0x204a, 0x2056), (0x2058, 0x205e),
   (0x20a0, 0x20a7), (0x20a9, 0x20c1), (0x20d0, 0x20f0), (0x2104, 0x2104), (0x2108, 0x2108),
   (0x2114, 0x2114), (0x2117, 0x2118), (0x211e, 0x211f), (0x2123, 0x2123), (0x2125, 0x2125),
   (0x2127, 0x2127), (0x2129, 0x2129), (0x212e, 0x212e), (0x213a, 0x213a), (0x2141, 0x2144),
   (0x214a, 0x214f), (0x2180, 0x2182), (0x2185, 0x2188), (0x218a, 0x218b), (0x2190, 0x222b),
   (0x222e, 0x222e), (0x2231, 0x2429), (0x2440, 0x244a), (0x24eb, 0x2a0b), (0x2a0d, 0x2a73),
   (0x2a77, 0x2b73), (0x2b76, 0x2bff), (0x2c30, 0x2c5f), (0x2c65, 0x2c66), (0x2c71, 0x2c71),
   (0x2c74, 0x2c74), (0x2c77, 0x2c7b), (0x2ce4, 0x2cea), (0x2cef, 0x2cf1), (0x2cf9, 0x2d25),
   (0x2d27, 0x2d27), (0x2d2d, 0x2d2d), (0x2d30, 0x2d67), (0x2d70, 0x2d70), (0x2d7f, 0x2d96),
   (0x2da0, 0x2da6), (0x2da8, 0x2dae), (0x2db0, 0x2db6), (0x2db8, 0x2dbe), (0x2dc0, 0x2dc6),
   (0x2dc8, 0x2dce), (0x2dd0, 0x2dd6), (0x2dd8, 0x2dde), (0x2de0, 0x2e5d), (0x2e80, 0x2e99),
   (0x2e9b, 0x2e9e), (0x2ea0, 0x2ef2), (0x3001, 0x3001), (0x3003, 0x3035), (0x3037, 0x3037),
   (0x303b, 0x303f), (0x3041, 0x3096), (0x3099, 0x309a), (0x309d, 0x309e), (0x30a0, 0x30fe),
   (0x3105, 0x312f), (0x3190, 0x3191), (0x31a0, 0x31e5), (0x31f0, 0x31ff), (0x3248, 0x324f),
   (0x327f, 0x327f), (0x3400, 0xa48c), (0xa490, 0xa4c6), (0xa4d0, 0xa62b), (0xa66e, 0xa67f),
   (0xa69e, 0xa6f7), (0xa700, 0xa721), (0xa730, 0xa731), (0xa771, 0xa778), (0xa788, 0xa78a),
   (0xa78e, 0xa78f), (0xa794, 0xa795), (0xa7af, 0xa7af), (0xa7f7, 0xa7f7), (0xa7fa, 0xa82c),
   (0xa830, 0xa839), (0xa840, 0xa877), (0xa880, 0xa8c5), (0xa8ce, 0xa8d9), (0xa8e0, 0xa953),
   (0xa95f, 0xa97c), (0xa980, 0xa9cd), (0xa9cf, 0xa9d9), (0xa9de, 0xa9fe), (0xaa00, 0xaa36),
   (0xaa40, 0xaa4d), (0xaa50, 0xaa59), (0xaa5c, 0xaac2), (0xaadb, 0xaaf6), (0xab01, 0xab06),
   (0xab09, 0xab0e), (0xab11, 0xab16), (0xab20, 0xab26), (0xab28, 0xab2e), (0xab30, 0xab5b),
   (0xab60, 0xab68), (0xab6a, 0xab6b), (0xabc0, 0xabed), (0xabf0, 0xabf9), (0xac00, 0xd7a3),
   (0xd7b0, 0xd7c6), (0xd7cb, 0xd7fb), (0xf900, 0xfa6d), (0xfa70, 0xfad9), (0xfb1d, 0xfb1f),
   (0xfb2a, 0xfb36), (0xfb38, 0xfb3c), (0xfb3e, 0xfb3e), (0xfb40, 0xfb41), (0xfb43, 0xfb44),
   (0xfb46, 0xfb4e), (0xfbb2, 0xfbd2), (0xfd3e, 0xfd4f), (0xfd90, 0xfd91), (0xfdc8, 0xfdcf),
   (0xfdfd, 0xfdff), (0xfe20, 0xfe2f), (0xfe45, 0xfe46), (0xfe73, 0xfe73), (0x10000, 0x1000b),
   (0x1000d, 0x10026), (0x10028, 0x1003a), (0x1003c, 0x1003d), (0x1003f, 0x1004d),
   (0x10050, 0x1005d), (0x10080, 0x100fa), (0x10100, 0x10102), (0x10107, 0x10133),
   (0x10137, 0x1018e), (0x10190, 0x1019c), (0x101a0, 0x101a0), (0x101d0, 0x101fd),
   (0x10280, 0x1029c), (0x102a0, 0x102d0), (0x102e0, 0x102fb), (0x10300, 0x10323),
   (0x1032d, 0x1034a), (0x10350, 0x1037a), (0x10380, 0x1039d), (0x1039f, 0x103c3),
   (0x103c8, 0x103d5), (0x10428, 0x1049d), (0x104a0, 0x104a9), (0x104d8, 0x104fb),
   (0x10500, 0x10527), (0x10530, 0x10563), (0x1056f, 0x1056f), (0x10597, 0x105a1),
   (0x105a3, 0x105b1), (0x105b3, 0x105b9), (0x105bb, 0x105bc), (0x105c0, 0x105f3),
   (0x10600, 0x10736), (0x10740, 0x10755), (0x10760, 0x10767), (0x10780, 0x10780),
   (0x10800, 0x10805), (0x10808, 0x10808), (0x1080a, 0x10835), (0x10837, 0x10838),
   (0x1083c, 0x1083c), (0x1083f, 0x10855), (0x10857, 0x1089e), (0x108a7, 0x108af),
   (0x108e0, 0x108f2), (0x108f4, 0x108f5), (0x108fb, 0x1091b), (0x1091f, 0x10939),
   (0x1093f, 0x10959), (0x10980, 0x109b7), (0x109bc, 0x109cf), (0x109d2, 0x10a03),
   (0x10a05, 0x10a06), (0x10a0c, 0x10a13), (0x10a15, 0x10a17), (0x10a19, 0x10a35),
   (0x10a38, 0x10a3a), (0x10a3f, 0x10a48), (0x10a50, 0x10a58), (0x10a60, 0x10a9f),
   (0x10ac0, 0x10ae6), (0x10aeb, 0x10af6), (0x10b00, 0x10b35), (0x10b39, 0x10b55),
   (0x10b58, 0x10b72), (0x10b78, 0x10b91), (0x10b99, 0x10b9c), (0x10ba9, 0x10baf),
   (0x10c00, 0x10c48), (0x10cc0, 0x10cf2), (0x10cfa, 0x10d27), (0x10d30, 0x10d39),
   (0x10d40, 0x10d4f), (0x10d69, 0x10d85), (0x10d8e, 0x10d8f), (0x10e60, 0x10e7e),
   (0x10e80, 0x10ea9), (0x10eab, 0x10ead), (0x10eb0, 0x10eb1), (0x10ec2, 0x10ec7),
   (0x10ed0, 0x10ed8), (0x10efa, 0x10f27), (0x10f30, 0x10f59), (0x10f70, 0x10f89),
   (0x10fb0, 0x10fcb), (0x10fe0, 0x10ff6), (0x11000, 0x1104d), (0x11052, 0x11075),
   (0x1107f, 0x110bc), (0x110be, 0x110c2), (0x110d0, 0x110e8), (0x110f0, 0x110f9),
   (0x11100, 0x11134), (0x11136, 0x11147), (0x11150, 0x11176), (0x11180, 0x111df),
   (0x111e1, 0x111f4), (0x11200, 0x11211), (0x11213, 0x11241), (0x11280, 0x11286),
   (0x11288, 0x11288), (0x1128a, 0x1128d), (0x1128f, 0x1129d), (0x1129f, 0x112a9),
   (0x112b0, 0x112ea), (0x112f0, 0x112f9), (0x11300, 0x11303), (0x11305, 0x1130c),
   (0x1130f, 0x11310), (0x11313, 0x11328), (0x1132a, 0x11330), (0x11332, 0x11333),
   (0x11335, 0x11339), (0x1133b, 0x11344), (0x11347, 0x11348), (0x1134b, 0x1134d),
   (0x11350, 0x11350), (0x11357, 0x11357), (0x1135d, 0x11363), (0x11366, 0x1136c),
   (0x11370, 0x11374), (0x11380, 0x11389), (0x1138b, 0x1138b), (0x1138e, 0x1138e),
   (0x11390, 0x113b5), (0x113b7, 0x113c0), (0x113c2, 0x113c2), (0x113c5, 0x113c5),
   (0x113c7, 0x113ca), (0x113cc, 0x113d5), (0x113d7, 0x113d8), (0x113e1, 0x113e2),
   (0x11400, 0x1145b), (0x1145d, 0x11461), (0x11480, 0x114c7), (0x114d0, 0x114d9),
   (0x11580, 0x115b5), (0x115b8, 0x115dd), (0x11600, 0x11644), (0x11650, 0x11659),
   (0x11660, 0x1166c), (0x11680, 0x116b9), (0x116c0, 0x116c9), (0x116d0, 0x116e3),
   (0x11700, 0x1171a), (0x1171d, 0x1172b), (0x11730, 0x11746), (0x11800, 0x1183b),
   (0x118c0, 0x118f2), (0x118ff, 0x11906), (0x11909, 0x11909), (0x1190c, 0x11913),
   (0x11915, 0x11916), (0x11918, 0x11935), (0x11937, 0x11938), (0x1193b, 0x11946),
   (0x11950, 0x11959), (0x119a0, 0x119a7), (0x119aa, 0x119d7), (0x119da, 0x119e4),
   (0x11a00, 0x11a47), (0x11a50, 0x11aa2), (0x11ab0, 0x11af8), (0x11b00, 0x11b09),
   (0x11b60, 0x11b67), (0x11bc0, 0x11be1), (0x11bf0, 0x11bf9), (0x11c00, 0x11c08),
   (0x11c0a, 0x11c36), (0x11c38, 0x11c45), (0x11c50, 0x11c6c), (0x11c70, 0x11c8f),
   (0x11c92, 0x11ca7), (0x11ca9, 0x11cb6), (0x11d00, 0x11d06), (0x11d08, 0x11d09),
   (0x11d0b, 0x11d36), (0x11d3a, 0x11d3a), (0x11d3c, 0x11d3d), (0x11d3f, 0x11d47),
   (0x11d50, 0x11d59), (0x11d60, 0x11d65), (0x11d67, 0x11d68), (0x11d6a, 0x11d8e),
   (0x11d90, 0x11d91), (0x11d93, 0x11d98), (0x11da0, 0x11da9), (0x11db0, 0x11ddb),
   (0x11de0, 0x11de9), (0x11ee0, 0x11ef8), (0x11f00, 0x11f10), (0x11f12, 0x11f3a),
   (0x11f3e, 0x11f5a), (0x11fb0, 0x11fb0), (0x11fc0, 0x11ff1), (0x11fff, 0x12399),
   (0x12400, 0x1246e), (0x12470, 0x12474), (0x12480, 0x12543), (0x12f90, 0x12ff2),
   (0x13000, 0x1342f), (0x13440, 0x13455), (0x13460, 0x143fa), (0x14400, 0x14646),
   (0x16100, 0x16139), (0x16800, 0x16a38), (0x16a40, 0x16a5e), (0x16a60, 0x16a69),
   (0x16a6e, 0x16abe), (0x16ac0, 0x16ac9), (0x16ad0, 0x16aed), (0x16af0, 0x16af5),
   (0x16b00, 0x16b45), (0x16b50, 0x16b59), (0x16b5b, 0x16b61), (0x16b63, 0x16b77),
   (0x16b7d, 0x16b8f), (0x16d40, 0x16d79), (0x16e60, 0x16e9a), (0x16ebb, 0x16ed3),
   (0x16f00, 0x16f4a), (0x16f4f, 0x16f87), (0x16f8f, 0x16f9f), (0x16fe0, 0x16fe4),
   (0x16ff0, 0x16ff6), (0x17000, 0x18cd5), (0x18cff, 0x18d1e), (0x18d80, 0x18df2),
   (0x1aff0, 0x1aff3), (0x1aff5, 0x1affb), (0x1affd, 0x1affe), (0x1b000, 0x1b122),
   (0x1b132, 0x1b132), (0x1b150, 0x1b152), (0x1b155, 0x1b155), (0x1b164, 0x1b167),
   (0x1b170, 0x1b2fb), (0x1bc00, 0x1bc6a), (0x1bc70, 0x1bc7c), (0x1bc80, 0x1bc88),
   (0x1bc90, 0x1bc99), (0x1bc9c, 0x1bc9f), (0x1cc00, 0x1ccd5), (0x1ccfa, 0x1ccfc),
   (0x1cd00, 0x1ceb3), (0x1ceba, 0x1ced0), (0x1cee0, 0x1cef0), (0x1cf00, 0x1cf2d),
   (0x1cf30, 0x1cf46), (0x1cf50, 0x1cfc3), (0x1d000, 0x1d0f5), (0x1d100, 0x1d126),
   (0x1d129, 0x1d172), (0x1d17b, 0x1d1ea), (0x1d200, 0x1d245), (0x1d2c0, 0x1d2d3),
   (0x1d2e0, 0x1d2f3), (0x1d300, 0x1d356), (0x1d360, 0x1d378), (0x1d800, 0x1da8b),
   (0x1da9b, 0x1da9f), (0x1daa1, 0x1daaf), (0x1df00, 0x1df1e), (0x1df25, 0x1df2a),
   (0x1e000, 0x1e006), (0x1e008, 0x1e018), (0x1e01b, 0x1e021), (0x1e023, 0x1e024),
   (0x1e026, 0x1e02a), (0x1e08f, 0x1e08f), (0x1e100, 0x1e12c), (0x1e130, 0x1e13d),
   (0x1e140, 0x1e149), (0x1e14e, 0x1e14f), (0x1e290, 0x1e2ae), (0x1e2c0, 0x1e2f9),
   (0x1e2ff, 0x1e2ff), (0x1e4d0, 0x1e4f9), (0x1e5d0, 0x1e5fa), (0x1e5ff, 0x1e5ff),
   (0x1e6c0, 0x1e6de), (0x1e6e0, 0x1e6f5), (0x1e6fe, 0x1e6ff), (0x1e7e0, 0x1e7e6),
   (0x1e7e8, 0x1e7eb), (0x1e7ed, 0x1e7ee), (0x1e7f0, 0x1e7fe), (0x1e800, 0x1e8c4),
   (0x1e8c7, 0x1e8d6), (0x1e922, 0x1e94b), (0x1e950, 0x1e959), (0x1e95e, 0x1e95f),
   (0x1ec71, 0x1ecb4), (0x1ed01, 0x1ed3d), (0x1eef0, 0x1eef1), (0x1f000, 0x1f02b),
   (0x1f030, 0x1f093), (0x1f0a0, 0x1f0ae), (0x1f0b1, 0x1f0bf), (0x1f0c1, 0x1f0cf),
   (0x1f0d1, 0x1f0f5), (0x1f10b, 0x1f10f), (0x1f12f, 0x1f12f), (0x1f150, 0x1f169),
   (0x1f16d, 0x1f18f), (0x1f191, 0x1f1ad), (0x1f1e6, 0x1f1ff), (0x1f260, 0x1f265),
   (0x1f300, 0x1f6d8), (0x1f6dc, 0x1f6ec), (0x1f6f0, 0x1f6fc), (0x1f700, 0x1f7d9),
   (0x1f7e0, 0x1f7eb), (0x1f7f0, 0x1f7f0), (0x1f800, 0x1f80b), (0x1f810, 0x1f847),
   (0x1f850, 0x1f859), (0x1f860, 0x1f887), (0x1f890, 0x1f8ad), (0x1f8b0, 0x1f8bb),
   (0x1f8c0, 0x1f8c1), (0x1f8d0, 0x1f8d8), (0x1f900, 0x1fa57), (0x1fa60, 0x1fa6d),
   (0x1fa70, 0x1fa7c), (0x1fa80, 0x1fa8a), (0x1fa8e, 0x1fac6), (0x1fac8, 0x1fac8),
   (0x1facd, 0x1fadc), (0x1fadf, 0x1faea), (0x1faef, 0x1faf8), (0x1fb00, 0x1fb92),
   (0x1fb94, 0x1fbef), (0x1fbfa, 0x1fbfa), (0x20000, 0x2a6df), (0x2a700, 0x2b81d),
   (0x2b820, 0x2cead), (0x2ceb0, 0x2ebe0), (0x2ebf0, 0x2ee5d), (0x2f800, 0x2fa1d),
   (0x30000, 0x3134a), (0x31350, 0x33479)]

/-- The ranges of the characters that are dropped. -/
def droppedRanges : List (Nat × Nat) :=
  [(0xad, 0xad), (0x34f, 0x34f), (0x115f, 0x1160), (0x17b4, 0x17b5), (0x180b, 0x180f),
   (0x200b, 0x200b), (0x2060, 0x2064), (0x206a, 0x206f), (0x3164, 0x3164), (0xfe00, 0xfe0f),
   (0xfeff, 0xfeff), (0xffa0, 0xffa0), (0x1bca0, 0x1bca3), (0x1d173, 0x1d17a), (0xe0100, 0xe01ef)]

/-- The ranges in which the first character and every other one after it are replaced by the
next character, which is kept. -/
def pairedRanges : List (Nat × Nat) :=
  [(0x100, 0x12f), (0x134, 0x137), (0x139, 0x13e), (0x141, 0x148), (0x14a, 0x177), (0x179, 0x17e),
   (0x182, 0x185), (0x187, 0x188), (0x18b, 0x18c), (0x191, 0x192), (0x198, 0x199), (0x1a0, 0x1a5),
   (0x1a7, 0x1a8), (0x1ac, 0x1ad), (0x1af, 0x1b0), (0x1b3, 0x1b6), (0x1b8, 0x1b9), (0x1bc, 0x1bd),
   (0x1cd, 0x1dc), (0x1de, 0x1ef), (0x1f4, 0x1f5), (0x1f8, 0x21f), (0x222, 0x233), (0x23b, 0x23c),
   (0x241, 0x242), (0x246, 0x24f), (0x370, 0x373), (0x376, 0x377), (0x3d8, 0x3ef), (0x3f7, 0x3f8),
   (0x3fa, 0x3fb), (0x460, 0x481), (0x48a, 0x4bf), (0x4c1, 0x4ce), (0x4d0, 0x52f),
   (0x1c89, 0x1c8a), (0x1e00, 0x1e95), (0x1ea0, 0x1eff), (0x2183, 0x2184), (0x2c60, 0x2c61),
   (0x2c67, 0x2c6c), (0x2c72, 0x2c73), (0x2c75, 0x2c76), (0x2c80, 0x2ce3), (0x2ceb, 0x2cee),
   (0x2cf2, 0x2cf3), (0xa640, 0xa66d), (0xa680, 0xa69b), (0xa722, 0xa72f), (0xa732, 0xa76f),
   (0xa779, 0xa77c), (0xa77e, 0xa787), (0xa78b, 0xa78c), (0xa790, 0xa793), (0xa796, 0xa7a9),
   (0xa7b4, 0xa7c3), (0xa7c7, 0xa7ca), (0xa7cc, 0xa7db), (0xa7f5, 0xa7f6)]

/-- The ranges of characters that are replaced by as many consecutive characters, of which the
first is given. -/
def shiftedRanges : List (Nat × Nat × Nat) :=
  [(0x41, 0x5a, 0x61), (0xc0, 0xd6, 0xe0), (0xd8, 0xde, 0xf8), (0x388, 0x38a, 0x3ad),
   (0x391, 0x3a1, 0x3b1), (0x3a3, 0x3ab, 0x3c3), (0x3fd, 0x3ff, 0x37b), (0x400, 0x40f, 0x450),
   (0x410, 0x42f, 0x430), (0x531, 0x556, 0x561), (0x10a0, 0x10c5, 0x2d00),
   (0x13f8, 0x13fd, 0x13f0), (0x1c90, 0x1cba, 0x10d0), (0x1cbd, 0x1cbf, 0x10fd),
   (0x1d33, 0x1d3a, 0x67), (0x1d5d, 0x1d5f, 0x3b2), (0x1da4, 0x1da6, 0x268),
   (0x1dae, 0x1db1, 0x272), (0x1dbc, 0x1dbe, 0x290), (0x1f08, 0x1f0f, 0x1f00),
   (0x1f18, 0x1f1d, 0x1f10), (0x1f28, 0x1f2f, 0x1f20), (0x1f38, 0x1f3f, 0x1f30),
   (0x1f48, 0x1f4d, 0x1f40), (0x1f68, 0x1f6f, 0x1f60), (0x2074, 0x2079, 0x34),
   (0x2080, 0x2089, 0x30), (0x2096, 0x2099, 0x6b), (0x2119, 0x211b, 0x70), (0x2135, 0x2138, 0x5d0),
   (0x2460, 0x2468, 0x31), (0x24b6, 0x24cf, 0x61), (0x24d0, 0x24e9, 0x61),
   (0x2c00, 0x2c2f, 0x2c30), (0x3137, 0x3139, 0x1103), (0x313a, 0x313f, 0x11b0),
   (0x3141, 0x3143, 0x1106), (0x3145, 0x314e, 0x1109), (0x314f, 0x3163, 0x1161),
   (0x3178, 0x317c, 0x112b), (0x3184, 0x3186, 0x1157), (0x3263, 0x3265, 0x1105),
   (0x3269, 0x326d, 0x110e), (0x32e4, 0x32e9, 0x30ca), (0x32ee, 0x32f2, 0x30de),
   (0x32f5, 0x32fa, 0x30e8), (0x32fb, 0x32fe, 0x30ef), (0xab70, 0xabbf, 0x13a0),
   (0xfb24, 0xfb26, 0x5db), (0xfe41, 0xfe44, 0x300c), (0xff01, 0xff20, 0x21),
   (0xff21, 0xff3a, 0x61), (0xff3b, 0xff5e, 0x5b), (0xff85, 0xff8a, 0x30ca),
   (0xff8f, 0xff93, 0x30de), (0xff96, 0xff9b, 0x30e8), (0xffa7, 0xffa9, 0x1103),
   (0xffaa, 0xffaf, 0x11b0), (0xffb1, 0xffb3, 0x1106), (0xffb5, 0xffbe, 0x1109),
   (0xffc2, 0xffc7, 0x1161), (0xffca, 0xffcf, 0x1167), (0xffd2, 0xffd7, 0x116d),
   (0xffda, 0xffdc, 0x1173), (0xffe9, 0xffec, 0x2190), (0x10400, 0x10427, 0x10428),
   (0x104b0, 0x104d3, 0x104d8), (0x10570, 0x1057a, 0x10597), (0x1057c, 0x1058a, 0x105a3),
   (0x1058c, 0x10592, 0x105b3), (0x107b6, 0x107b8, 0x1c0), (0x10c80, 0x10cb2, 0x10cc0),
   (0x10d50, 0x10d65, 0x10d70), (0x118a0, 0x118bf, 0x118c0), (0x16e40, 0x16e5f, 0x16e60),
   (0x16ea0, 0x16eb8, 0x16ebb), (0x1ccd6, 0x1ccef, 0x61), (0x1ccf0, 0x1ccf9, 0x30),
   (0x1d400, 0x1d419, 0x61), (0x1d41a, 0x1d433, 0x61), (0x1d434, 0x1d44d, 0x61),
   (0x1d44e, 0x1d454, 0x61), (0x1d456, 0x1d467, 0x69), (0x1d468, 0x1d481, 0x61),
   (0x1d482, 0x1d49b, 0x61), (0x1d4a9, 0x1d4ac, 0x6e), (0x1d4ae, 0x1d4b5, 0x73),
   (0x1d4b6, 0x1d4b9, 0x61), (0x1d4bd, 0x1d4c3, 0x68), (0x1d4c5, 0x1d4cf, 0x70),
   (0x1d4d0, 0x1d4e9, 0x61), (0x1d4ea, 0x1d503, 0x61), (0x1d507, 0x1d50a, 0x64),
   (0x1d50d, 0x1d514, 0x6a), (0x1d516, 0x1d51c, 0x73), (0x1d51e, 0x1d537, 0x61),
   (0x1d53b, 0x1d53e, 0x64), (0x1d540, 0x1d544, 0x69), (0x1d54a, 0x1d550, 0x73),
   (0x1d552, 0x1d56b, 0x61), (0x1d56c, 0x1d585, 0x61), (0x1d586, 0x1d59f, 0x61),
   (0x1d5a0, 0x1d5b9, 0x61), (0x1d5ba, 0x1d5d3, 0x61), (0x1d5d4, 0x1d5ed, 0x61),
   (0x1d5ee, 0x1d607, 0x61), (0x1d608, 0x1d621, 0x61), (0x1d622, 0x1d63b, 0x61),
   (0x1d63c, 0x1d655, 0x61), (0x1d656, 0x1d66f, 0x61), (0x1d670, 0x1d689, 0x61),
   (0x1d68a, 0x1d6a3, 0x61), (0x1d6a8, 0x1d6b8, 0x3b1), (0x1d6ba, 0x1d6c0, 0x3c3),
   (0x1d6c2, 0x1d6d2, 0x3b1), (0x1d6d4, 0x1d6da, 0x3c3), (0x1d6e2, 0x1d6f2, 0x3b1),
   (0x1d6f4, 0x1d6fa, 0x3c3), (0x1d6fc, 0x1d70c, 0x3b1), (0x1d70e, 0x1d714, 0x3c3),
   (0x1d71c, 0x1d72c, 0x3b1), (0x1d72e, 0x1d734, 0x3c3), (0x1d736, 0x1d746, 0x3b1),
   (0x1d748, 0x1d74e, 0x3c3), (0x1d756, 0x1d766, 0x3b1), (0x1d768, 0x1d76e, 0x3c3),
   (0x1d770, 0x1d780, 0x3b1), (0x1d782, 0x1d788, 0x3c3), (0x1d790, 0x1d7a0, 0x3b1),
   (0x1d7a2, 0x1d7a8, 0x3c3), (0x1d7aa, 0x1d7ba, 0x3b1), (0x1d7bc, 0x1d7c2, 0x3c3),
   (0x1d7ce, 0x1d7d7, 0x30), (0x1d7d8, 0x1d7e1, 0x30), (0x1d7e2, 0x1d7eb, 0x30),
   (0x1d7ec, 0x1d7f5, 0x30), (0x1d7f6, 0x1d7ff, 0x30), (0x1e030, 0x1e038, 0x430),
   (0x1e039, 0x1e03b, 0x43a), (0x1e03c, 0x1e046, 0x43e), (0x1e051, 0x1e059, 0x430),
   (0x1e05f, 0x1e064, 0x443), (0x1e900, 0x1e921, 0x1e922), (0x1ee0a, 0x1ee0d, 0x643),
   (0x1ee2a, 0x1ee2d, 0x643), (0x1ee8b, 0x1ee8d, 0x644), (0x1eeab, 0x1eead, 0x644),
   (0x1f130, 0x1f149, 0x61), (0x1fbf0, 0x1fbf9, 0x30)]

/-- The texts that replace letters and the marks among them. -/
def letterSpellings : List (Nat × List (List Nat)) :=
  [(0xa0, [[0x20]]), (0xa8, [[0x20, 0x308]]), (0xaa, [[0x61]]), (0xaf, [[0x20, 0x304]]),
   (0xb2, [[0x32], [0x33], [0x20, 0x301], [0x3bc]]), (0xb8, [[0x20, 0x327], [0x31], [0x6f]]),
   (0xbc, [[0x31, 0x2044, 0x34], [0x31, 0x2044, 0x32], [0x33, 0x2044, 0x34]]),
   (0x130, [[0x69, 0x307]]), (0x132, [[0x69, 0x6a], [0x69, 0x6a]]),
   (0x13f, [[0x6c, 0xb7], [0x6c, 0xb7]]), (0x149, [[0x2bc, 0x6e]]), (0x178, [[0xff]]),
   (0x17f, [[0x73]]), (0x181, [[0x253]]), (0x186, [[0x254]]), (0x189, [[0x256], [0x257]]),
   (0x18e, [[0x1dd], [0x259], [0x25b]]), (0x193, [[0x260], [0x263]]), (0x196, [[0x269], [0x268]]),
   (0x19c, [[0x26f], [0x272]]), (0x19f, [[0x275]]), (0x1a6, [[0x280]]), (0x1a9, [[0x283]]),
   (0x1ae, [[0x288]]), (0x1b1, [[0x28a], [0x28b]]), (0x1b7, [[0x292]]),
   (0x1c4, [[0x64, 0x17e], [0x64, 0x17e], [0x64, 0x17e], [0x6c, 0x6a], [0x6c, 0x6a], [0x6c, 0x6a],
     [0x6e, 0x6a], [0x6e, 0x6a], [0x6e, 0x6a]]),
   (0x1f1, [[0x64, 0x7a], [0x64, 0x7a], [0x64, 0x7a]]), (0x1f6, [[0x195], [0x1bf]]),
   (0x220, [[0x19e]]), (0x23a, [[0x2c65]]), (0x23d, [[0x19a], [0x2c66]]),
   (0x243, [[0x180], [0x289], [0x28c]]),
   (0x2b0, [[0x68], [0x266], [0x6a], [0x72], [0x279], [0x27b], [0x281], [0x77], [0x79]]),
   (0x2d8, [[0x20, 0x306], [0x20, 0x307], [0x20, 0x30a], [0x20, 0x328], [0x20, 0x303],
     [0x20, 0x30b]]),
   (0x2e0, [[0x263], [0x6c], [0x73], [0x78], [0x295]]), (0x345, [[0x3b9]]),
   (0x37a, [[0x20, 0x3b9]]), (0x37f, [[0x3f3]]),
   (0x384, [[0x20, 0x301], [0x20, 0x308, 0x301], [0x3ac]]), (0x38c, [[0x3cc]]),
   (0x38e, [[0x3cd], [0x3ce]]),
   (0x3cf, [[0x3d7], [0x3b2], [0x3b8], [0x3c5], [0x3cd], [0x3cb], [0x3c6], [0x3c0]]),
   (0x3f0, [[0x3ba], [0x3c1], [0x3c3]]), (0x3f4, [[0x3b8], [0x3b5]]), (0x3f9, [[0x3c3]]),
   (0x4c0, [[0x4cf]]), (0x587, [[0x565, 0x582]]),
   (0x675, [[0x627, 0x674], [0x648, 0x674], [0x6c7, 0x674], [0x64a, 0x674]]),
   (0xe33, [[0xe4d, 0xe32]]), (0xeb3, [[0xecd, 0xeb2]]), (0xedc, [[0xeab, 0xe99], [0xeab, 0xea1]]),
   (0xf0c, [[0xf0b]]), (0xf77, [[0xfb2, 0xf71, 0xf80]]), (0xf79, [[0xfb3, 0xf71, 0xf80]]),
   (0x10c7, [[0x2d27]]), (0x10cd, [[0x2d2d]]), (0x10fc, [[0x10dc]]),
   (0x1c80, [[0x432], [0x434], [0x43e], [0x441], [0x442], [0x442], [0x44a], [0x463], [0xa64b]]),
   (0x1d2c, [[0x61], [0xe6], [0x62]]), (0x1d30, [[0x64], [0x65], [0x1dd]]),
   (0x1d3c, [[0x6f], [0x223], [0x70], [0x72], [0x74], [0x75], [0x77], [0x61], [0x250], [0x251],
     [0x1d02], [0x62], [0x64], [0x65], [0x259], [0x25b], [0x25c], [0x67]]),
   (0x1d4f, [[0x6b], [0x6d], [0x14b], [0x6f], [0x254], [0x1d16], [0x1d17], [0x70], [0x74], [0x75],
     [0x1d1d], [0x26f], [0x76], [0x1d25]]),
   (0x1d60, [[0x3c6], [0x3c7], [0x69], [0x72], [0x75], [0x76], [0x3b2], [0x3b3], [0x3c1], [0x3c6],
     [0x3c7]]),
   (0x1d78, [[0x43d]]),
   (0x1d9b, [[0x252], [0x63], [0x255], [0xf0], [0x25c], [0x66], [0x25f], [0x261], [0x265]]),
   (0x1da7, [[0x1d7b], [0x29d], [0x26d], [0x1d85], [0x29f], [0x271], [0x270]]),
   (0x1db2, [[0x278], [0x282], [0x283], [0x1ab], [0x289], [0x28a], [0x1d1c], [0x28b], [0x28c],
     [0x7a]]),
   (0x1dbf, [[0x3b8]]), (0x1e9a, [[0x61, 0x2be], [0x1e61]]), (0x1e9e, [[0xdf]]),
   (0x1f59, [[0x1f51]]), (0x1f5b, [[0x1f53]]), (0x1f5d, [[0x1f55]]), (0x1f5f, [[0x1f57]]),
   (0x1f80, [[0x1f00, 0x3b9], [0x1f01, 0x3b9], [0x1f02, 0x3b9], [0x1f03, 0x3b9], [0x1f04, 0x3b9],
     [0x1f05, 0x3b9], [0x1f06, 0x3b9], [0x1f07, 0x3b9], [0x1f00, 0x3b9], [0x1f01, 0x3b9],
     [0x1f02, 0x3b9], [0x1f03, 0x3b9], [0x1f04, 0x3b9], [0x1f05, 0x3b9], [0x1f06, 0x3b9],
     [0x1f07, 0x3b9], [0x1f20, 0x3b9], [0x1f21, 0x3b9], [0x1f22, 0x3b9], [0x1f23, 0x3b9],
     [0x1f24, 0x3b9], [0x1f25, 0x3b9], [0x1f26, 0x3b9], [0x1f27, 0x3b9], [0x1f20, 0x3b9],
     [0x1f21, 0x3b9], [0x1f22, 0x3b9], [0x1f23, 0x3b9], [0x1f24, 0x3b9], [0x1f25, 0x3b9],
     [0x1f26, 0x3b9], [0x1f27, 0x3b9], [0x1f60, 0x3b9], [0x1f61, 0x3b9], [0x1f62, 0x3b9],
     [0x1f63, 0x3b9], [0x1f64, 0x3b9], [0x1f65, 0x3b9], [0x1f66, 0x3b9], [0x1f67, 0x3b9],
     [0x1f60, 0x3b9], [0x1f61, 0x3b9], [0x1f62, 0x3b9], [0x1f63, 0x3b9], [0x1f64, 0x3b9],
     [0x1f65, 0x3b9], [0x1f66, 0x3b9], [0x1f67, 0x3b9]]),
   (0x1fb2, [[0x1f70, 0x3b9], [0x3b1, 0x3b9], [0x3ac, 0x3b9]]),
   (0x1fb7, [[0x1fb6, 0x3b9], [0x1fb0], [0x1fb1], [0x1f70], [0x3ac], [0x3b1, 0x3b9],
     [0x20, 0x313]]),
   (0x1fbf, [[0x20, 0x313], [0x20, 0x342], [0x20, 0x308, 0x342], [0x1f74, 0x3b9], [0x3b7, 0x3b9],
     [0x3ae, 0x3b9]]),
   (0x1fc7, [[0x1fc6, 0x3b9], [0x1f72], [0x3ad], [0x1f74], [0x3ae], [0x3b7, 0x3b9],
     [0x20, 0x313, 0x300], [0x20, 0x313, 0x301], [0x20, 0x313, 0x342]]),
   (0x1fd8, [[0x1fd0], [0x1fd1], [0x1f76], [0x3af]]),
   (0x1fdd, [[0x20, 0x314, 0x300], [0x20, 0x314, 0x301], [0x20, 0x314, 0x342]]),
   (0x1fe8, [[0x1fe0], [0x1fe1], [0x1f7a], [0x3cd], [0x1fe5], [0x20, 0x308, 0x300],
     [0x20, 0x308, 0x301]]),
   (0x1ff2, [[0x1f7c, 0x3b9], [0x3c9, 0x3b9], [0x3ce, 0x3b9]]),
   (0x1ff7, [[0x1ff6, 0x3b9], [0x1f78], [0x3cc], [0x1f7c], [0x3ce], [0x3c9, 0x3b9], [0x20, 0x301],
     [0x20, 0x314]])]

/-- The texts that replace signs, letters within circles and brackets, and radicals. -/
def symbolSpellings : List (Nat × List (List Nat)) :=
  [(0x2000, [[0x20], [0x20], [0x20], [0x20], [0x20], [0x20], [0x20], [0x20], [0x20], [0x20],
     [0x20]]),
   (0x2011, [[0x2010]]), (0x2017, [[0x20, 0x333]]), (0x202f, [[0x20]]),
   (0x2033, [[0x2032, 0x2032], [0x2032, 0x2032, 0x2032]]),
   (0x2036, [[0x2035, 0x2035], [0x2035, 0x2035, 0x2035]]), (0x203c, [[0x21, 0x21]]),
   (0x203e, [[0x20, 0x305]]), (0x2047, [[0x3f, 0x3f], [0x3f, 0x21], [0x21, 0x3f]]),
   (0x2057, [[0x2032, 0x2032, 0x2032, 0x2032]]), (0x205f, [[0x20]]), (0x2070, [[0x30], [0x69]]),
   (0x207a, [[0x2b], [0x2212], [0x3d], [0x28], [0x29], [0x6e]]),
   (0x208a, [[0x2b], [0x2212], [0x3d], [0x28], [0x29]]),
   (0x2090, [[0x61], [0x65], [0x6f], [0x78], [0x259], [0x68]]), (0x209a, [[0x70], [0x73], [0x74]]),
   (0x20a8, [[0x72, 0x73]]),
   (0x2100, [[0x61, 0x2f, 0x63], [0x61, 0x2f, 0x73], [0x63], [0xb0, 0x63]]),
   (0x2105, [[0x63, 0x2f, 0x6f], [0x63, 0x2f, 0x75], [0x25b]]),
   (0x2109, [[0xb0, 0x66], [0x67], [0x68], [0x68], [0x68], [0x68], [0x127], [0x69], [0x69], [0x6c],
     [0x6c]]),
   (0x2115, [[0x6e], [0x6e, 0x6f]]), (0x211c, [[0x72], [0x72]]),
   (0x2120, [[0x73, 0x6d], [0x74, 0x65, 0x6c], [0x74, 0x6d]]), (0x2124, [[0x7a]]),
   (0x2126, [[0x3c9]]), (0x2128, [[0x7a]]), (0x212a, [[0x6b], [0xe5], [0x62], [0x63]]),
   (0x212f, [[0x65], [0x65], [0x66], [0x214e], [0x6d], [0x6f]]), (0x2139, [[0x69]]),
   (0x213b, [[0x66, 0x61, 0x78], [0x3c0], [0x3b3], [0x3b3], [0x3c0], [0x2211]]),
   (0x2145, [[0x64], [0x64], [0x65], [0x69], [0x6a]]),
   (0x2150, [[0x31, 0x2044, 0x37], [0x31, 0x2044, 0x39], [0x31, 0x2044, 0x31, 0x30],
     [0x31, 0x2044, 0x33], [0x32, 0x2044, 0x33], [0x31, 0x2044, 0x35], [0x32, 0x2044, 0x35],
     [0x33, 0x2044, 0x35], [0x34, 0x2044, 0x35], [0x31, 0x2044, 0x36], [0x35, 0x2044, 0x36],
     [0x31, 0x2044, 0x38], [0x33, 0x2044, 0x38], [0x35, 0x2044, 0x38], [0x37, 0x2044, 0x38],
     [0x31, 0x2044], [0x69], [0x69, 0x69], [0x69, 0x69, 0x69], [0x69, 0x76], [0x76], [0x76, 0x69],
     [0x76, 0x69, 0x69], [0x76, 0x69, 0x69, 0x69], [0x69, 0x78], [0x78], [0x78, 0x69],
     [0x78, 0x69, 0x69], [0x6c], [0x63], [0x64], [0x6d], [0x69], [0x69, 0x69], [0x69, 0x69, 0x69],
     [0x69, 0x76], [0x76], [0x76, 0x69], [0x76, 0x69, 0x69], [0x76, 0x69, 0x69, 0x69],
     [0x69, 0x78], [0x78], [0x78, 0x69], [0x78, 0x69, 0x69], [0x6c], [0x63], [0x64], [0x6d]]),
   (0x2189, [[0x30, 0x2044, 0x33]]), (0x222c, [[0x222b, 0x222b], [0x222b, 0x222b, 0x222b]]),
   (0x222f, [[0x222e, 0x222e], [0x222e, 0x222e, 0x222e]]),
   (0x2469, [[0x31, 0x30], [0x31, 0x31], [0x31, 0x32], [0x31, 0x33], [0x31, 0x34], [0x31, 0x35],
     [0x31, 0x36], [0x31, 0x37], [0x31, 0x38], [0x31, 0x39], [0x32, 0x30], [0x28, 0x31, 0x29],
     [0x28, 0x32, 0x29], [0x28, 0x33, 0x29], [0x28, 0x34, 0x29], [0x28, 0x35, 0x29],
     [0x28, 0x36, 0x29], [0x28, 0x37, 0x29], [0x28, 0x38, 0x29], [0x28, 0x39, 0x29],
     [0x28, 0x31, 0x30, 0x29], [0x28, 0x31, 0x31, 0x29], [0x28, 0x31, 0x32, 0x29],
     [0x28, 0x31, 0x33, 0x29], [0x28, 0x31, 0x34, 0x29], [0x28, 0x31, 0x35, 0x29],
     [0x28, 0x31, 0x36, 0x29], [0x28, 0x31, 0x37, 0x29], [0x28, 0x31, 0x38, 0x29],
     [0x28, 0x31, 0x39, 0x29], [0x28, 0x32, 0x30, 0x29]]),
   (0x249c, [[0x28, 0x61, 0x29], [0x28, 0x62, 0x29], [0x28, 0x63, 0x29], [0x28, 0x64, 0x29],
     [0x28, 0x65, 0x29], [0x28, 0x66, 0x29], [0x28, 0x67, 0x29], [0x28, 0x68, 0x29],
     [0x28, 0x69, 0x29], [0x28, 0x6a, 0x29], [0x28, 0x6b, 0x29], [0x28, 0x6c, 0x29],
     [0x28, 0x6d, 0x29], [0x28, 0x6e, 0x29], [0x28, 0x6f, 0x29], [0x28, 0x70, 0x29],
     [0x28, 0x71, 0x29], [0x28, 0x72, 0x29], [0x28, 0x73, 0x29], [0x28, 0x74, 0x29],
     [0x28, 0x75, 0x29], [0x28, 0x76, 0x29], [0x28, 0x77, 0x29], [0x28, 0x78, 0x29],
     [0x28, 0x79, 0x29], [0x28, 0x7a, 0x29]]),
   (0x24ea, [[0x30]]), (0x2a0c, [[0x222b, 0x222b, 0x222b, 0x222b]]),
   (0x2a74, [[0x3a, 0x3a, 0x3d], [0x3d, 0x3d], [0x3d, 0x3d, 0x3d]]),
   (0x2c62, [[0x26b], [0x1d7d], [0x27d]]), (0x2c6d, [[0x251], [0x271], [0x250], [0x252]]),
   (0x2c7c, [[0x6a], [0x76], [0x23f], [0x240]]), (0x2d6f, [[0x2d61]]), (0x2e9f, [[0x6bcd]]),
   (0x2ef3, [[0x9f9f]]),
   (0x2f00, [[0x4e00], [0x4e28], [0x4e36], [0x4e3f], [0x4e59], [0x4e85], [0x4e8c], [0x4ea0],
     [0x4eba], [0x513f], [0x5165], [0x516b], [0x5182], [0x5196], [0x51ab], [0x51e0], [0x51f5],
     [0x5200], [0x529b], [0x52f9], [0x5315], [0x531a], [0x5338], [0x5341], [0x535c], [0x5369],
     [0x5382], [0x53b6], [0x53c8], [0x53e3], [0x56d7], [0x571f], [0x58eb], [0x5902], [0x590a],
     [0x5915], [0x5927], [0x5973], [0x5b50], [0x5b80], [0x5bf8], [0x5c0f], [0x5c22], [0x5c38],
     [0x5c6e], [0x5c71], [0x5ddb], [0x5de5]]),
   (0x2f30, [[0x5df1], [0x5dfe], [0x5e72], [0x5e7a], [0x5e7f], [0x5ef4], [0x5efe], [0x5f0b],
     [0x5f13], [0x5f50], [0x5f61], [0x5f73], [0x5fc3], [0x6208], [0x6236], [0x624b], [0x652f],
     [0x6534], [0x6587], [0x6597], [0x65a4], [0x65b9], [0x65e0], [0x65e5], [0x66f0], [0x6708],
     [0x6728], [0x6b20], [0x6b62], [0x6b79], [0x6bb3], [0x6bcb], [0x6bd4], [0x6bdb], [0x6c0f],
     [0x6c14], [0x6c34], [0x706b], [0x722a], [0x7236], [0x723b], [0x723f], [0x7247], [0x7259],
     [0x725b], [0x72ac], [0x7384], [0x7389]]),
   (0x2f60, [[0x74dc], [0x74e6], [0x7518], [0x751f], [0x7528], [0x7530], [0x758b], [0x7592],
     [0x7676], [0x767d], [0x76ae], [0x76bf], [0x76ee], [0x77db], [0x77e2], [0x77f3], [0x793a],
     [0x79b8], [0x79be], [0x7a74], [0x7acb], [0x7af9], [0x7c73], [0x7cf8], [0x7f36], [0x7f51],
     [0x7f8a], [0x7fbd], [0x8001], [0x800c], [0x8012], [0x8033], [0x807f], [0x8089], [0x81e3],
     [0x81ea], [0x81f3], [0x81fc], [0x820c], [0x821b], [0x821f], [0x826e], [0x8272], [0x8278],
     [0x864d], [0x866b], [0x8840], [0x884c]]),
   (0x2f90, [[0x8863], [0x897e], [0x898b], [0x89d2], [0x8a00], [0x8c37], [0x8c46], [0x8c55],
     [0x8c78], [0x8c9d], [0x8d64], [0x8d70], [0x8db3], [0x8eab], [0x8eca], [0x8f9b], [0x8fb0],
     [0x8fb5], [0x9091], [0x9149], [0x91c6], [0x91cc], [0x91d1], [0x9577], [0x9580], [0x961c],
     [0x96b6], [0x96b9], [0x96e8], [0x9751], [0x975e], [0x9762], [0x9769], [0x97cb], [0x97ed],
     [0x97f3], [0x9801], [0x98a8], [0x98db], [0x98df], [0x9996], [0x9999], [0x99ac], [0x9aa8],
     [0x9ad8], [0x9adf], [0x9b25], [0x9b2f]]),
   (0x2fc0, [[0x9b32], [0x9b3c], [0x9b5a], [0x9ce5], [0x9e75], [0x9e7f], [0x9ea5], [0x9ebb],
     [0x9ec3], [0x9ecd], [0x9ed1], [0x9ef9], [0x9efd], [0x9f0e], [0x9f13], [0x9f20], [0x9f3b],
     [0x9f4a], [0x9f52], [0x9f8d], [0x9f9c], [0x9fa0]])]

/-- The texts that replace words within squares, and letters of East Asia. -/
def squareSpellings : List (Nat × List (List Nat)) :=
  [(0x3000, [[0x20]]), (0x3002, [[0x2e]]), (0x3036, [[0x3012]]),
   (0x3038, [[0x5341], [0x5344], [0x5345]]), (0x309b, [[0x20, 0x3099], [0x20, 0x309a]]),
   (0x309f, [[0x3088, 0x308a]]), (0x30ff, [[0x30b3, 0x30c8]]),
   (0x3131, [[0x1100], [0x1101], [0x11aa], [0x1102], [0x11ac], [0x11ad]]), (0x3140, [[0x111a]]),
   (0x3144, [[0x1121]]),
   (0x3165, [[0x1114], [0x1115], [0x11c7], [0x11c8], [0x11cc], [0x11ce], [0x11d3], [0x11d7],
     [0x11d9], [0x111c], [0x11dd], [0x11df], [0x111d], [0x111e], [0x1120], [0x1122], [0x1123],
     [0x1127], [0x1129]]),
   (0x317d, [[0x1132], [0x1136], [0x1140], [0x1147], [0x114c], [0x11f1], [0x11f2]]),
   (0x3187, [[0x1184], [0x1185], [0x1188], [0x1191], [0x1192], [0x1194], [0x119e], [0x11a1]]),
   (0x3192, [[0x4e00], [0x4e8c], [0x4e09], [0x56db], [0x4e0a], [0x4e2d], [0x4e0b], [0x7532],
     [0x4e59], [0x4e19], [0x4e01], [0x5929], [0x5730], [0x4eba]]),
   (0x3200, [[0x28, 0x1100, 0x29], [0x28, 0x1102, 0x29], [0x28, 0x1103, 0x29],
     [0x28, 0x1105, 0x29], [0x28, 0x1106, 0x29], [0x28, 0x1107, 0x29], [0x28, 0x1109, 0x29],
     [0x28, 0x110b, 0x29], [0x28, 0x110c, 0x29], [0x28, 0x110e, 0x29], [0x28, 0x110f, 0x29],
     [0x28, 0x1110, 0x29], [0x28, 0x1111, 0x29], [0x28, 0x1112, 0x29], [0x28, 0xac00, 0x29],
     [0x28, 0xb098, 0x29], [0x28, 0xb2e4, 0x29], [0x28, 0xb77c, 0x29], [0x28, 0xb9c8, 0x29],
     [0x28, 0xbc14, 0x29], [0x28, 0xc0ac, 0x29], [0x28, 0xc544, 0x29], [0x28, 0xc790, 0x29],
     [0x28, 0xcc28, 0x29], [0x28, 0xce74, 0x29], [0x28, 0xd0c0, 0x29], [0x28, 0xd30c, 0x29],
     [0x28, 0xd558, 0x29], [0x28, 0xc8fc, 0x29], [0x28, 0xc624, 0xc804, 0x29],
     [0x28, 0xc624, 0xd6c4, 0x29]]),
   (0x3220, [[0x28, 0x4e00, 0x29], [0x28, 0x4e8c, 0x29], [0x28, 0x4e09, 0x29],
     [0x28, 0x56db, 0x29], [0x28, 0x4e94, 0x29], [0x28, 0x516d, 0x29], [0x28, 0x4e03, 0x29],
     [0x28, 0x516b, 0x29], [0x28, 0x4e5d, 0x29], [0x28, 0x5341, 0x29], [0x28, 0x6708, 0x29],
     [0x28, 0x706b, 0x29], [0x28, 0x6c34, 0x29], [0x28, 0x6728, 0x29], [0x28, 0x91d1, 0x29],
     [0x28, 0x571f, 0x29], [0x28, 0x65e5, 0x29], [0x28, 0x682a, 0x29], [0x28, 0x6709, 0x29],
     [0x28, 0x793e, 0x29], [0x28, 0x540d, 0x29], [0x28, 0x7279, 0x29], [0x28, 0x8ca1, 0x29],
     [0x28, 0x795d, 0x29], [0x28, 0x52b4, 0x29], [0x28, 0x4ee3, 0x29], [0x28, 0x547c, 0x29],
     [0x28, 0x5b66, 0x29], [0x28, 0x76e3, 0x29], [0x28, 0x4f01, 0x29], [0x28, 0x8cc7, 0x29],
     [0x28, 0x5354, 0x29], [0x28, 0x796d, 0x29], [0x28, 0x4f11, 0x29], [0x28, 0x81ea, 0x29],
     [0x28, 0x81f3, 0x29], [0x554f], [0x5e7c], [0x6587], [0x7b8f]]),
   (0x3250, [[0x70, 0x74, 0x65], [0x32, 0x31], [0x32, 0x32], [0x32, 0x33], [0x32, 0x34],
     [0x32, 0x35], [0x32, 0x36], [0x32, 0x37], [0x32, 0x38], [0x32, 0x39], [0x33, 0x30],
     [0x33, 0x31], [0x33, 0x32], [0x33, 0x33], [0x33, 0x34], [0x33, 0x35], [0x1100], [0x1102],
     [0x1103]]),
   (0x3266, [[0x1109], [0x110b], [0x110c]]),
   (0x326e, [[0xac00], [0xb098], [0xb2e4], [0xb77c], [0xb9c8], [0xbc14], [0xc0ac], [0xc544],
     [0xc790], [0xcc28], [0xce74], [0xd0c0], [0xd30c], [0xd558], [0xcc38, 0xace0],
     [0xc8fc, 0xc758], [0xc6b0]]),
   (0x3280, [[0x4e00], [0x4e8c], [0x4e09], [0x56db], [0x4e94], [0x516d], [0x4e03], [0x516b],
     [0x4e5d], [0x5341], [0x6708], [0x706b], [0x6c34], [0x6728], [0x91d1], [0x571f], [0x65e5],
     [0x682a], [0x6709], [0x793e], [0x540d], [0x7279], [0x8ca1], [0x795d], [0x52b4], [0x79d8],
     [0x7537], [0x5973], [0x9069], [0x512a], [0x5370], [0x6ce8], [0x9805], [0x4f11], [0x5199],
     [0x6b63], [0x4e0a], [0x4e2d], [0x4e0b], [0x5de6], [0x53f3], [0x533b], [0x5b97], [0x5b66],
     [0x76e3], [0x4f01], [0x8cc7], [0x5354]]),
   (0x32b0, [[0x591c], [0x33, 0x36], [0x33, 0x37], [0x33, 0x38], [0x33, 0x39], [0x34, 0x30],
     [0x34, 0x31], [0x34, 0x32], [0x34, 0x33], [0x34, 0x34], [0x34, 0x35], [0x34, 0x36],
     [0x34, 0x37], [0x34, 0x38], [0x34, 0x39], [0x35, 0x30], [0x31, 0x6708], [0x32, 0x6708],
     [0x33, 0x6708], [0x34, 0x6708], [0x35, 0x6708], [0x36, 0x6708], [0x37, 0x6708],
     [0x38, 0x6708], [0x39, 0x6708], [0x31, 0x30, 0x6708], [0x31, 0x31, 0x6708],
     [0x31, 0x32, 0x6708], [0x68, 0x67], [0x65, 0x72, 0x67], [0x65, 0x76], [0x6c, 0x74, 0x64],
     [0x30a2], [0x30a4], [0x30a6], [0x30a8], [0x30aa], [0x30ab], [0x30ad], [0x30af], [0x30b1],
     [0x30b3], [0x30b5], [0x30b7], [0x30b9], [0x30bb], [0x30bd], [0x30bf]]),
   (0x32e0, [[0x30c1], [0x30c4], [0x30c6], [0x30c8]]),
   (0x32ea, [[0x30d2], [0x30d5], [0x30d8], [0x30db]]), (0x32f3, [[0x30e4], [0x30e6]]),
   (0x32ff, [[0x4ee4, 0x548c], [0x30a2, 0x30d1, 0x30fc, 0x30c8], [0x30a2, 0x30eb, 0x30d5, 0x30a1],
     [0x30a2, 0x30f3, 0x30da, 0x30a2], [0x30a2, 0x30fc, 0x30eb], [0x30a4, 0x30cb, 0x30f3, 0x30b0],
     [0x30a4, 0x30f3, 0x30c1], [0x30a6, 0x30a9, 0x30f3], [0x30a8, 0x30b9, 0x30af, 0x30fc, 0x30c9],
     [0x30a8, 0x30fc, 0x30ab, 0x30fc], [0x30aa, 0x30f3, 0x30b9], [0x30aa, 0x30fc, 0x30e0],
     [0x30ab, 0x30a4, 0x30ea], [0x30ab, 0x30e9, 0x30c3, 0x30c8], [0x30ab, 0x30ed, 0x30ea, 0x30fc],
     [0x30ac, 0x30ed, 0x30f3], [0x30ac, 0x30f3, 0x30de], [0x30ae, 0x30ac],
     [0x30ae, 0x30cb, 0x30fc], [0x30ad, 0x30e5, 0x30ea, 0x30fc], [0x30ae, 0x30eb, 0x30c0, 0x30fc],
     [0x30ad, 0x30ed], [0x30ad, 0x30ed, 0x30b0, 0x30e9, 0x30e0],
     [0x30ad, 0x30ed, 0x30e1, 0x30fc, 0x30c8, 0x30eb], [0x30ad, 0x30ed, 0x30ef, 0x30c3, 0x30c8],
     [0x30b0, 0x30e9, 0x30e0], [0x30b0, 0x30e9, 0x30e0, 0x30c8, 0x30f3],
     [0x30af, 0x30eb, 0x30bc, 0x30a4, 0x30ed], [0x30af, 0x30ed, 0x30fc, 0x30cd],
     [0x30b1, 0x30fc, 0x30b9], [0x30b3, 0x30eb, 0x30ca], [0x30b3, 0x30fc, 0x30dd],
     [0x30b5, 0x30a4, 0x30af, 0x30eb], [0x30b5, 0x30f3, 0x30c1, 0x30fc, 0x30e0],
     [0x30b7, 0x30ea, 0x30f3, 0x30b0], [0x30bb, 0x30f3, 0x30c1], [0x30bb, 0x30f3, 0x30c8],
     [0x30c0, 0x30fc, 0x30b9], [0x30c7, 0x30b7], [0x30c9, 0x30eb], [0x30c8, 0x30f3],
     [0x30ca, 0x30ce], [0x30ce, 0x30c3, 0x30c8], [0x30cf, 0x30a4, 0x30c4],
     [0x30d1, 0x30fc, 0x30bb, 0x30f3, 0x30c8], [0x30d1, 0x30fc, 0x30c4],
     [0x30d0, 0x30fc, 0x30ec, 0x30eb], [0x30d4, 0x30a2, 0x30b9, 0x30c8, 0x30eb]]),
   (0x332f, [[0x30d4, 0x30af, 0x30eb], [0x30d4, 0x30b3], [0x30d3, 0x30eb],
     [0x30d5, 0x30a1, 0x30e9, 0x30c3, 0x30c9], [0x30d5, 0x30a3, 0x30fc, 0x30c8],
     [0x30d6, 0x30c3, 0x30b7, 0x30a7, 0x30eb], [0x30d5, 0x30e9, 0x30f3],
     [0x30d8, 0x30af, 0x30bf, 0x30fc, 0x30eb], [0x30da, 0x30bd], [0x30da, 0x30cb, 0x30d2],
     [0x30d8, 0x30eb, 0x30c4], [0x30da, 0x30f3, 0x30b9], [0x30da, 0x30fc, 0x30b8],
     [0x30d9, 0x30fc, 0x30bf], [0x30dd, 0x30a4, 0x30f3, 0x30c8], [0x30dc, 0x30eb, 0x30c8],
     [0x30db, 0x30f3], [0x30dd, 0x30f3, 0x30c9], [0x30db, 0x30fc, 0x30eb],
     [0x30db, 0x30fc, 0x30f3], [0x30de, 0x30a4, 0x30af, 0x30ed], [0x30de, 0x30a4, 0x30eb],
     [0x30de, 0x30c3, 0x30cf], [0x30de, 0x30eb, 0x30af], [0x30de, 0x30f3, 0x30b7, 0x30e7, 0x30f3],
     [0x30df, 0x30af, 0x30ed, 0x30f3], [0x30df, 0x30ea], [0x30df, 0x30ea, 0x30d0, 0x30fc, 0x30eb],
     [0x30e1, 0x30ac], [0x30e1, 0x30ac, 0x30c8, 0x30f3], [0x30e1, 0x30fc, 0x30c8, 0x30eb],
     [0x30e4, 0x30fc, 0x30c9], [0x30e4, 0x30fc, 0x30eb], [0x30e6, 0x30a2, 0x30f3],
     [0x30ea, 0x30c3, 0x30c8, 0x30eb], [0x30ea, 0x30e9], [0x30eb, 0x30d4, 0x30fc],
     [0x30eb, 0x30fc, 0x30d6, 0x30eb], [0x30ec, 0x30e0], [0x30ec, 0x30f3, 0x30c8, 0x30b2, 0x30f3],
     [0x30ef, 0x30c3, 0x30c8], [0x30, 0x70b9], [0x31, 0x70b9], [0x32, 0x70b9], [0x33, 0x70b9],
     [0x34, 0x70b9], [0x35, 0x70b9], [0x36, 0x70b9]]),
   (0x335f, [[0x37, 0x70b9], [0x38, 0x70b9], [0x39, 0x70b9], [0x31, 0x30, 0x70b9],
     [0x31, 0x31, 0x70b9], [0x31, 0x32, 0x70b9], [0x31, 0x33, 0x70b9], [0x31, 0x34, 0x70b9],
     [0x31, 0x35, 0x70b9], [0x31, 0x36, 0x70b9], [0x31, 0x37, 0x70b9], [0x31, 0x38, 0x70b9],
     [0x31, 0x39, 0x70b9], [0x32, 0x30, 0x70b9], [0x32, 0x31, 0x70b9], [0x32, 0x32, 0x70b9],
     [0x32, 0x33, 0x70b9], [0x32, 0x34, 0x70b9], [0x68, 0x70, 0x61], [0x64, 0x61], [0x61, 0x75],
     [0x62, 0x61, 0x72], [0x6f, 0x76], [0x70, 0x63], [0x64, 0x6d], [0x64, 0x6d, 0x32],
     [0x64, 0x6d, 0x33], [0x69, 0x75], [0x5e73, 0x6210], [0x662d, 0x548c], [0x5927, 0x6b63],
     [0x660e, 0x6cbb], [0x682a, 0x5f0f, 0x4f1a, 0x793e], [0x70, 0x61], [0x6e, 0x61], [0x3bc, 0x61],
     [0x6d, 0x61], [0x6b, 0x61], [0x6b, 0x62], [0x6d, 0x62], [0x67, 0x62], [0x63, 0x61, 0x6c],
     [0x6b, 0x63, 0x61, 0x6c], [0x70, 0x66], [0x6e, 0x66], [0x3bc, 0x66], [0x3bc, 0x67],
     [0x6d, 0x67]]),
   (0x338f, [[0x6b, 0x67], [0x68, 0x7a], [0x6b, 0x68, 0x7a], [0x6d, 0x68, 0x7a],
     [0x67, 0x68, 0x7a], [0x74, 0x68, 0x7a], [0x3bc, 0x6c], [0x6d, 0x6c], [0x64, 0x6c],
     [0x6b, 0x6c], [0x66, 0x6d], [0x6e, 0x6d], [0x3bc, 0x6d], [0x6d, 0x6d], [0x63, 0x6d],
     [0x6b, 0x6d], [0x6d, 0x6d, 0x32], [0x63, 0x6d, 0x32], [0x6d, 0x32], [0x6b, 0x6d, 0x32],
     [0x6d, 0x6d, 0x33], [0x63, 0x6d, 0x33], [0x6d, 0x33], [0x6b, 0x6d, 0x33],
     [0x6d, 0x2215, 0x73], [0x6d, 0x2215, 0x73, 0x32], [0x70, 0x61], [0x6b, 0x70, 0x61],
     [0x6d, 0x70, 0x61], [0x67, 0x70, 0x61], [0x72, 0x61, 0x64], [0x72, 0x61, 0x64, 0x2215, 0x73],
     [0x72, 0x61, 0x64, 0x2215, 0x73, 0x32], [0x70, 0x73], [0x6e, 0x73], [0x3bc, 0x73],
     [0x6d, 0x73], [0x70, 0x76], [0x6e, 0x76], [0x3bc, 0x76], [0x6d, 0x76], [0x6b, 0x76],
     [0x6d, 0x76], [0x70, 0x77], [0x6e, 0x77], [0x3bc, 0x77], [0x6d, 0x77], [0x6b, 0x77]]),
   (0x33bf, [[0x6d, 0x77], [0x6b, 0x3c9], [0x6d, 0x3c9]]),
   (0x33c3, [[0x62, 0x71], [0x63, 0x63], [0x63, 0x64], [0x63, 0x2215, 0x6b, 0x67]]),
   (0x33c8, [[0x64, 0x62], [0x67, 0x79], [0x68, 0x61], [0x68, 0x70], [0x69, 0x6e], [0x6b, 0x6b],
     [0x6b, 0x6d], [0x6b, 0x74], [0x6c, 0x6d], [0x6c, 0x6e], [0x6c, 0x6f, 0x67], [0x6c, 0x78],
     [0x6d, 0x62], [0x6d, 0x69, 0x6c], [0x6d, 0x6f, 0x6c], [0x70, 0x68]]),
   (0x33d9, [[0x70, 0x70, 0x6d], [0x70, 0x72], [0x73, 0x72], [0x73, 0x76], [0x77, 0x62],
     [0x76, 0x2215, 0x6d], [0x61, 0x2215, 0x6d], [0x31, 0x65e5], [0x32, 0x65e5], [0x33, 0x65e5],
     [0x34, 0x65e5], [0x35, 0x65e5], [0x36, 0x65e5], [0x37, 0x65e5], [0x38, 0x65e5],
     [0x39, 0x65e5], [0x31, 0x30, 0x65e5], [0x31, 0x31, 0x65e5], [0x31, 0x32, 0x65e5],
     [0x31, 0x33, 0x65e5], [0x31, 0x34, 0x65e5], [0x31, 0x35, 0x65e5], [0x31, 0x36, 0x65e5],
     [0x31, 0x37, 0x65e5], [0x31, 0x38, 0x65e5], [0x31, 0x39, 0x65e5], [0x32, 0x30, 0x65e5],
     [0x32, 0x31, 0x65e5], [0x32, 0x32, 0x65e5], [0x32, 0x33, 0x65e5], [0x32, 0x34, 0x65e5],
     [0x32, 0x35, 0x65e5], [0x32, 0x36, 0x65e5], [0x32, 0x37, 0x65e5], [0x32, 0x38, 0x65e5],
     [0x32, 0x39, 0x65e5], [0x33, 0x30, 0x65e5], [0x33, 0x31, 0x65e5], [0x67, 0x61, 0x6c]]),
   (0xa69c, [[0x44a], [0x44c]]), (0xa770, [[0xa76f]]), (0xa77d, [[0x1d79]]), (0xa78d, [[0x265]]),
   (0xa7aa, [[0x266], [0x25c], [0x261], [0x26c], [0x26a]]),
   (0xa7b0, [[0x29e], [0x287], [0x29d], [0xab53]]), (0xa7c4, [[0xa794], [0x282], [0x1d8e]]),
   (0xa7cb, [[0x264]]), (0xa7dc, [[0x19b]]), (0xa7f1, [[0x73], [0x63], [0x66], [0x71]]),
   (0xa7f8, [[0x127], [0x153]]), (0xab5c, [[0xa727], [0xab37], [0x26b], [0xab52]]),
   (0xab69, [[0x28d]])]

/-- The texts that replace ligatures, and forms of letters and signs. -/
def formSpellings : List (Nat × List (List Nat)) :=
  [(0xfb00, [[0x66, 0x66], [0x66, 0x69], [0x66, 0x6c], [0x66, 0x66, 0x69], [0x66, 0x66, 0x6c],
     [0x73, 0x74], [0x73, 0x74]]),
   (0xfb13, [[0x574, 0x576], [0x574, 0x565], [0x574, 0x56b], [0x57e, 0x576], [0x574, 0x56d]]),
   (0xfb20, [[0x5e2], [0x5d0], [0x5d3], [0x5d4]]), (0xfb27, [[0x5e8], [0x5ea], [0x2b]]),
   (0xfb4f, [[0x5d0, 0x5dc], [0x671], [0x671], [0x67b], [0x67b], [0x67b], [0x67b], [0x67e],
     [0x67e], [0x67e], [0x67e], [0x680], [0x680], [0x680], [0x680], [0x67a], [0x67a], [0x67a],
     [0x67a], [0x67f], [0x67f], [0x67f], [0x67f], [0x679], [0x679], [0x679], [0x679], [0x6a4],
     [0x6a4], [0x6a4], [0x6a4], [0x6a6], [0x6a6], [0x6a6], [0x6a6], [0x684], [0x684], [0x684],
     [0x684], [0x683], [0x683], [0x683], [0x683], [0x686], [0x686], [0x686], [0x686], [0x687]]),
   (0xfb7f, [[0x687], [0x687], [0x687], [0x68d], [0x68d], [0x68c], [0x68c], [0x68e], [0x68e],
     [0x688], [0x688], [0x698], [0x698], [0x691], [0x691], [0x6a9], [0x6a9], [0x6a9], [0x6a9],
     [0x6af], [0x6af], [0x6af], [0x6af], [0x6b3], [0x6b3], [0x6b3], [0x6b3], [0x6b1], [0x6b1],
     [0x6b1], [0x6b1], [0x6ba], [0x6ba], [0x6bb], [0x6bb], [0x6bb], [0x6bb], [0x6c0], [0x6c0],
     [0x6c1], [0x6c1], [0x6c1], [0x6c1], [0x6be], [0x6be], [0x6be], [0x6be], [0x6d2]]),
   (0xfbaf, [[0x6d2], [0x6d3], [0x6d3]]),
   (0xfbd3, [[0x6ad], [0x6ad], [0x6ad], [0x6ad], [0x6c7], [0x6c7], [0x6c6], [0x6c6], [0x6c8],
     [0x6c8], [0x6c7, 0x674], [0x6cb], [0x6cb], [0x6c5], [0x6c5], [0x6c9], [0x6c9], [0x6d0],
     [0x6d0], [0x6d0], [0x6d0], [0x649], [0x649], [0x626, 0x627], [0x626, 0x627], [0x626, 0x6d5],
     [0x626, 0x6d5], [0x626, 0x648], [0x626, 0x648], [0x626, 0x6c7], [0x626, 0x6c7],
     [0x626, 0x6c6], [0x626, 0x6c6], [0x626, 0x6c8], [0x626, 0x6c8], [0x626, 0x6d0],
     [0x626, 0x6d0], [0x626, 0x6d0], [0x626, 0x649], [0x626, 0x649], [0x626, 0x649], [0x6cc],
     [0x6cc], [0x6cc], [0x6cc], [0x626, 0x62c], [0x626, 0x62d], [0x626, 0x645]]),
   (0xfc03, [[0x626, 0x649], [0x626, 0x64a], [0x628, 0x62c], [0x628, 0x62d], [0x628, 0x62e],
     [0x628, 0x645], [0x628, 0x649], [0x628, 0x64a], [0x62a, 0x62c], [0x62a, 0x62d],
     [0x62a, 0x62e], [0x62a, 0x645], [0x62a, 0x649], [0x62a, 0x64a], [0x62b, 0x62c],
     [0x62b, 0x645], [0x62b, 0x649], [0x62b, 0x64a], [0x62c, 0x62d], [0x62c, 0x645],
     [0x62d, 0x62c], [0x62d, 0x645], [0x62e, 0x62c], [0x62e, 0x62d], [0x62e, 0x645],
     [0x633, 0x62c], [0x633, 0x62d], [0x633, 0x62e], [0x633, 0x645], [0x635, 0x62d],
     [0x635, 0x645], [0x636, 0x62c], [0x636, 0x62d], [0x636, 0x62e], [0x636, 0x645],
     [0x637, 0x62d], [0x637, 0x645], [0x638, 0x645], [0x639, 0x62c], [0x639, 0x645],
     [0x63a, 0x62c], [0x63a, 0x645], [0x641, 0x62c], [0x641, 0x62d], [0x641, 0x62e],
     [0x641, 0x645], [0x641, 0x649], [0x641, 0x64a]]),
   (0xfc33, [[0x642, 0x62d], [0x642, 0x645], [0x642, 0x649], [0x642, 0x64a], [0x643, 0x627],
     [0x643, 0x62c], [0x643, 0x62d], [0x643, 0x62e], [0x643, 0x644], [0x643, 0x645],
     [0x643, 0x649], [0x643, 0x64a], [0x644, 0x62c], [0x644, 0x62d], [0x644, 0x62e],
     [0x644, 0x645], [0x644, 0x649], [0x644, 0x64a], [0x645, 0x62c], [0x645, 0x62d],
     [0x645, 0x62e], [0x645, 0x645], [0x645, 0x649], [0x645, 0x64a], [0x646, 0x62c],
     [0x646, 0x62d], [0x646, 0x62e], [0x646, 0x645], [0x646, 0x649], [0x646, 0x64a],
     [0x647, 0x62c], [0x647, 0x645], [0x647, 0x649], [0x647, 0x64a], [0x64a, 0x62c],
     [0x64a, 0x62d], [0x64a, 0x62e], [0x64a, 0x645], [0x64a, 0x649], [0x64a, 0x64a],
     [0x630, 0x670], [0x631, 0x670], [0x649, 0x670], [0x20, 0x64c, 0x651], [0x20, 0x64d, 0x651],
     [0x20, 0x64e, 0x651], [0x20, 0x64f, 0x651], [0x20, 0x650, 0x651]]),
   (0xfc63, [[0x20, 0x651, 0x670], [0x626, 0x631], [0x626, 0x632], [0x626, 0x645], [0x626, 0x646],
     [0x626, 0x649], [0x626, 0x64a], [0x628, 0x631], [0x628, 0x632], [0x628, 0x645],
     [0x628, 0x646], [0x628, 0x649], [0x628, 0x64a], [0x62a, 0x631], [0x62a, 0x632],
     [0x62a, 0x645], [0x62a, 0x646], [0x62a, 0x649], [0x62a, 0x64a], [0x62b, 0x631],
     [0x62b, 0x632], [0x62b, 0x645], [0x62b, 0x646], [0x62b, 0x649], [0x62b, 0x64a],
     [0x641, 0x649], [0x641, 0x64a], [0x642, 0x649], [0x642, 0x64a], [0x643, 0x627],
     [0x643, 0x644], [0x643, 0x645], [0x643, 0x649], [0x643, 0x64a], [0x644, 0x645],
     [0x644, 0x649], [0x644, 0x64a], [0x645, 0x627], [0x645, 0x645], [0x646, 0x631],
     [0x646, 0x632], [0x646, 0x645], [0x646, 0x646], [0x646, 0x649], [0x646, 0x64a],
     [0x649, 0x670], [0x64a, 0x631], [0x64a, 0x632]]),
   (0xfc93, [[0x64a, 0x645], [0x64a, 0x646], [0x64a, 0x649], [0x64a, 0x64a], [0x626, 0x62c],
     [0x626, 0x62d], [0x626, 0x62e], [0x626, 0x645], [0x626, 0x647], [0x628, 0x62c],
     [0x628, 0x62d], [0x628, 0x62e], [0x628, 0x645], [0x628, 0x647], [0x62a, 0x62c],
     [0x62a, 0x62d], [0x62a, 0x62e], [0x62a, 0x645], [0x62a, 0x647], [0x62b, 0x645],
     [0x62c, 0x62d], [0x62c, 0x645], [0x62d, 0x62c], [0x62d, 0x645], [0x62e, 0x62c],
     [0x62e, 0x645], [0x633, 0x62c], [0x633, 0x62d], [0x633, 0x62e], [0x633, 0x645],
     [0x635, 0x62d], [0x635, 0x62e], [0x635, 0x645], [0x636, 0x62c], [0x636, 0x62d],
     [0x636, 0x62e], [0x636, 0x645], [0x637, 0x62d], [0x638, 0x645], [0x639, 0x62c],
     [0x639, 0x645], [0x63a, 0x62c], [0x63a, 0x645], [0x641, 0x62c], [0x641, 0x62d],
     [0x641, 0x62e], [0x641, 0x645], [0x642, 0x62d]]),
   (0xfcc3, [[0x642, 0x645], [0x643, 0x62c], [0x643, 0x62d], [0x643, 0x62e], [0x643, 0x644],
     [0x643, 0x645], [0x644, 0x62c], [0x644, 0x62d], [0x644, 0x62e], [0x644, 0x645],
     [0x644, 0x647], [0x645, 0x62c], [0x645, 0x62d], [0x645, 0x62e], [0x645, 0x645],
     [0x646, 0x62c], [0x646, 0x62d], [0x646, 0x62e], [0x646, 0x645], [0x646, 0x647],
     [0x647, 0x62c], [0x647, 0x645], [0x647, 0x670], [0x64a, 0x62c], [0x64a, 0x62d],
     [0x64a, 0x62e], [0x64a, 0x645], [0x64a, 0x647], [0x626, 0x645], [0x626, 0x647],
     [0x628, 0x645], [0x628, 0x647], [0x62a, 0x645], [0x62a, 0x647], [0x62b, 0x645],
     [0x62b, 0x647], [0x633, 0x645], [0x633, 0x647], [0x634, 0x645], [0x634, 0x647],
     [0x643, 0x644], [0x643, 0x645], [0x644, 0x645], [0x646, 0x645], [0x646, 0x647],
     [0x64a, 0x645], [0x64a, 0x647], [0x640, 0x64e, 0x651]]),
   (0xfcf3, [[0x640, 0x64f, 0x651], [0x640, 0x650, 0x651], [0x637, 0x649], [0x637, 0x64a],
     [0x639, 0x649], [0x639, 0x64a], [0x63a, 0x649], [0x63a, 0x64a], [0x633, 0x649],
     [0x633, 0x64a], [0x634, 0x649], [0x634, 0x64a], [0x62d, 0x649], [0x62d, 0x64a],
     [0x62c, 0x649], [0x62c, 0x64a], [0x62e, 0x649], [0x62e, 0x64a], [0x635, 0x649],
     [0x635, 0x64a], [0x636, 0x649], [0x636, 0x64a], [0x634, 0x62c], [0x634, 0x62d],
     [0x634, 0x62e], [0x634, 0x645], [0x634, 0x631], [0x633, 0x631], [0x635, 0x631],
     [0x636, 0x631], [0x637, 0x649], [0x637, 0x64a], [0x639, 0x649], [0x639, 0x64a],
     [0x63a, 0x649], [0x63a, 0x64a], [0x633, 0x649], [0x633, 0x64a], [0x634, 0x649],
     [0x634, 0x64a], [0x62d, 0x649], [0x62d, 0x64a], [0x62c, 0x649], [0x62c, 0x64a],
     [0x62e, 0x649], [0x62e, 0x64a], [0x635, 0x649], [0x635, 0x64a]]),
   (0xfd23, [[0x636, 0x649], [0x636, 0x64a], [0x634, 0x62c], [0x634, 0x62d], [0x634, 0x62e],
     [0x634, 0x645], [0x634, 0x631], [0x633, 0x631], [0x635, 0x631], [0x636, 0x631],
     [0x634, 0x62c], [0x634, 0x62d], [0x634, 0x62e], [0x634, 0x645], [0x633, 0x647],
     [0x634, 0x647], [0x637, 0x645], [0x633, 0x62c], [0x633, 0x62d], [0x633, 0x62e],
     [0x634, 0x62c], [0x634, 0x62d], [0x634, 0x62e], [0x637, 0x645], [0x638, 0x645],
     [0x627, 0x64b], [0x627, 0x64b]]),
   (0xfd50, [[0x62a, 0x62c, 0x645], [0x62a, 0x62d, 0x62c], [0x62a, 0x62d, 0x62c],
     [0x62a, 0x62d, 0x645], [0x62a, 0x62e, 0x645], [0x62a, 0x645, 0x62c], [0x62a, 0x645, 0x62d],
     [0x62a, 0x645, 0x62e], [0x62c, 0x645, 0x62d], [0x62c, 0x645, 0x62d], [0x62d, 0x645, 0x64a],
     [0x62d, 0x645, 0x649], [0x633, 0x62d, 0x62c], [0x633, 0x62c, 0x62d], [0x633, 0x62c, 0x649],
     [0x633, 0x645, 0x62d], [0x633, 0x645, 0x62d], [0x633, 0x645, 0x62c], [0x633, 0x645, 0x645],
     [0x633, 0x645, 0x645], [0x635, 0x62d, 0x62d], [0x635, 0x62d, 0x62d], [0x635, 0x645, 0x645],
     [0x634, 0x62d, 0x645], [0x634, 0x62d, 0x645], [0x634, 0x62c, 0x64a], [0x634, 0x645, 0x62e],
     [0x634, 0x645, 0x62e], [0x634, 0x645, 0x645], [0x634, 0x645, 0x645], [0x636, 0x62d, 0x649],
     [0x636, 0x62e, 0x645], [0x636, 0x62e, 0x645], [0x637, 0x645, 0x62d], [0x637, 0x645, 0x62d],
     [0x637, 0x645, 0x645], [0x637, 0x645, 0x64a], [0x639, 0x62c, 0x645], [0x639, 0x645, 0x645],
     [0x639, 0x645, 0x645], [0x639, 0x645, 0x649], [0x63a, 0x645, 0x645], [0x63a, 0x645, 0x64a],
     [0x63a, 0x645, 0x649], [0x641, 0x62e, 0x645], [0x641, 0x62e, 0x645], [0x642, 0x645, 0x62d],
     [0x642, 0x645, 0x645]]),
   (0xfd80, [[0x644, 0x62d, 0x645], [0x644, 0x62d, 0x64a], [0x644, 0x62d, 0x649],
     [0x644, 0x62c, 0x62c], [0x644, 0x62c, 0x62c], [0x644, 0x62e, 0x645], [0x644, 0x62e, 0x645],
     [0x644, 0x645, 0x62d], [0x644, 0x645, 0x62d], [0x645, 0x62d, 0x62c], [0x645, 0x62d, 0x645],
     [0x645, 0x62d, 0x64a], [0x645, 0x62c, 0x62d], [0x645, 0x62c, 0x645], [0x645, 0x62e, 0x62c],
     [0x645, 0x62e, 0x645]]),
   (0xfd92, [[0x645, 0x62c, 0x62e], [0x647, 0x645, 0x62c], [0x647, 0x645, 0x645],
     [0x646, 0x62d, 0x645], [0x646, 0x62d, 0x649], [0x646, 0x62c, 0x645], [0x646, 0x62c, 0x645],
     [0x646, 0x62c, 0x649], [0x646, 0x645, 0x64a], [0x646, 0x645, 0x649], [0x64a, 0x645, 0x645],
     [0x64a, 0x645, 0x645], [0x628, 0x62e, 0x64a], [0x62a, 0x62c, 0x64a], [0x62a, 0x62c, 0x649],
     [0x62a, 0x62e, 0x64a], [0x62a, 0x62e, 0x649], [0x62a, 0x645, 0x64a], [0x62a, 0x645, 0x649],
     [0x62c, 0x645, 0x64a], [0x62c, 0x62d, 0x649], [0x62c, 0x645, 0x649], [0x633, 0x62e, 0x649],
     [0x635, 0x62d, 0x64a], [0x634, 0x62d, 0x64a], [0x636, 0x62d, 0x64a], [0x644, 0x62c, 0x64a],
     [0x644, 0x645, 0x64a], [0x64a, 0x62d, 0x64a], [0x64a, 0x62c, 0x64a], [0x64a, 0x645, 0x64a],
     [0x645, 0x645, 0x64a], [0x642, 0x645, 0x64a], [0x646, 0x62d, 0x64a], [0x642, 0x645, 0x62d],
     [0x644, 0x62d, 0x645], [0x639, 0x645, 0x64a], [0x643, 0x645, 0x64a], [0x646, 0x62c, 0x62d],
     [0x645, 0x62e, 0x64a], [0x644, 0x62c, 0x645], [0x643, 0x645, 0x645], [0x644, 0x62c, 0x645],
     [0x646, 0x62c, 0x62d], [0x62c, 0x62d, 0x64a], [0x62d, 0x62c, 0x64a], [0x645, 0x62c, 0x64a],
     [0x641, 0x645, 0x64a]]),
   (0xfdc2, [[0x628, 0x62d, 0x64a], [0x643, 0x645, 0x645], [0x639, 0x62c, 0x645],
     [0x635, 0x645, 0x645], [0x633, 0x62e, 0x64a], [0x646, 0x62c, 0x64a]]),
   (0xfdf0, [[0x635, 0x644, 0x6d2], [0x642, 0x644, 0x6d2], [0x627, 0x644, 0x644, 0x647],
     [0x627, 0x643, 0x628, 0x631], [0x645, 0x62d, 0x645, 0x62f], [0x635, 0x644, 0x639, 0x645],
     [0x631, 0x633, 0x648, 0x644], [0x639, 0x644, 0x64a, 0x647], [0x648, 0x633, 0x644, 0x645],
     [0x635, 0x644, 0x649],
     [0x635, 0x644, 0x649, 0x20, 0x627, 0x644, 0x644, 0x647, 0x20, 0x639,
      0x644, 0x64a, 0x647, 0x20, 0x648, 0x633, 0x644, 0x645],
     [0x62c, 0x644, 0x20, 0x62c, 0x644, 0x627, 0x644, 0x647], [0x631, 0x6cc, 0x627, 0x644]]),
   (0xfe10, [[0x2c], [0x3001]]), (0xfe13, [[0x3a], [0x3b], [0x21], [0x3f], [0x3016], [0x3017]]),
   (0xfe31, [[0x2014], [0x2013], [0x5f], [0x5f], [0x28], [0x29], [0x7b], [0x7d], [0x3014],
     [0x3015], [0x3010], [0x3011], [0x300a], [0x300b], [0x3008], [0x3009]]),
   (0xfe47, [[0x5b], [0x5d], [0x20, 0x305], [0x20, 0x305], [0x20, 0x305], [0x20, 0x305], [0x5f],
     [0x5f], [0x5f], [0x2c], [0x3001]]),
   (0xfe54, [[0x3b], [0x3a], [0x3f], [0x21], [0x2014], [0x28], [0x29], [0x7b], [0x7d], [0x3014],
     [0x3015], [0x23], [0x26], [0x2a], [0x2b], [0x2d], [0x3c], [0x3e], [0x3d]]),
   (0xfe68, [[0x5c], [0x24], [0x25], [0x40]]),
   (0xfe70, [[0x20, 0x64b], [0x640, 0x64b], [0x20, 0x64c]]), (0xfe74, [[0x20, 0x64d]]),
   (0xfe76, [[0x20, 0x64e], [0x640, 0x64e], [0x20, 0x64f], [0x640, 0x64f], [0x20, 0x650],
     [0x640, 0x650], [0x20, 0x651], [0x640, 0x651], [0x20, 0x652], [0x640, 0x652], [0x621],
     [0x622], [0x622], [0x623], [0x623], [0x624], [0x624], [0x625], [0x625], [0x626], [0x626],
     [0x626], [0x626], [0x627], [0x627], [0x628], [0x628], [0x628], [0x628], [0x629], [0x629],
     [0x62a], [0x62a], [0x62a], [0x62a], [0x62b], [0x62b], [0x62b], [0x62b], [0x62c], [0x62c],
     [0x62c], [0x62c], [0x62d], [0x62d], [0x62d], [0x62d], [0x62e]]),
   (0xfea6, [[0x62e], [0x62e], [0x62e], [0x62f], [0x62f], [0x630], [0x630], [0x631], [0x631],
     [0x632], [0x632], [0x633], [0x633], [0x633], [0x633], [0x634], [0x634], [0x634], [0x634],
     [0x635], [0x635], [0x635], [0x635], [0x636], [0x636], [0x636], [0x636], [0x637], [0x637],
     [0x637], [0x637], [0x638], [0x638], [0x638], [0x638], [0x639], [0x639], [0x639], [0x639],
     [0x63a], [0x63a], [0x63a], [0x63a], [0x641], [0x641], [0x641], [0x641], [0x642]]),
   (0xfed6, [[0x642], [0x642], [0x642], [0x643], [0x643], [0x643], [0x643], [0x644], [0x644],
     [0x644], [0x644], [0x645], [0x645], [0x645], [0x645], [0x646], [0x646], [0x646], [0x646],
     [0x647], [0x647], [0x647], [0x647], [0x648], [0x648], [0x649], [0x649], [0x64a], [0x64a],
     [0x64a], [0x64a], [0x644, 0x622], [0x644, 0x622], [0x644, 0x623], [0x644, 0x623],
     [0x644, 0x625], [0x644, 0x625], [0x644, 0x627], [0x644, 0x627]]),
   (0xff5f, [[0x2985], [0x2986], [0x2e], [0x300c], [0x300d], [0x3001], [0x30fb], [0x30f2],
     [0x30a1], [0x30a3], [0x30a5], [0x30a7], [0x30a9], [0x30e3], [0x30e5], [0x30e7], [0x30c3],
     [0x30fc], [0x30a2], [0x30a4], [0x30a6], [0x30a8], [0x30aa], [0x30ab], [0x30ad], [0x30af],
     [0x30b1], [0x30b3], [0x30b5], [0x30b7], [0x30b9], [0x30bb], [0x30bd], [0x30bf], [0x30c1],
     [0x30c4], [0x30c6], [0x30c8]]),
   (0xff8b, [[0x30d2], [0x30d5], [0x30d8], [0x30db]]), (0xff94, [[0x30e4], [0x30e6]]),
   (0xff9c, [[0x30ef], [0x30f3], [0x3099], [0x309a]]),
   (0xffa1, [[0x1100], [0x1101], [0x11aa], [0x1102], [0x11ac], [0x11ad]]), (0xffb0, [[0x111a]]),
   (0xffb4, [[0x1121]]),
   (0xffe0, [[0xa2], [0xa3], [0xac], [0x20, 0x304], [0xa6], [0xa5], [0x20a9]]),
   (0xffe8, [[0x2502]]), (0xffed, [[0x25a0], [0x25cb]])]

/-- The texts that replace the characters from number `0x10000` on. -/
def rareSpellings : List (Nat × List (List Nat)) :=
  [(0x10594, [[0x105bb], [0x105bc]]), (0x10781, [[0x2d0], [0x2d1], [0xe6], [0x299], [0x253]]),
   (0x10787, [[0x2a3], [0xab66], [0x2a5], [0x2a4], [0x256], [0x257], [0x1d91], [0x258], [0x25e],
     [0x2a9], [0x264], [0x262], [0x260], [0x29b], [0x127], [0x29c], [0x267], [0x284], [0x2aa],
     [0x2ab], [0x26c], [0x1df04], [0xa78e], [0x26e], [0x1df05], [0x28e], [0x1df06], [0xf8],
     [0x276], [0x277], [0x71], [0x27a], [0x1df08], [0x27d], [0x27e], [0x280], [0x2a8], [0x2a6],
     [0xab67], [0x2a7], [0x288], [0x2c71]]),
   (0x107b2, [[0x28f], [0x2a1], [0x2a2], [0x298]]), (0x107b9, [[0x1df0a], [0x1df1e]]),
   (0x1d49c, [[0x61]]), (0x1d49e, [[0x63], [0x64]]), (0x1d4a2, [[0x67]]),
   (0x1d4a5, [[0x6a], [0x6b]]), (0x1d4bb, [[0x66]]), (0x1d504, [[0x61], [0x62]]),
   (0x1d538, [[0x61], [0x62]]), (0x1d546, [[0x6f]]), (0x1d6a4, [[0x131], [0x237]]),
   (0x1d6b9, [[0x3b8]]), (0x1d6c1, [[0x2207]]), (0x1d6d3, [[0x3c3]]),
   (0x1d6db, [[0x2202], [0x3b5], [0x3b8], [0x3ba], [0x3c6], [0x3c1], [0x3c0]]),
   (0x1d6f3, [[0x3b8]]), (0x1d6fb, [[0x2207]]), (0x1d70d, [[0x3c3]]),
   (0x1d715, [[0x2202], [0x3b5], [0x3b8], [0x3ba], [0x3c6], [0x3c1], [0x3c0]]),
   (0x1d72d, [[0x3b8]]), (0x1d735, [[0x2207]]), (0x1d747, [[0x3c3]]),
   (0x1d74f, [[0x2202], [0x3b5], [0x3b8], [0x3ba], [0x3c6], [0x3c1], [0x3c0]]),
   (0x1d767, [[0x3b8]]), (0x1d76f, [[0x2207]]), (0x1d781, [[0x3c3]]),
   (0x1d789, [[0x2202], [0x3b5], [0x3b8], [0x3ba], [0x3c6], [0x3c1], [0x3c0]]),
   (0x1d7a1, [[0x3b8]]), (0x1d7a9, [[0x2207]]), (0x1d7bb, [[0x3c3]]),
   (0x1d7c3, [[0x2202], [0x3b5], [0x3b8], [0x3ba], [0x3c6], [0x3c1], [0x3c0], [0x3dd], [0x3dd]]),
   (0x1e047, [[0x44b], [0x44d], [0x44e], [0xa689], [0x4d9], [0x456], [0x458], [0x4e9], [0x4af],
     [0x4cf]]),
   (0x1e05a, [[0x43a], [0x43b], [0x43e], [0x43f], [0x441]]),
   (0x1e065, [[0x44a], [0x44b], [0x491], [0x456], [0x455], [0x45f], [0x4ab], [0xa651], [0x4b1]]),
   (0x1ee00, [[0x627], [0x628], [0x62c], [0x62f]]),
   (0x1ee05, [[0x648], [0x632], [0x62d], [0x637], [0x64a]]),
   (0x1ee0e, [[0x633], [0x639], [0x641], [0x635], [0x642], [0x631], [0x634], [0x62a], [0x62b],
     [0x62e], [0x630], [0x636], [0x638], [0x63a], [0x66e], [0x6ba], [0x6a1], [0x66f]]),
   (0x1ee21, [[0x628], [0x62c]]), (0x1ee24, [[0x647]]), (0x1ee27, [[0x62d]]), (0x1ee29, [[0x64a]]),
   (0x1ee2e, [[0x633], [0x639], [0x641], [0x635], [0x642]]),
   (0x1ee34, [[0x634], [0x62a], [0x62b], [0x62e]]), (0x1ee39, [[0x636]]), (0x1ee3b, [[0x63a]]),
   (0x1ee42, [[0x62c]]), (0x1ee47, [[0x62d]]), (0x1ee49, [[0x64a]]), (0x1ee4b, [[0x644]]),
   (0x1ee4d, [[0x646], [0x633], [0x639]]), (0x1ee51, [[0x635], [0x642]]), (0x1ee54, [[0x634]]),
   (0x1ee57, [[0x62e]]), (0x1ee59, [[0x636]]), (0x1ee5b, [[0x63a]]), (0x1ee5d, [[0x6ba]]),
   (0x1ee5f, [[0x66f]]), (0x1ee61, [[0x628], [0x62c]]), (0x1ee64, [[0x647]]),
   (0x1ee67, [[0x62d], [0x637], [0x64a], [0x643]]),
   (0x1ee6c, [[0x645], [0x646], [0x633], [0x639], [0x641], [0x635], [0x642]]),
   (0x1ee74, [[0x634], [0x62a], [0x62b], [0x62e]]),
   (0x1ee79, [[0x636], [0x638], [0x63a], [0x66e]]), (0x1ee7e, [[0x6a1]]),
   (0x1ee80, [[0x627], [0x628], [0x62c], [0x62f], [0x647], [0x648], [0x632], [0x62d], [0x637],
     [0x64a]]),
   (0x1ee8e, [[0x633], [0x639], [0x641], [0x635], [0x642], [0x631], [0x634], [0x62a], [0x62b],
     [0x62e], [0x630], [0x636], [0x638], [0x63a]]),
   (0x1eea1, [[0x628], [0x62c], [0x62f]]),
   (0x1eea5, [[0x648], [0x632], [0x62d], [0x637], [0x64a]]),
   (0x1eeae, [[0x633], [0x639], [0x641], [0x635], [0x642], [0x631], [0x634], [0x62a], [0x62b],
     [0x62e], [0x630], [0x636], [0x638], [0x63a]]),
   (0x1f101, [[0x30, 0x2c], [0x31, 0x2c], [0x32, 0x2c], [0x33, 0x2c], [0x34, 0x2c], [0x35, 0x2c],
     [0x36, 0x2c], [0x37, 0x2c], [0x38, 0x2c], [0x39, 0x2c]]),
   (0x1f110, [[0x28, 0x61, 0x29], [0x28, 0x62, 0x29], [0x28, 0x63, 0x29], [0x28, 0x64, 0x29],
     [0x28, 0x65, 0x29], [0x28, 0x66, 0x29], [0x28, 0x67, 0x29], [0x28, 0x68, 0x29],
     [0x28, 0x69, 0x29], [0x28, 0x6a, 0x29], [0x28, 0x6b, 0x29], [0x28, 0x6c, 0x29],
     [0x28, 0x6d, 0x29], [0x28, 0x6e, 0x29], [0x28, 0x6f, 0x29], [0x28, 0x70, 0x29],
     [0x28, 0x71, 0x29], [0x28, 0x72, 0x29], [0x28, 0x73, 0x29], [0x28, 0x74, 0x29],
     [0x28, 0x75, 0x29], [0x28, 0x76, 0x29], [0x28, 0x77, 0x29], [0x28, 0x78, 0x29],
     [0x28, 0x79, 0x29], [0x28, 0x7a, 0x29], [0x3014, 0x73, 0x3015], [0x63], [0x72], [0x63, 0x64],
     [0x77, 0x7a]]),
   (0x1f14a, [[0x68, 0x76], [0x6d, 0x76], [0x73, 0x64], [0x73, 0x73], [0x70, 0x70, 0x76],
     [0x77, 0x63]]),
   (0x1f16a, [[0x6d, 0x63], [0x6d, 0x64], [0x6d, 0x72]]), (0x1f190, [[0x64, 0x6a]]),
   (0x1f200, [[0x307b, 0x304b], [0x30b3, 0x30b3], [0x30b5]]),
   (0x1f210, [[0x624b], [0x5b57], [0x53cc], [0x30c7], [0x4e8c], [0x591a], [0x89e3], [0x5929],
     [0x4ea4], [0x6620], [0x7121], [0x6599], [0x524d], [0x5f8c], [0x518d], [0x65b0], [0x521d],
     [0x7d42], [0x751f], [0x8ca9], [0x58f0], [0x5439], [0x6f14], [0x6295], [0x6355], [0x4e00],
     [0x4e09], [0x904a], [0x5de6], [0x4e2d], [0x53f3], [0x6307], [0x8d70], [0x6253], [0x7981],
     [0x7a7a], [0x5408], [0x6e80], [0x6709], [0x6708], [0x7533], [0x5272], [0x55b6], [0x914d]]),
   (0x1f240, [[0x3014, 0x672c, 0x3015], [0x3014, 0x4e09, 0x3015], [0x3014, 0x4e8c, 0x3015],
     [0x3014, 0x5b89, 0x3015], [0x3014, 0x70b9, 0x3015], [0x3014, 0x6253, 0x3015],
     [0x3014, 0x76d7, 0x3015], [0x3014, 0x52dd, 0x3015], [0x3014, 0x6557, 0x3015]]),
   (0x1f250, [[0x5f97], [0x53ef]])]

/-- The first of some consecutive characters, and the texts that replace them. -/
def spellings : List (Nat × List (List Nat)) :=
  letterSpellings ++ symbolSpellings ++ squareSpellings ++ formSpellings ++ rareSpellings

end LedgerTrust.Url.Domain
