import ListingRules.Character.Script.BasicPlane

namespace ListingRules.Character

def higherPlaneScripts : List Script :=
  [⟨"Adlam", "Adlm",
    [⟨0x1E900, 0x1E94B, 1⟩, ⟨0x1E950, 0x1E959, 1⟩, ⟨0x1E95E, 0x1E95F, 1⟩]⟩,
   ⟨"Ahom", "Ahom",
    [⟨0x11700, 0x1171A, 1⟩, ⟨0x1171D, 0x1172B, 1⟩, ⟨0x11730, 0x11746, 1⟩]⟩,
   ⟨"Anatolian Hieroglyphs", "Hluw",
    [⟨0x14400, 0x14646, 1⟩]⟩,
   ⟨"Avestan", "Avst",
    [⟨0x10B00, 0x10B35, 1⟩, ⟨0x10B39, 0x10B3F, 1⟩]⟩,
   ⟨"Bassa Vah", "Bass",
    [⟨0x16AD0, 0x16AED, 1⟩, ⟨0x16AF0, 0x16AF5, 1⟩]⟩,
   ⟨"Bhaiksuki", "Bhks",
    [⟨0x11C00, 0x11C08, 1⟩, ⟨0x11C0A, 0x11C36, 1⟩, ⟨0x11C38, 0x11C45, 1⟩, ⟨0x11C50, 0x11C6C, 1⟩]⟩,
   ⟨"Brahmi", "Brah",
    [⟨0x11000, 0x1104D, 1⟩, ⟨0x11052, 0x11075, 1⟩, ⟨0x1107F, 0x1107F, 1⟩]⟩,
   ⟨"Carian", "Cari",
    [⟨0x102A0, 0x102D0, 1⟩]⟩,
   ⟨"Caucasian Albanian", "Aghb",
    [⟨0x10530, 0x10563, 1⟩, ⟨0x1056F, 0x1056F, 1⟩]⟩,
   ⟨"Chakma", "Cakm",
    [⟨0x11100, 0x11134, 1⟩, ⟨0x11136, 0x11147, 1⟩]⟩,
   ⟨"Chorasmian", "Chrs",
    [⟨0x10FB0, 0x10FCB, 1⟩]⟩,
   ⟨"Cuneiform", "Xsux",
    [⟨0x12000, 0x12399, 1⟩, ⟨0x12400, 0x1246E, 1⟩, ⟨0x12470, 0x12474, 1⟩, ⟨0x12480, 0x12543, 1⟩]⟩,
   ⟨"Cypriot", "Cprt",
    [⟨0x10800, 0x10805, 1⟩, ⟨0x10808, 0x10808, 1⟩, ⟨0x1080A, 0x10835, 1⟩, ⟨0x10837, 0x10838, 1⟩,
     ⟨0x1083C, 0x1083C, 1⟩, ⟨0x1083F, 0x1083F, 1⟩]⟩,
   ⟨"Cypro Minoan", "Cpmn",
    [⟨0x12F90, 0x12FF2, 1⟩]⟩,
   ⟨"Deseret", "Dsrt",
    [⟨0x10400, 0x1044F, 1⟩]⟩,
   ⟨"Dives Akuru", "Diak",
    [⟨0x11900, 0x11906, 1⟩, ⟨0x11909, 0x11909, 1⟩, ⟨0x1190C, 0x11913, 1⟩, ⟨0x11915, 0x11916, 1⟩,
     ⟨0x11918, 0x11935, 1⟩, ⟨0x11937, 0x11938, 1⟩, ⟨0x1193B, 0x11946, 1⟩, ⟨0x11950, 0x11959, 1⟩]⟩,
   ⟨"Dogra", "Dogr",
    [⟨0x11800, 0x1183B, 1⟩]⟩,
   ⟨"Duployan", "Dupl",
    [⟨0x1BC00, 0x1BC6A, 1⟩, ⟨0x1BC70, 0x1BC7C, 1⟩, ⟨0x1BC80, 0x1BC88, 1⟩, ⟨0x1BC90, 0x1BC99, 1⟩,
     ⟨0x1BC9C, 0x1BC9F, 1⟩]⟩,
   ⟨"Egyptian Hieroglyphs", "Egyp",
    [⟨0x13000, 0x13455, 1⟩]⟩,
   ⟨"Elbasan", "Elba",
    [⟨0x10500, 0x10527, 1⟩]⟩,
   ⟨"Elymaic", "Elym",
    [⟨0x10FE0, 0x10FF6, 1⟩]⟩,
   ⟨"Gothic", "Goth",
    [⟨0x10330, 0x1034A, 1⟩]⟩,
   ⟨"Grantha", "Gran",
    [⟨0x11300, 0x11303, 1⟩, ⟨0x11305, 0x1130C, 1⟩, ⟨0x1130F, 0x11310, 1⟩, ⟨0x11313, 0x11328, 1⟩,
     ⟨0x1132A, 0x11330, 1⟩, ⟨0x11332, 0x11333, 1⟩, ⟨0x11335, 0x11339, 1⟩, ⟨0x1133C, 0x11344, 1⟩,
     ⟨0x11347, 0x11348, 1⟩, ⟨0x1134B, 0x1134D, 1⟩, ⟨0x11350, 0x11350, 1⟩, ⟨0x11357, 0x11357, 1⟩,
     ⟨0x1135D, 0x11363, 1⟩, ⟨0x11366, 0x1136C, 1⟩, ⟨0x11370, 0x11374, 1⟩]⟩,
   ⟨"Gunjala Gondi", "Gong",
    [⟨0x11D60, 0x11D65, 1⟩, ⟨0x11D67, 0x11D68, 1⟩, ⟨0x11D6A, 0x11D8E, 1⟩, ⟨0x11D90, 0x11D91, 1⟩,
     ⟨0x11D93, 0x11D98, 1⟩, ⟨0x11DA0, 0x11DA9, 1⟩]⟩,
   ⟨"Hanifi Rohingya", "Rohg",
    [⟨0x10D00, 0x10D27, 1⟩, ⟨0x10D30, 0x10D39, 1⟩]⟩,
   ⟨"Hatran", "Hatr",
    [⟨0x108E0, 0x108F2, 1⟩, ⟨0x108F4, 0x108F5, 1⟩, ⟨0x108FB, 0x108FF, 1⟩]⟩,
   ⟨"Imperial Aramaic", "Armi",
    [⟨0x10840, 0x10855, 1⟩, ⟨0x10857, 0x1085F, 1⟩]⟩,
   ⟨"Inscriptional Pahlavi", "Phli",
    [⟨0x10B60, 0x10B72, 1⟩, ⟨0x10B78, 0x10B7F, 1⟩]⟩,
   ⟨"Inscriptional Parthian", "Prti",
    [⟨0x10B40, 0x10B55, 1⟩, ⟨0x10B58, 0x10B5F, 1⟩]⟩,
   ⟨"Kaithi", "Kthi",
    [⟨0x11080, 0x110C2, 1⟩, ⟨0x110CD, 0x110CD, 1⟩]⟩,
   ⟨"Kawi", "Kawi",
    [⟨0x11F00, 0x11F10, 1⟩, ⟨0x11F12, 0x11F3A, 1⟩, ⟨0x11F3E, 0x11F59, 1⟩]⟩,
   ⟨"Kharoshthi", "Khar",
    [⟨0x10A00, 0x10A03, 1⟩, ⟨0x10A05, 0x10A06, 1⟩, ⟨0x10A0C, 0x10A13, 1⟩, ⟨0x10A15, 0x10A17, 1⟩,
     ⟨0x10A19, 0x10A35, 1⟩, ⟨0x10A38, 0x10A3A, 1⟩, ⟨0x10A3F, 0x10A48, 1⟩, ⟨0x10A50, 0x10A58, 1⟩]⟩,
   ⟨"Khitan Small Script", "Kits",
    [⟨0x16FE4, 0x16FE4, 1⟩, ⟨0x18B00, 0x18CD5, 1⟩]⟩,
   ⟨"Khojki", "Khoj",
    [⟨0x11200, 0x11211, 1⟩, ⟨0x11213, 0x11241, 1⟩]⟩,
   ⟨"Khudawadi", "Sind",
    [⟨0x112B0, 0x112EA, 1⟩, ⟨0x112F0, 0x112F9, 1⟩]⟩,
   ⟨"Linear A", "Lina",
    [⟨0x10600, 0x10736, 1⟩, ⟨0x10740, 0x10755, 1⟩, ⟨0x10760, 0x10767, 1⟩]⟩,
   ⟨"Linear B", "Linb",
    [⟨0x10000, 0x1000B, 1⟩, ⟨0x1000D, 0x10026, 1⟩, ⟨0x10028, 0x1003A, 1⟩, ⟨0x1003C, 0x1003D, 1⟩,
     ⟨0x1003F, 0x1004D, 1⟩, ⟨0x10050, 0x1005D, 1⟩, ⟨0x10080, 0x100FA, 1⟩]⟩,
   ⟨"Lycian", "Lyci",
    [⟨0x10280, 0x1029C, 1⟩]⟩,
   ⟨"Lydian", "Lydi",
    [⟨0x10920, 0x10939, 1⟩, ⟨0x1093F, 0x1093F, 1⟩]⟩,
   ⟨"Mahajani", "Mahj",
    [⟨0x11150, 0x11176, 1⟩]⟩,
   ⟨"Makasar", "Maka",
    [⟨0x11EE0, 0x11EF8, 1⟩]⟩,
   ⟨"Manichaean", "Mani",
    [⟨0x10AC0, 0x10AE6, 1⟩, ⟨0x10AEB, 0x10AF6, 1⟩]⟩,
   ⟨"Marchen", "Marc",
    [⟨0x11C70, 0x11C8F, 1⟩, ⟨0x11C92, 0x11CA7, 1⟩, ⟨0x11CA9, 0x11CB6, 1⟩]⟩,
   ⟨"Masaram Gondi", "Gonm",
    [⟨0x11D00, 0x11D06, 1⟩, ⟨0x11D08, 0x11D09, 1⟩, ⟨0x11D0B, 0x11D36, 1⟩, ⟨0x11D3A, 0x11D3A, 1⟩,
     ⟨0x11D3C, 0x11D3D, 1⟩, ⟨0x11D3F, 0x11D47, 1⟩, ⟨0x11D50, 0x11D59, 1⟩]⟩,
   ⟨"Medefaidrin", "Medf",
    [⟨0x16E40, 0x16E9A, 1⟩]⟩,
   ⟨"Mende Kikakui", "Mend",
    [⟨0x1E800, 0x1E8C4, 1⟩, ⟨0x1E8C7, 0x1E8D6, 1⟩]⟩,
   ⟨"Meroitic Cursive", "Merc",
    [⟨0x109A0, 0x109B7, 1⟩, ⟨0x109BC, 0x109CF, 1⟩, ⟨0x109D2, 0x109FF, 1⟩]⟩,
   ⟨"Meroitic Hieroglyphs", "Mero",
    [⟨0x10980, 0x1099F, 1⟩]⟩,
   ⟨"Miao", "Plrd",
    [⟨0x16F00, 0x16F4A, 1⟩, ⟨0x16F4F, 0x16F87, 1⟩, ⟨0x16F8F, 0x16F9F, 1⟩]⟩,
   ⟨"Modi", "Modi",
    [⟨0x11600, 0x11644, 1⟩, ⟨0x11650, 0x11659, 1⟩]⟩,
   ⟨"Mro", "Mroo",
    [⟨0x16A40, 0x16A5E, 1⟩, ⟨0x16A60, 0x16A69, 1⟩, ⟨0x16A6E, 0x16A6F, 1⟩]⟩,
   ⟨"Multani", "Mult",
    [⟨0x11280, 0x11286, 1⟩, ⟨0x11288, 0x11288, 1⟩, ⟨0x1128A, 0x1128D, 1⟩, ⟨0x1128F, 0x1129D, 1⟩,
     ⟨0x1129F, 0x112A9, 1⟩]⟩,
   ⟨"Nabataean", "Nbat",
    [⟨0x10880, 0x1089E, 1⟩, ⟨0x108A7, 0x108AF, 1⟩]⟩,
   ⟨"Nag Mundari", "Nagm",
    [⟨0x1E4D0, 0x1E4F9, 1⟩]⟩,
   ⟨"Nandinagari", "Nand",
    [⟨0x119A0, 0x119A7, 1⟩, ⟨0x119AA, 0x119D7, 1⟩, ⟨0x119DA, 0x119E4, 1⟩]⟩,
   ⟨"Newa", "Newa",
    [⟨0x11400, 0x1145B, 1⟩, ⟨0x1145D, 0x11461, 1⟩]⟩,
   ⟨"Nushu", "Nshu",
    [⟨0x16FE1, 0x16FE1, 1⟩, ⟨0x1B170, 0x1B2FB, 1⟩]⟩,
   ⟨"Nyiakeng Puachue Hmong", "Hmnp",
    [⟨0x1E100, 0x1E12C, 1⟩, ⟨0x1E130, 0x1E13D, 1⟩, ⟨0x1E140, 0x1E149, 1⟩, ⟨0x1E14E, 0x1E14F, 1⟩]⟩,
   ⟨"Old Hungarian", "Hung",
    [⟨0x10C80, 0x10CB2, 1⟩, ⟨0x10CC0, 0x10CF2, 1⟩, ⟨0x10CFA, 0x10CFF, 1⟩]⟩,
   ⟨"Old Italic", "Ital",
    [⟨0x10300, 0x10323, 1⟩, ⟨0x1032D, 0x1032F, 1⟩]⟩,
   ⟨"Old North Arabian", "Narb",
    [⟨0x10A80, 0x10A9F, 1⟩]⟩,
   ⟨"Old Permic", "Perm",
    [⟨0x10350, 0x1037A, 1⟩]⟩,
   ⟨"Old Persian", "Xpeo",
    [⟨0x103A0, 0x103C3, 1⟩, ⟨0x103C8, 0x103D5, 1⟩]⟩,
   ⟨"Old Sogdian", "Sogo",
    [⟨0x10F00, 0x10F27, 1⟩]⟩,
   ⟨"Old South Arabian", "Sarb",
    [⟨0x10A60, 0x10A7F, 1⟩]⟩,
   ⟨"Old Turkic", "Orkh",
    [⟨0x10C00, 0x10C48, 1⟩]⟩,
   ⟨"Old Uyghur", "Ougr",
    [⟨0x10F70, 0x10F89, 1⟩]⟩,
   ⟨"Osage", "Osge",
    [⟨0x104B0, 0x104D3, 1⟩, ⟨0x104D8, 0x104FB, 1⟩]⟩,
   ⟨"Osmanya", "Osma",
    [⟨0x10480, 0x1049D, 1⟩, ⟨0x104A0, 0x104A9, 1⟩]⟩,
   ⟨"Pahawh Hmong", "Hmng",
    [⟨0x16B00, 0x16B45, 1⟩, ⟨0x16B50, 0x16B59, 1⟩, ⟨0x16B5B, 0x16B61, 1⟩, ⟨0x16B63, 0x16B77, 1⟩,
     ⟨0x16B7D, 0x16B8F, 1⟩]⟩,
   ⟨"Palmyrene", "Palm",
    [⟨0x10860, 0x1087F, 1⟩]⟩,
   ⟨"Pau Cin Hau", "Pauc",
    [⟨0x11AC0, 0x11AF8, 1⟩]⟩,
   ⟨"Phoenician", "Phnx",
    [⟨0x10900, 0x1091B, 1⟩, ⟨0x1091F, 0x1091F, 1⟩]⟩,
   ⟨"Psalter Pahlavi", "Phlp",
    [⟨0x10B80, 0x10B91, 1⟩, ⟨0x10B99, 0x10B9C, 1⟩, ⟨0x10BA9, 0x10BAF, 1⟩]⟩,
   ⟨"Sharada", "Shrd",
    [⟨0x11180, 0x111DF, 1⟩]⟩,
   ⟨"Shavian", "Shaw",
    [⟨0x10450, 0x1047F, 1⟩]⟩,
   ⟨"Siddham", "Sidd",
    [⟨0x11580, 0x115B5, 1⟩, ⟨0x115B8, 0x115DD, 1⟩]⟩,
   ⟨"SignWriting", "Sgnw",
    [⟨0x1D800, 0x1DA8B, 1⟩, ⟨0x1DA9B, 0x1DA9F, 1⟩, ⟨0x1DAA1, 0x1DAAF, 1⟩]⟩,
   ⟨"Sogdian", "Sogd",
    [⟨0x10F30, 0x10F59, 1⟩]⟩,
   ⟨"Sora Sompeng", "Sora",
    [⟨0x110D0, 0x110E8, 1⟩, ⟨0x110F0, 0x110F9, 1⟩]⟩,
   ⟨"Soyombo", "Soyo",
    [⟨0x11A50, 0x11AA2, 1⟩]⟩,
   ⟨"Takri", "Takr",
    [⟨0x11680, 0x116B9, 1⟩, ⟨0x116C0, 0x116C9, 1⟩]⟩,
   ⟨"Tangsa", "Tnsa",
    [⟨0x16A70, 0x16ABE, 1⟩, ⟨0x16AC0, 0x16AC9, 1⟩]⟩,
   ⟨"Tangut", "Tang",
    [⟨0x16FE0, 0x16FE0, 1⟩, ⟨0x17000, 0x187F7, 1⟩, ⟨0x18800, 0x18AFF, 1⟩, ⟨0x18D00, 0x18D08, 1⟩]⟩,
   ⟨"Tirhuta", "Tirh",
    [⟨0x11480, 0x114C7, 1⟩, ⟨0x114D0, 0x114D9, 1⟩]⟩,
   ⟨"Toto", "Toto",
    [⟨0x1E290, 0x1E2AE, 1⟩]⟩,
   ⟨"Ugaritic", "Ugar",
    [⟨0x10380, 0x1039D, 1⟩, ⟨0x1039F, 0x1039F, 1⟩]⟩,
   ⟨"Vithkuqi", "Vith",
    [⟨0x10570, 0x1057A, 1⟩, ⟨0x1057C, 0x1058A, 1⟩, ⟨0x1058C, 0x10592, 1⟩, ⟨0x10594, 0x10595, 1⟩,
     ⟨0x10597, 0x105A1, 1⟩, ⟨0x105A3, 0x105B1, 1⟩, ⟨0x105B3, 0x105B9, 1⟩, ⟨0x105BB, 0x105BC, 1⟩]⟩,
   ⟨"Wancho", "Wcho",
    [⟨0x1E2C0, 0x1E2F9, 1⟩, ⟨0x1E2FF, 0x1E2FF, 1⟩]⟩,
   ⟨"Warang Citi", "Wara",
    [⟨0x118A0, 0x118F2, 1⟩, ⟨0x118FF, 0x118FF, 1⟩]⟩,
   ⟨"Yezidi", "Yezi",
    [⟨0x10E80, 0x10EA9, 1⟩, ⟨0x10EAB, 0x10EAD, 1⟩, ⟨0x10EB0, 0x10EB1, 1⟩]⟩,
   ⟨"Zanabazar Square", "Zanb",
    [⟨0x11A00, 0x11A47, 1⟩]⟩]

end ListingRules.Character
