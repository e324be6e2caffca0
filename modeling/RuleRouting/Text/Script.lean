import RuleRouting.Text.CodeRanges

/-!
# Scripts

The scripts of the Unicode standard (version 15.0.0): every code point belongs to at most one
script, and its script extensions list every script it is used with. The tables list maximal
runs of code points with one script, or with one list of extensions, sorted; code points of
no script are left out.
-/

namespace RuleRouting.Text

/-- The names of each script, by index, loosely written. -/
def scriptNames : Array (List String) := #[
  ["adlam", "adlm"],
  ["ahom"],
  ["anatolianhieroglyphs", "hluw"],
  ["arabic", "arab"],
  ["armenian", "armn"],
  ["avestan", "avst"],
  ["balinese", "bali"],
  ["bamum", "bamu"],
  ["bassavah", "bass"],
  ["batak", "batk"],
  ["bengali", "beng"],
  ["bhaiksuki", "bhks"],
  ["bopomofo", "bopo"],
  ["brahmi", "brah"],
  ["braille", "brai"],
  ["buginese", "bugi"],
  ["buhid", "buhd"],
  ["canadianaboriginal", "cans"],
  ["carian", "cari"],
  ["caucasianalbanian", "aghb"],
  ["chakma", "cakm"],
  ["cham"],
  ["cherokee", "cher"],
  ["chorasmian", "chrs"],
  ["common", "zyyy"],
  ["coptic", "copt", "qaac"],
  ["cuneiform", "xsux"],
  ["cypriot", "cprt"],
  ["cyprominoan", "cpmn"],
  ["cyrillic", "cyrl"],
  ["deseret", "dsrt"],
  ["devanagari", "deva"],
  ["divesakuru", "diak"],
  ["dogra", "dogr"],
  ["duployan", "dupl"],
  ["egyptianhieroglyphs", "egyp"],
  ["elbasan", "elba"],
  ["elymaic", "elym"],
  ["ethiopic", "ethi"],
  ["georgian", "geor"],
  ["glagolitic", "glag"],
  ["gothic", "goth"],
  ["grantha", "gran"],
  ["greek", "grek"],
  ["gujarati", "gujr"],
  ["gunjalagondi", "gong"],
  ["gurmukhi", "guru"],
  ["han", "hani"],
  ["hangul", "hang"],
  ["hanifirohingya", "rohg"],
  ["hanunoo", "hano"],
  ["hatran", "hatr"],
  ["hebrew", "hebr"],
  ["hiragana", "hira"],
  ["imperialaramaic", "armi"],
  ["inherited", "zinh", "qaai"],
  ["inscriptionalpahlavi", "phli"],
  ["inscriptionalparthian", "prti"],
  ["javanese", "java"],
  ["kaithi", "kthi"],
  ["kannada", "knda"],
  ["katakana", "kana"],
  ["kawi"],
  ["kayahli", "kali"],
  ["kharoshthi", "khar"],
  ["khitansmallscript", "kits"],
  ["khmer", "khmr"],
  ["khojki", "khoj"],
  ["khudawadi", "sind"],
  ["lao", "laoo"],
  ["latin", "latn"],
  ["lepcha", "lepc"],
  ["limbu", "limb"],
  ["lineara", "lina"],
  ["linearb", "linb"],
  ["lisu"],
  ["lycian", "lyci"],
  ["lydian", "lydi"],
  ["mahajani", "mahj"],
  ["makasar", "maka"],
  ["malayalam", "mlym"],
  ["mandaic", "mand"],
  ["manichaean", "mani"],
  ["marchen", "marc"],
  ["masaramgondi", "gonm"],
  ["medefaidrin", "medf"],
  ["meeteimayek", "mtei"],
  ["mendekikakui", "mend"],
  ["meroiticcursive", "merc"],
  ["meroitichieroglyphs", "mero"],
  ["miao", "plrd"],
  ["modi"],
  ["mongolian", "mong"],
  ["mro", "mroo"],
  ["multani", "mult"],
  ["myanmar", "mymr"],
  ["nabataean", "nbat"],
  ["nagmundari", "nagm"],
  ["nandinagari", "nand"],
  ["newtailue", "talu"],
  ["newa"],
  ["nko", "nkoo"],
  ["nushu", "nshu"],
  ["nyiakengpuachuehmong", "hmnp"],
  ["ogham", "ogam"],
  ["olchiki", "olck"],
  ["oldhungarian", "hung"],
  ["olditalic", "ital"],
  ["oldnortharabian", "narb"],
  ["oldpermic", "perm"],
  ["oldpersian", "xpeo"],
  ["oldsogdian", "sogo"],
  ["oldsoutharabian", "sarb"],
  ["oldturkic", "orkh"],
  ["olduyghur", "ougr"],
  ["oriya", "orya"],
  ["osage", "osge"],
  ["osmanya", "osma"],
  ["pahawhhmong", "hmng"],
  ["palmyrene", "palm"],
  ["paucinhau", "pauc"],
  ["phagspa", "phag"],
  ["phoenician", "phnx"],
  ["psalterpahlavi", "phlp"],
  ["rejang", "rjng"],
  ["runic", "runr"],
  ["samaritan", "samr"],
  ["saurashtra", "saur"],
  ["sharada", "shrd"],
  ["shavian", "shaw"],
  ["siddham", "sidd"],
  ["signwriting", "sgnw"],
  ["sinhala", "sinh"],
  ["sogdian", "sogd"],
  ["sorasompeng", "sora"],
  ["soyombo", "soyo"],
  ["sundanese", "sund"],
  ["sylotinagri", "sylo"],
  ["syriac", "syrc"],
  ["tagalog", "tglg"],
  ["tagbanwa", "tagb"],
  ["taile", "tale"],
  ["taitham", "lana"],
  ["taiviet", "tavt"],
  ["takri", "takr"],
  ["tamil", "taml"],
  ["tangsa", "tnsa"],
  ["tangut", "tang"],
  ["telugu", "telu"],
  ["thaana", "thaa"],
  ["thai"],
  ["tibetan", "tibt"],
  ["tifinagh", "tfng"],
  ["tirhuta", "tirh"],
  ["toto"],
  ["ugaritic", "ugar"],
  ["vai", "vaii"],
  ["vithkuqi", "vith"],
  ["wancho", "wcho"],
  ["warangciti", "wara"],
  ["yezidi", "yezi"],
  ["yi", "yiii"],
  ["zanabazarsquare", "zanb"]]

/-- Names of scripts with no code points of their own (`Unknown` marks code points of no
script). -/
def unlistedScriptNames : List String :=
  ["zzzz", "unknown", "hrkt", "katakanaorhiragana"]

/-- Entries 0 onwards of `scriptRuns`. -/
def scriptRunsPart0 : Array (Nat × Nat × Nat) := #[
  (0x0, 0x40, 24), (0x41, 0x5A, 70), (0x5B, 0x60, 24), (0x61, 0x7A, 70), (0x7B, 0xA9, 24), (0xAA, 0xAA, 70),
  (0xAB, 0xB9, 24), (0xBA, 0xBA, 70), (0xBB, 0xBF, 24), (0xC0, 0xD6, 70), (0xD7, 0xD7, 24), (0xD8, 0xF6, 70),
  (0xF7, 0xF7, 24), (0xF8, 0x2B8, 70), (0x2B9, 0x2DF, 24), (0x2E0, 0x2E4, 70), (0x2E5, 0x2E9, 24), (0x2EA, 0x2EB, 12),
  (0x2EC, 0x2FF, 24), (0x300, 0x36F, 55), (0x370, 0x373, 43), (0x374, 0x374, 24), (0x375, 0x377, 43), (0x37A, 0x37D, 43),
  (0x37E, 0x37E, 24), (0x37F, 0x37F, 43), (0x384, 0x384, 43), (0x385, 0x385, 24), (0x386, 0x386, 43), (0x387, 0x387, 24),
  (0x388, 0x38A, 43), (0x38C, 0x38C, 43), (0x38E, 0x3A1, 43), (0x3A3, 0x3E1, 43), (0x3E2, 0x3EF, 25), (0x3F0, 0x3FF, 43),
  (0x400, 0x484, 29), (0x485, 0x486, 55), (0x487, 0x52F, 29), (0x531, 0x556, 4), (0x559, 0x58A, 4), (0x58D, 0x58F, 4),
  (0x591, 0x5C7, 52), (0x5D0, 0x5EA, 52), (0x5EF, 0x5F4, 52), (0x600, 0x604, 3), (0x605, 0x605, 24), (0x606, 0x60B, 3),
  (0x60C, 0x60C, 24), (0x60D, 0x61A, 3), (0x61B, 0x61B, 24), (0x61C, 0x61E, 3), (0x61F, 0x61F, 24), (0x620, 0x63F, 3),
  (0x640, 0x640, 24), (0x641, 0x64A, 3), (0x64B, 0x655, 55), (0x656, 0x66F, 3), (0x670, 0x670, 55), (0x671, 0x6DC, 3),
  (0x6DD, 0x6DD, 24), (0x6DE, 0x6FF, 3), (0x700, 0x70D, 138), (0x70F, 0x74A, 138), (0x74D, 0x74F, 138), (0x750, 0x77F, 3),
  (0x780, 0x7B1, 149), (0x7C0, 0x7FA, 101), (0x7FD, 0x7FF, 101), (0x800, 0x82D, 126), (0x830, 0x83E, 126), (0x840, 0x85B, 81),
  (0x85E, 0x85E, 81), (0x860, 0x86A, 138), (0x870, 0x88E, 3), (0x890, 0x891, 3), (0x898, 0x8E1, 3), (0x8E2, 0x8E2, 24),
  (0x8E3, 0x8FF, 3), (0x900, 0x950, 31), (0x951, 0x954, 55), (0x955, 0x963, 31), (0x964, 0x965, 24), (0x966, 0x97F, 31),
  (0x980, 0x983, 10), (0x985, 0x98C, 10), (0x98F, 0x990, 10), (0x993, 0x9A8, 10), (0x9AA, 0x9B0, 10), (0x9B2, 0x9B2, 10),
  (0x9B6, 0x9B9, 10), (0x9BC, 0x9C4, 10), (0x9C7, 0x9C8, 10), (0x9CB, 0x9CE, 10), (0x9D7, 0x9D7, 10), (0x9DC, 0x9DD, 10),
  (0x9DF, 0x9E3, 10), (0x9E6, 0x9FE, 10), (0xA01, 0xA03, 46), (0xA05, 0xA0A, 46), (0xA0F, 0xA10, 46), (0xA13, 0xA28, 46),
  (0xA2A, 0xA30, 46), (0xA32, 0xA33, 46), (0xA35, 0xA36, 46), (0xA38, 0xA39, 46), (0xA3C, 0xA3C, 46), (0xA3E, 0xA42, 46),
  (0xA47, 0xA48, 46), (0xA4B, 0xA4D, 46), (0xA51, 0xA51, 46), (0xA59, 0xA5C, 46), (0xA5E, 0xA5E, 46), (0xA66, 0xA76, 46),
  (0xA81, 0xA83, 44), (0xA85, 0xA8D, 44), (0xA8F, 0xA91, 44), (0xA93, 0xAA8, 44), (0xAAA, 0xAB0, 44), (0xAB2, 0xAB3, 44),
  (0xAB5, 0xAB9, 44), (0xABC, 0xAC5, 44), (0xAC7, 0xAC9, 44), (0xACB, 0xACD, 44), (0xAD0, 0xAD0, 44), (0xAE0, 0xAE3, 44),
  (0xAE6, 0xAF1, 44), (0xAF9, 0xAFF, 44), (0xB01, 0xB03, 115), (0xB05, 0xB0C, 115), (0xB0F, 0xB10, 115), (0xB13, 0xB28, 115),
  (0xB2A, 0xB30, 115), (0xB32, 0xB33, 115), (0xB35, 0xB39, 115), (0xB3C, 0xB44, 115), (0xB47, 0xB48, 115), (0xB4B, 0xB4D, 115),
  (0xB55, 0xB57, 115), (0xB5C, 0xB5D, 115), (0xB5F, 0xB63, 115), (0xB66, 0xB77, 115), (0xB82, 0xB83, 145), (0xB85, 0xB8A, 145),
  (0xB8E, 0xB90, 145), (0xB92, 0xB95, 145), (0xB99, 0xB9A, 145), (0xB9C, 0xB9C, 145), (0xB9E, 0xB9F, 145), (0xBA3, 0xBA4, 145),
  (0xBA8, 0xBAA, 145), (0xBAE, 0xBB9, 145), (0xBBE, 0xBC2, 145), (0xBC6, 0xBC8, 145), (0xBCA, 0xBCD, 145), (0xBD0, 0xBD0, 145),
  (0xBD7, 0xBD7, 145), (0xBE6, 0xBFA, 145), (0xC00, 0xC0C, 148), (0xC0E, 0xC10, 148), (0xC12, 0xC28, 148), (0xC2A, 0xC39, 148),
  (0xC3C, 0xC44, 148), (0xC46, 0xC48, 148), (0xC4A, 0xC4D, 148), (0xC55, 0xC56, 148), (0xC58, 0xC5A, 148), (0xC5D, 0xC5D, 148),
  (0xC60, 0xC63, 148), (0xC66, 0xC6F, 148), (0xC77, 0xC7F, 148), (0xC80, 0xC8C, 60), (0xC8E, 0xC90, 60), (0xC92, 0xCA8, 60),
  (0xCAA, 0xCB3, 60), (0xCB5, 0xCB9, 60), (0xCBC, 0xCC4, 60), (0xCC6, 0xCC8, 60), (0xCCA, 0xCCD, 60), (0xCD5, 0xCD6, 60),
  (0xCDD, 0xCDE, 60), (0xCE0, 0xCE3, 60), (0xCE6, 0xCEF, 60), (0xCF1, 0xCF3, 60), (0xD00, 0xD0C, 80), (0xD0E, 0xD10, 80),
  (0xD12, 0xD44, 80), (0xD46, 0xD48, 80), (0xD4A, 0xD4F, 80), (0xD54, 0xD63, 80), (0xD66, 0xD7F, 80), (0xD81, 0xD83, 132),
  (0xD85, 0xD96, 132), (0xD9A, 0xDB1, 132), (0xDB3, 0xDBB, 132), (0xDBD, 0xDBD, 132), (0xDC0, 0xDC6, 132), (0xDCA, 0xDCA, 132),
  (0xDCF, 0xDD4, 132), (0xDD6, 0xDD6, 132), (0xDD8, 0xDDF, 132), (0xDE6, 0xDEF, 132), (0xDF2, 0xDF4, 132), (0xE01, 0xE3A, 150),
  (0xE3F, 0xE3F, 24), (0xE40, 0xE5B, 150), (0xE81, 0xE82, 69), (0xE84, 0xE84, 69), (0xE86, 0xE8A, 69), (0xE8C, 0xEA3, 69),
  (0xEA5, 0xEA5, 69), (0xEA7, 0xEBD, 69), (0xEC0, 0xEC4, 69), (0xEC6, 0xEC6, 69), (0xEC8, 0xECE, 69), (0xED0, 0xED9, 69),
  (0xEDC, 0xEDF, 69), (0xF00, 0xF47, 151), (0xF49, 0xF6C, 151), (0xF71, 0xF97, 151), (0xF99, 0xFBC, 151), (0xFBE, 0xFCC, 151),
  (0xFCE, 0xFD4, 151), (0xFD5, 0xFD8, 24), (0xFD9, 0xFDA, 151), (0x1000, 0x109F, 95), (0x10A0, 0x10C5, 39), (0x10C7, 0x10C7, 39),
  (0x10CD, 0x10CD, 39), (0x10D0, 0x10FA, 39), (0x10FB, 0x10FB, 24), (0x10FC, 0x10FF, 39), (0x1100, 0x11FF, 48), (0x1200, 0x1248, 38),
  (0x124A, 0x124D, 38), (0x1250, 0x1256, 38), (0x1258, 0x1258, 38), (0x125A, 0x125D, 38), (0x1260, 0x1288, 38), (0x128A, 0x128D, 38),
  (0x1290, 0x12B0, 38), (0x12B2, 0x12B5, 38), (0x12B8, 0x12BE, 38), (0x12C0, 0x12C0, 38), (0x12C2, 0x12C5, 38), (0x12C8, 0x12D6, 38),
  (0x12D8, 0x1310, 38), (0x1312, 0x1315, 38), (0x1318, 0x135A, 38), (0x135D, 0x137C, 38), (0x1380, 0x1399, 38), (0x13A0, 0x13F5, 22),
  (0x13F8, 0x13FD, 22), (0x1400, 0x167F, 17), (0x1680, 0x169C, 104), (0x16A0, 0x16EA, 125), (0x16EB, 0x16ED, 24), (0x16EE, 0x16F8, 125),
  (0x1700, 0x1715, 139), (0x171F, 0x171F, 139), (0x1720, 0x1734, 50), (0x1735, 0x1736, 24), (0x1740, 0x1753, 16), (0x1760, 0x176C, 140),
  (0x176E, 0x1770, 140), (0x1772, 0x1773, 140), (0x1780, 0x17DD, 66), (0x17E0, 0x17E9, 66), (0x17F0, 0x17F9, 66), (0x1800, 0x1801, 92),
  (0x1802, 0x1803, 24), (0x1804, 0x1804, 92), (0x1805, 0x1805, 24), (0x1806, 0x1819, 92), (0x1820, 0x1878, 92), (0x1880, 0x18AA, 92),
  (0x18B0, 0x18F5, 17), (0x1900, 0x191E, 72), (0x1920, 0x192B, 72), (0x1930, 0x193B, 72), (0x1940, 0x1940, 72), (0x1944, 0x194F, 72),
  (0x1950, 0x196D, 141), (0x1970, 0x1974, 141), (0x1980, 0x19AB, 99), (0x19B0, 0x19C9, 99), (0x19D0, 0x19DA, 99), (0x19DE, 0x19DF, 99),
  (0x19E0, 0x19FF, 66), (0x1A00, 0x1A1B, 15), (0x1A1E, 0x1A1F, 15), (0x1A20, 0x1A5E, 142), (0x1A60, 0x1A7C, 142), (0x1A7F, 0x1A89, 142),
  (0x1A90, 0x1A99, 142), (0x1AA0, 0x1AAD, 142), (0x1AB0, 0x1ACE, 55), (0x1B00, 0x1B4C, 6), (0x1B50, 0x1B7E, 6), (0x1B80, 0x1BBF, 136),
  (0x1BC0, 0x1BF3, 9), (0x1BFC, 0x1BFF, 9), (0x1C00, 0x1C37, 71), (0x1C3B, 0x1C49, 71), (0x1C4D, 0x1C4F, 71), (0x1C50, 0x1C7F, 105),
  (0x1C80, 0x1C88, 29), (0x1C90, 0x1CBA, 39), (0x1CBD, 0x1CBF, 39), (0x1CC0, 0x1CC7, 136), (0x1CD0, 0x1CD2, 55), (0x1CD3, 0x1CD3, 24),
  (0x1CD4, 0x1CE0, 55), (0x1CE1, 0x1CE1, 24), (0x1CE2, 0x1CE8, 55), (0x1CE9, 0x1CEC, 24), (0x1CED, 0x1CED, 55), (0x1CEE, 0x1CF3, 24),
  (0x1CF4, 0x1CF4, 55), (0x1CF5, 0x1CF7, 24), (0x1CF8, 0x1CF9, 55), (0x1CFA, 0x1CFA, 24), (0x1D00, 0x1D25, 70), (0x1D26, 0x1D2A, 43),
  (0x1D2B, 0x1D2B, 29), (0x1D2C, 0x1D5C, 70), (0x1D5D, 0x1D61, 43), (0x1D62, 0x1D65, 70), (0x1D66, 0x1D6A, 43), (0x1D6B, 0x1D77, 70),
  (0x1D78, 0x1D78, 29), (0x1D79, 0x1DBE, 70), (0x1DBF, 0x1DBF, 43), (0x1DC0, 0x1DFF, 55), (0x1E00, 0x1EFF, 70), (0x1F00, 0x1F15, 43),
  (0x1F18, 0x1F1D, 43), (0x1F20, 0x1F45, 43), (0x1F48, 0x1F4D, 43), (0x1F50, 0x1F57, 43), (0x1F59, 0x1F59, 43), (0x1F5B, 0x1F5B, 43),
  (0x1F5D, 0x1F5D, 43), (0x1F5F, 0x1F7D, 43), (0x1F80, 0x1FB4, 43), (0x1FB6, 0x1FC4, 43), (0x1FC6, 0x1FD3, 43), (0x1FD6, 0x1FDB, 43),
  (0x1FDD, 0x1FEF, 43), (0x1FF2, 0x1FF4, 43), (0x1FF6, 0x1FFE, 43), (0x2000, 0x200B, 24), (0x200C, 0x200D, 55), (0x200E, 0x2064, 24),
  (0x2066, 0x2070, 24), (0x2071, 0x2071, 70), (0x2074, 0x207E, 24), (0x207F, 0x207F, 70), (0x2080, 0x208E, 24), (0x2090, 0x209C, 70),
  (0x20A0, 0x20C0, 24), (0x20D0, 0x20F0, 55), (0x2100, 0x2125, 24), (0x2126, 0x2126, 43), (0x2127, 0x2129, 24), (0x212A, 0x212B, 70),
  (0x212C, 0x2131, 24), (0x2132, 0x2132, 70), (0x2133, 0x214D, 24), (0x214E, 0x214E, 70), (0x214F, 0x215F, 24), (0x2160, 0x2188, 70),
  (0x2189, 0x218B, 24), (0x2190, 0x2426, 24), (0x2440, 0x244A, 24), (0x2460, 0x27FF, 24), (0x2800, 0x28FF, 14), (0x2900, 0x2B73, 24),
  (0x2B76, 0x2B95, 24), (0x2B97, 0x2BFF, 24), (0x2C00, 0x2C5F, 40), (0x2C60, 0x2C7F, 70), (0x2C80, 0x2CF3, 25), (0x2CF9, 0x2CFF, 25),
  (0x2D00, 0x2D25, 39), (0x2D27, 0x2D27, 39), (0x2D2D, 0x2D2D, 39), (0x2D30, 0x2D67, 152), (0x2D6F, 0x2D70, 152), (0x2D7F, 0x2D7F, 152),
  (0x2D80, 0x2D96, 38), (0x2DA0, 0x2DA6, 38), (0x2DA8, 0x2DAE, 38), (0x2DB0, 0x2DB6, 38), (0x2DB8, 0x2DBE, 38), (0x2DC0, 0x2DC6, 38),
  (0x2DC8, 0x2DCE, 38), (0x2DD0, 0x2DD6, 38), (0x2DD8, 0x2DDE, 38), (0x2DE0, 0x2DFF, 29)]

/-- Entries 400 onwards of `scriptRuns`. -/
def scriptRunsPart1 : Array (Nat × Nat × Nat) := #[
  (0x2E00, 0x2E5D, 24), (0x2E80, 0x2E99, 47), (0x2E9B, 0x2EF3, 47), (0x2F00, 0x2FD5, 47), (0x2FF0, 0x2FFB, 24), (0x3000, 0x3004, 24),
  (0x3005, 0x3005, 47), (0x3006, 0x3006, 24), (0x3007, 0x3007, 47), (0x3008, 0x3020, 24), (0x3021, 0x3029, 47), (0x302A, 0x302D, 55),
  (0x302E, 0x302F, 48), (0x3030, 0x3037, 24), (0x3038, 0x303B, 47), (0x303C, 0x303F, 24), (0x3041, 0x3096, 53), (0x3099, 0x309A, 55),
  (0x309B, 0x309C, 24), (0x309D, 0x309F, 53), (0x30A0, 0x30A0, 24), (0x30A1, 0x30FA, 61), (0x30FB, 0x30FC, 24), (0x30FD, 0x30FF, 61),
  (0x3105, 0x312F, 12), (0x3131, 0x318E, 48), (0x3190, 0x319F, 24), (0x31A0, 0x31BF, 12), (0x31C0, 0x31E3, 24), (0x31F0, 0x31FF, 61),
  (0x3200, 0x321E, 48), (0x3220, 0x325F, 24), (0x3260, 0x327E, 48), (0x327F, 0x32CF, 24), (0x32D0, 0x32FE, 61), (0x32FF, 0x32FF, 24),
  (0x3300, 0x3357, 61), (0x3358, 0x33FF, 24), (0x3400, 0x4DBF, 47), (0x4DC0, 0x4DFF, 24), (0x4E00, 0x9FFF, 47), (0xA000, 0xA48C, 161),
  (0xA490, 0xA4C6, 161), (0xA4D0, 0xA4FF, 75), (0xA500, 0xA62B, 156), (0xA640, 0xA69F, 29), (0xA6A0, 0xA6F7, 7), (0xA700, 0xA721, 24),
  (0xA722, 0xA787, 70), (0xA788, 0xA78A, 24), (0xA78B, 0xA7CA, 70), (0xA7D0, 0xA7D1, 70), (0xA7D3, 0xA7D3, 70), (0xA7D5, 0xA7D9, 70),
  (0xA7F2, 0xA7FF, 70), (0xA800, 0xA82C, 137), (0xA830, 0xA839, 24), (0xA840, 0xA877, 121), (0xA880, 0xA8C5, 127), (0xA8CE, 0xA8D9, 127),
  (0xA8E0, 0xA8FF, 31), (0xA900, 0xA92D, 63), (0xA92E, 0xA92E, 24), (0xA92F, 0xA92F, 63), (0xA930, 0xA953, 124), (0xA95F, 0xA95F, 124),
  (0xA960, 0xA97C, 48), (0xA980, 0xA9CD, 58), (0xA9CF, 0xA9CF, 24), (0xA9D0, 0xA9D9, 58), (0xA9DE, 0xA9DF, 58), (0xA9E0, 0xA9FE, 95),
  (0xAA00, 0xAA36, 21), (0xAA40, 0xAA4D, 21), (0xAA50, 0xAA59, 21), (0xAA5C, 0xAA5F, 21), (0xAA60, 0xAA7F, 95), (0xAA80, 0xAAC2, 143),
  (0xAADB, 0xAADF, 143), (0xAAE0, 0xAAF6, 86), (0xAB01, 0xAB06, 38), (0xAB09, 0xAB0E, 38), (0xAB11, 0xAB16, 38), (0xAB20, 0xAB26, 38),
  (0xAB28, 0xAB2E, 38), (0xAB30, 0xAB5A, 70), (0xAB5B, 0xAB5B, 24), (0xAB5C, 0xAB64, 70), (0xAB65, 0xAB65, 43), (0xAB66, 0xAB69, 70),
  (0xAB6A, 0xAB6B, 24), (0xAB70, 0xABBF, 22), (0xABC0, 0xABED, 86), (0xABF0, 0xABF9, 86), (0xAC00, 0xD7A3, 48), (0xD7B0, 0xD7C6, 48),
  (0xD7CB, 0xD7FB, 48), (0xF900, 0xFA6D, 47), (0xFA70, 0xFAD9, 47), (0xFB00, 0xFB06, 70), (0xFB13, 0xFB17, 4), (0xFB1D, 0xFB36, 52),
  (0xFB38, 0xFB3C, 52), (0xFB3E, 0xFB3E, 52), (0xFB40, 0xFB41, 52), (0xFB43, 0xFB44, 52), (0xFB46, 0xFB4F, 52), (0xFB50, 0xFBC2, 3),
  (0xFBD3, 0xFD3D, 3), (0xFD3E, 0xFD3F, 24), (0xFD40, 0xFD8F, 3), (0xFD92, 0xFDC7, 3), (0xFDCF, 0xFDCF, 3), (0xFDF0, 0xFDFF, 3),
  (0xFE00, 0xFE0F, 55), (0xFE10, 0xFE19, 24), (0xFE20, 0xFE2D, 55), (0xFE2E, 0xFE2F, 29), (0xFE30, 0xFE52, 24), (0xFE54, 0xFE66, 24),
  (0xFE68, 0xFE6B, 24), (0xFE70, 0xFE74, 3), (0xFE76, 0xFEFC, 3), (0xFEFF, 0xFEFF, 24), (0xFF01, 0xFF20, 24), (0xFF21, 0xFF3A, 70),
  (0xFF3B, 0xFF40, 24), (0xFF41, 0xFF5A, 70), (0xFF5B, 0xFF65, 24), (0xFF66, 0xFF6F, 61), (0xFF70, 0xFF70, 24), (0xFF71, 0xFF9D, 61),
  (0xFF9E, 0xFF9F, 24), (0xFFA0, 0xFFBE, 48), (0xFFC2, 0xFFC7, 48), (0xFFCA, 0xFFCF, 48), (0xFFD2, 0xFFD7, 48), (0xFFDA, 0xFFDC, 48),
  (0xFFE0, 0xFFE6, 24), (0xFFE8, 0xFFEE, 24), (0xFFF9, 0xFFFD, 24), (0x10000, 0x1000B, 74), (0x1000D, 0x10026, 74), (0x10028, 0x1003A, 74),
  (0x1003C, 0x1003D, 74), (0x1003F, 0x1004D, 74), (0x10050, 0x1005D, 74), (0x10080, 0x100FA, 74), (0x10100, 0x10102, 24), (0x10107, 0x10133, 24),
  (0x10137, 0x1013F, 24), (0x10140, 0x1018E, 43), (0x10190, 0x1019C, 24), (0x101A0, 0x101A0, 43), (0x101D0, 0x101FC, 24), (0x101FD, 0x101FD, 55),
  (0x10280, 0x1029C, 76), (0x102A0, 0x102D0, 18), (0x102E0, 0x102E0, 55), (0x102E1, 0x102FB, 24), (0x10300, 0x10323, 107), (0x1032D, 0x1032F, 107),
  (0x10330, 0x1034A, 41), (0x10350, 0x1037A, 109), (0x10380, 0x1039D, 155), (0x1039F, 0x1039F, 155), (0x103A0, 0x103C3, 110), (0x103C8, 0x103D5, 110),
  (0x10400, 0x1044F, 30), (0x10450, 0x1047F, 129), (0x10480, 0x1049D, 117), (0x104A0, 0x104A9, 117), (0x104B0, 0x104D3, 116), (0x104D8, 0x104FB, 116),
  (0x10500, 0x10527, 36), (0x10530, 0x10563, 19), (0x1056F, 0x1056F, 19), (0x10570, 0x1057A, 157), (0x1057C, 0x1058A, 157), (0x1058C, 0x10592, 157),
  (0x10594, 0x10595, 157), (0x10597, 0x105A1, 157), (0x105A3, 0x105B1, 157), (0x105B3, 0x105B9, 157), (0x105BB, 0x105BC, 157), (0x10600, 0x10736, 73),
  (0x10740, 0x10755, 73), (0x10760, 0x10767, 73), (0x10780, 0x10785, 70), (0x10787, 0x107B0, 70), (0x107B2, 0x107BA, 70), (0x10800, 0x10805, 27),
  (0x10808, 0x10808, 27), (0x1080A, 0x10835, 27), (0x10837, 0x10838, 27), (0x1083C, 0x1083C, 27), (0x1083F, 0x1083F, 27), (0x10840, 0x10855, 54),
  (0x10857, 0x1085F, 54), (0x10860, 0x1087F, 119), (0x10880, 0x1089E, 96), (0x108A7, 0x108AF, 96), (0x108E0, 0x108F2, 51), (0x108F4, 0x108F5, 51),
  (0x108FB, 0x108FF, 51), (0x10900, 0x1091B, 122), (0x1091F, 0x1091F, 122), (0x10920, 0x10939, 77), (0x1093F, 0x1093F, 77), (0x10980, 0x1099F, 89),
  (0x109A0, 0x109B7, 88), (0x109BC, 0x109CF, 88), (0x109D2, 0x109FF, 88), (0x10A00, 0x10A03, 64), (0x10A05, 0x10A06, 64), (0x10A0C, 0x10A13, 64),
  (0x10A15, 0x10A17, 64), (0x10A19, 0x10A35, 64), (0x10A38, 0x10A3A, 64), (0x10A3F, 0x10A48, 64), (0x10A50, 0x10A58, 64), (0x10A60, 0x10A7F, 112),
  (0x10A80, 0x10A9F, 108), (0x10AC0, 0x10AE6, 82), (0x10AEB, 0x10AF6, 82), (0x10B00, 0x10B35, 5), (0x10B39, 0x10B3F, 5), (0x10B40, 0x10B55, 57),
  (0x10B58, 0x10B5F, 57), (0x10B60, 0x10B72, 56), (0x10B78, 0x10B7F, 56), (0x10B80, 0x10B91, 123), (0x10B99, 0x10B9C, 123), (0x10BA9, 0x10BAF, 123),
  (0x10C00, 0x10C48, 113), (0x10C80, 0x10CB2, 106), (0x10CC0, 0x10CF2, 106), (0x10CFA, 0x10CFF, 106), (0x10D00, 0x10D27, 49), (0x10D30, 0x10D39, 49),
  (0x10E60, 0x10E7E, 3), (0x10E80, 0x10EA9, 160), (0x10EAB, 0x10EAD, 160), (0x10EB0, 0x10EB1, 160), (0x10EFD, 0x10EFF, 3), (0x10F00, 0x10F27, 111),
  (0x10F30, 0x10F59, 133), (0x10F70, 0x10F89, 114), (0x10FB0, 0x10FCB, 23), (0x10FE0, 0x10FF6, 37), (0x11000, 0x1104D, 13), (0x11052, 0x11075, 13),
  (0x1107F, 0x1107F, 13), (0x11080, 0x110C2, 59), (0x110CD, 0x110CD, 59), (0x110D0, 0x110E8, 134), (0x110F0, 0x110F9, 134), (0x11100, 0x11134, 20),
  (0x11136, 0x11147, 20), (0x11150, 0x11176, 78), (0x11180, 0x111DF, 128), (0x111E1, 0x111F4, 132), (0x11200, 0x11211, 67), (0x11213, 0x11241, 67),
  (0x11280, 0x11286, 94), (0x11288, 0x11288, 94), (0x1128A, 0x1128D, 94), (0x1128F, 0x1129D, 94), (0x1129F, 0x112A9, 94), (0x112B0, 0x112EA, 68),
  (0x112F0, 0x112F9, 68), (0x11300, 0x11303, 42), (0x11305, 0x1130C, 42), (0x1130F, 0x11310, 42), (0x11313, 0x11328, 42), (0x1132A, 0x11330, 42),
  (0x11332, 0x11333, 42), (0x11335, 0x11339, 42), (0x1133B, 0x1133B, 55), (0x1133C, 0x11344, 42), (0x11347, 0x11348, 42), (0x1134B, 0x1134D, 42),
  (0x11350, 0x11350, 42), (0x11357, 0x11357, 42), (0x1135D, 0x11363, 42), (0x11366, 0x1136C, 42), (0x11370, 0x11374, 42), (0x11400, 0x1145B, 100),
  (0x1145D, 0x11461, 100), (0x11480, 0x114C7, 153), (0x114D0, 0x114D9, 153), (0x11580, 0x115B5, 130), (0x115B8, 0x115DD, 130), (0x11600, 0x11644, 91),
  (0x11650, 0x11659, 91), (0x11660, 0x1166C, 92), (0x11680, 0x116B9, 144), (0x116C0, 0x116C9, 144), (0x11700, 0x1171A, 1), (0x1171D, 0x1172B, 1),
  (0x11730, 0x11746, 1), (0x11800, 0x1183B, 33), (0x118A0, 0x118F2, 159), (0x118FF, 0x118FF, 159), (0x11900, 0x11906, 32), (0x11909, 0x11909, 32),
  (0x1190C, 0x11913, 32), (0x11915, 0x11916, 32), (0x11918, 0x11935, 32), (0x11937, 0x11938, 32), (0x1193B, 0x11946, 32), (0x11950, 0x11959, 32),
  (0x119A0, 0x119A7, 98), (0x119AA, 0x119D7, 98), (0x119DA, 0x119E4, 98), (0x11A00, 0x11A47, 162), (0x11A50, 0x11AA2, 135), (0x11AB0, 0x11ABF, 17),
  (0x11AC0, 0x11AF8, 120), (0x11B00, 0x11B09, 31), (0x11C00, 0x11C08, 11), (0x11C0A, 0x11C36, 11), (0x11C38, 0x11C45, 11), (0x11C50, 0x11C6C, 11),
  (0x11C70, 0x11C8F, 83), (0x11C92, 0x11CA7, 83), (0x11CA9, 0x11CB6, 83), (0x11D00, 0x11D06, 84), (0x11D08, 0x11D09, 84), (0x11D0B, 0x11D36, 84),
  (0x11D3A, 0x11D3A, 84), (0x11D3C, 0x11D3D, 84), (0x11D3F, 0x11D47, 84), (0x11D50, 0x11D59, 84), (0x11D60, 0x11D65, 45), (0x11D67, 0x11D68, 45),
  (0x11D6A, 0x11D8E, 45), (0x11D90, 0x11D91, 45), (0x11D93, 0x11D98, 45), (0x11DA0, 0x11DA9, 45), (0x11EE0, 0x11EF8, 79), (0x11F00, 0x11F10, 62),
  (0x11F12, 0x11F3A, 62), (0x11F3E, 0x11F59, 62), (0x11FB0, 0x11FB0, 75), (0x11FC0, 0x11FF1, 145), (0x11FFF, 0x11FFF, 145), (0x12000, 0x12399, 26),
  (0x12400, 0x1246E, 26), (0x12470, 0x12474, 26), (0x12480, 0x12543, 26), (0x12F90, 0x12FF2, 28), (0x13000, 0x13455, 35), (0x14400, 0x14646, 2),
  (0x16800, 0x16A38, 7), (0x16A40, 0x16A5E, 93), (0x16A60, 0x16A69, 93), (0x16A6E, 0x16A6F, 93), (0x16A70, 0x16ABE, 146), (0x16AC0, 0x16AC9, 146),
  (0x16AD0, 0x16AED, 8), (0x16AF0, 0x16AF5, 8), (0x16B00, 0x16B45, 118), (0x16B50, 0x16B59, 118), (0x16B5B, 0x16B61, 118), (0x16B63, 0x16B77, 118),
  (0x16B7D, 0x16B8F, 118), (0x16E40, 0x16E9A, 85), (0x16F00, 0x16F4A, 90), (0x16F4F, 0x16F87, 90), (0x16F8F, 0x16F9F, 90), (0x16FE0, 0x16FE0, 147),
  (0x16FE1, 0x16FE1, 102), (0x16FE2, 0x16FE3, 47), (0x16FE4, 0x16FE4, 65), (0x16FF0, 0x16FF1, 47), (0x17000, 0x187F7, 147), (0x18800, 0x18AFF, 147),
  (0x18B00, 0x18CD5, 65), (0x18D00, 0x18D08, 147), (0x1AFF0, 0x1AFF3, 61), (0x1AFF5, 0x1AFFB, 61), (0x1AFFD, 0x1AFFE, 61), (0x1B000, 0x1B000, 61),
  (0x1B001, 0x1B11F, 53), (0x1B120, 0x1B122, 61), (0x1B132, 0x1B132, 53), (0x1B150, 0x1B152, 53), (0x1B155, 0x1B155, 61), (0x1B164, 0x1B167, 61),
  (0x1B170, 0x1B2FB, 102), (0x1BC00, 0x1BC6A, 34), (0x1BC70, 0x1BC7C, 34), (0x1BC80, 0x1BC88, 34), (0x1BC90, 0x1BC99, 34), (0x1BC9C, 0x1BC9F, 34),
  (0x1BCA0, 0x1BCA3, 24), (0x1CF00, 0x1CF2D, 55), (0x1CF30, 0x1CF46, 55), (0x1CF50, 0x1CFC3, 24)]

/-- Entries 800 onwards of `scriptRuns`. -/
def scriptRunsPart2 : Array (Nat × Nat × Nat) := #[
  (0x1D000, 0x1D0F5, 24), (0x1D100, 0x1D126, 24), (0x1D129, 0x1D166, 24), (0x1D167, 0x1D169, 55), (0x1D16A, 0x1D17A, 24), (0x1D17B, 0x1D182, 55),
  (0x1D183, 0x1D184, 24), (0x1D185, 0x1D18B, 55), (0x1D18C, 0x1D1A9, 24), (0x1D1AA, 0x1D1AD, 55), (0x1D1AE, 0x1D1EA, 24), (0x1D200, 0x1D245, 43),
  (0x1D2C0, 0x1D2D3, 24), (0x1D2E0, 0x1D2F3, 24), (0x1D300, 0x1D356, 24), (0x1D360, 0x1D378, 24), (0x1D400, 0x1D454, 24), (0x1D456, 0x1D49C, 24),
  (0x1D49E, 0x1D49F, 24), (0x1D4A2, 0x1D4A2, 24), (0x1D4A5, 0x1D4A6, 24), (0x1D4A9, 0x1D4AC, 24), (0x1D4AE, 0x1D4B9, 24), (0x1D4BB, 0x1D4BB, 24),
  (0x1D4BD, 0x1D4C3, 24), (0x1D4C5, 0x1D505, 24), (0x1D507, 0x1D50A, 24), (0x1D50D, 0x1D514, 24), (0x1D516, 0x1D51C, 24), (0x1D51E, 0x1D539, 24),
  (0x1D53B, 0x1D53E, 24), (0x1D540, 0x1D544, 24), (0x1D546, 0x1D546, 24), (0x1D54A, 0x1D550, 24), (0x1D552, 0x1D6A5, 24), (0x1D6A8, 0x1D7CB, 24),
  (0x1D7CE, 0x1D7FF, 24), (0x1D800, 0x1DA8B, 131), (0x1DA9B, 0x1DA9F, 131), (0x1DAA1, 0x1DAAF, 131), (0x1DF00, 0x1DF1E, 70), (0x1DF25, 0x1DF2A, 70),
  (0x1E000, 0x1E006, 40), (0x1E008, 0x1E018, 40), (0x1E01B, 0x1E021, 40), (0x1E023, 0x1E024, 40), (0x1E026, 0x1E02A, 40), (0x1E030, 0x1E06D, 29),
  (0x1E08F, 0x1E08F, 29), (0x1E100, 0x1E12C, 103), (0x1E130, 0x1E13D, 103), (0x1E140, 0x1E149, 103), (0x1E14E, 0x1E14F, 103), (0x1E290, 0x1E2AE, 154),
  (0x1E2C0, 0x1E2F9, 158), (0x1E2FF, 0x1E2FF, 158), (0x1E4D0, 0x1E4F9, 97), (0x1E7E0, 0x1E7E6, 38), (0x1E7E8, 0x1E7EB, 38), (0x1E7ED, 0x1E7EE, 38),
  (0x1E7F0, 0x1E7FE, 38), (0x1E800, 0x1E8C4, 87), (0x1E8C7, 0x1E8D6, 87), (0x1E900, 0x1E94B, 0), (0x1E950, 0x1E959, 0), (0x1E95E, 0x1E95F, 0),
  (0x1EC71, 0x1ECB4, 24), (0x1ED01, 0x1ED3D, 24), (0x1EE00, 0x1EE03, 3), (0x1EE05, 0x1EE1F, 3), (0x1EE21, 0x1EE22, 3), (0x1EE24, 0x1EE24, 3),
  (0x1EE27, 0x1EE27, 3), (0x1EE29, 0x1EE32, 3), (0x1EE34, 0x1EE37, 3), (0x1EE39, 0x1EE39, 3), (0x1EE3B, 0x1EE3B, 3), (0x1EE42, 0x1EE42, 3),
  (0x1EE47, 0x1EE47, 3), (0x1EE49, 0x1EE49, 3), (0x1EE4B, 0x1EE4B, 3), (0x1EE4D, 0x1EE4F, 3), (0x1EE51, 0x1EE52, 3), (0x1EE54, 0x1EE54, 3),
  (0x1EE57, 0x1EE57, 3), (0x1EE59, 0x1EE59, 3), (0x1EE5B, 0x1EE5B, 3), (0x1EE5D, 0x1EE5D, 3), (0x1EE5F, 0x1EE5F, 3), (0x1EE61, 0x1EE62, 3),
  (0x1EE64, 0x1EE64, 3), (0x1EE67, 0x1EE6A, 3), (0x1EE6C, 0x1EE72, 3), (0x1EE74, 0x1EE77, 3), (0x1EE79, 0x1EE7C, 3), (0x1EE7E, 0x1EE7E, 3),
  (0x1EE80, 0x1EE89, 3), (0x1EE8B, 0x1EE9B, 3), (0x1EEA1, 0x1EEA3, 3), (0x1EEA5, 0x1EEA9, 3), (0x1EEAB, 0x1EEBB, 3), (0x1EEF0, 0x1EEF1, 3),
  (0x1F000, 0x1F02B, 24), (0x1F030, 0x1F093, 24), (0x1F0A0, 0x1F0AE, 24), (0x1F0B1, 0x1F0BF, 24), (0x1F0C1, 0x1F0CF, 24), (0x1F0D1, 0x1F0F5, 24),
  (0x1F100, 0x1F1AD, 24), (0x1F1E6, 0x1F1FF, 24), (0x1F200, 0x1F200, 53), (0x1F201, 0x1F202, 24), (0x1F210, 0x1F23B, 24), (0x1F240, 0x1F248, 24),
  (0x1F250, 0x1F251, 24), (0x1F260, 0x1F265, 24), (0x1F300, 0x1F6D7, 24), (0x1F6DC, 0x1F6EC, 24), (0x1F6F0, 0x1F6FC, 24), (0x1F700, 0x1F776, 24),
  (0x1F77B, 0x1F7D9, 24), (0x1F7E0, 0x1F7EB, 24), (0x1F7F0, 0x1F7F0, 24), (0x1F800, 0x1F80B, 24), (0x1F810, 0x1F847, 24), (0x1F850, 0x1F859, 24),
  (0x1F860, 0x1F887, 24), (0x1F890, 0x1F8AD, 24), (0x1F8B0, 0x1F8B1, 24), (0x1F900, 0x1FA53, 24), (0x1FA60, 0x1FA6D, 24), (0x1FA70, 0x1FA7C, 24),
  (0x1FA80, 0x1FA88, 24), (0x1FA90, 0x1FABD, 24), (0x1FABF, 0x1FAC5, 24), (0x1FACE, 0x1FADB, 24), (0x1FAE0, 0x1FAE8, 24), (0x1FAF0, 0x1FAF8, 24),
  (0x1FB00, 0x1FB92, 24), (0x1FB94, 0x1FBCA, 24), (0x1FBF0, 0x1FBF9, 24), (0x20000, 0x2A6DF, 47), (0x2A700, 0x2B739, 47), (0x2B740, 0x2B81D, 47),
  (0x2B820, 0x2CEA1, 47), (0x2CEB0, 0x2EBE0, 47), (0x2F800, 0x2FA1D, 47), (0x30000, 0x3134A, 47), (0x31350, 0x323AF, 47), (0xE0001, 0xE0001, 24),
  (0xE0020, 0xE007F, 24), (0xE0100, 0xE01EF, 55)]

/-- Runs of code points of one script: first, last and the script's index. -/
def scriptRuns : Array (Nat × Nat × Nat) :=
  scriptRunsPart0 ++ scriptRunsPart1 ++ scriptRunsPart2

/-- The lists of script indices that code points extend to, by index. -/
def extensionLists : Array (List Nat) := #[
  [24],
  [70],
  [12],
  [55],
  [43],
  [25],
  [29],
  [29, 109],
  [29, 40],
  [29, 70],
  [4],
  [52],
  [3],
  [3, 101, 49, 138, 149, 160],
  [3, 138, 149],
  [0, 3, 101, 49, 138, 149, 160],
  [0, 3, 81, 82, 114, 123, 49, 133, 138],
  [3, 138],
  [3, 149, 160],
  [3, 49],
  [138],
  [149],
  [101],
  [126],
  [81],
  [31],
  [10, 31, 42, 44, 46, 60, 70, 80, 115, 128, 145, 148, 153],
  [10, 31, 42, 44, 46, 60, 70, 80, 115, 145, 148, 153],
  [10, 31, 33, 45, 84, 42, 44, 46, 60, 78, 80, 98, 115, 68, 132, 137, 144, 145, 148, 153],
  [10, 31, 33, 45, 84, 42, 44, 46, 60, 72, 78, 80, 98, 115, 68, 132, 137, 144, 145, 148, 153],
  [31, 33, 59, 78],
  [10],
  [10, 20, 137],
  [46],
  [46, 94],
  [44],
  [44, 67],
  [115],
  [145],
  [42, 145],
  [148],
  [60],
  [60, 98],
  [80],
  [132],
  [150],
  [69],
  [151],
  [95],
  [20, 95, 141],
  [39],
  [39, 70],
  [48],
  [38],
  [22],
  [17],
  [104],
  [125],
  [139],
  [50],
  [16, 50, 140, 139],
  [16],
  [140],
  [66],
  [92],
  [92, 121],
  [72],
  [141],
  [99],
  [15],
  [142],
  [6],
  [136],
  [9],
  [71],
  [105],
  [10, 31, 42, 60],
  [31, 42],
  [10, 31],
  [31, 128],
  [31, 60, 80, 115, 145, 148],
  [31, 98],
  [10, 31, 42, 60, 98, 115, 148, 153],
  [31, 42, 60],
  [98],
  [29, 138],
  [70, 92],
  [31, 42, 70],
  [14],
  [40],
  [152],
  [47],
  [12, 48, 47, 53, 61, 161],
  [12, 48, 47, 53, 61],
  [12, 47],
  [53, 61],
  [47, 53, 61],
  [53],
  [61],
  [161],
  [75],
  [156],
  [7],
  [47, 70],
  [137],
  [31, 33, 44, 46, 67, 60, 59, 78, 80, 91, 98, 68, 144, 153],
  [31, 33, 44, 46, 67, 60, 59, 78, 91, 98, 68, 144, 153],
  [31, 33, 44, 46, 67, 59, 78, 91, 68, 144, 153],
  [121],
  [127],
  [31, 145],
  [63],
  [63, 70, 95],
  [124],
  [58],
  [15, 58],
  [21],
  [143],
  [86],
  [3, 101],
  [3, 149],
  [74],
  [28, 27, 74],
  [27, 74],
  [27, 73, 74],
  [76],
  [18],
  [3, 25],
  [107],
  [41],
  [109],
  [155],
  [110],
  [30],
  [129],
  [117],
  [116],
  [36],
  [19],
  [157],
  [73],
  [27],
  [54],
  [119],
  [96],
  [51],
  [122],
  [77],
  [89],
  [88],
  [64],
  [112],
  [108],
  [82],
  [82, 114],
  [5],
  [57],
  [56],
  [123],
  [113],
  [106],
  [49],
  [160],
  [111],
  [133],
  [114],
  [23],
  [37],
  [13],
  [59],
  [134],
  [20],
  [78],
  [128],
  [67],
  [94],
  [68],
  [42],
  [100],
  [153],
  [130],
  [91],
  [144],
  [1],
  [33],
  [159],
  [32],
  [162],
  [135],
  [120],
  [11],
  [83],
  [84],
  [45],
  [79],
  [62],
  [26],
  [28],
  [35],
  [2],
  [93],
  [146],
  [8],
  [118],
  [85],
  [90],
  [147],
  [102],
  [65],
  [34],
  [131],
  [103],
  [154],
  [158],
  [97],
  [87],
  [0]]

/-- Entries 0 onwards of `extensionRuns`. -/
def extensionRunsPart0 : Array (Nat × Nat × Nat) := #[
  (0x0, 0x40, 0), (0x41, 0x5A, 1), (0x5B, 0x60, 0), (0x61, 0x7A, 1), (0x7B, 0xA9, 0), (0xAA, 0xAA, 1),
  (0xAB, 0xB9, 0), (0xBA, 0xBA, 1), (0xBB, 0xBF, 0), (0xC0, 0xD6, 1), (0xD7, 0xD7, 0), (0xD8, 0xF6, 1),
  (0xF7, 0xF7, 0), (0xF8, 0x2B8, 1), (0x2B9, 0x2DF, 0), (0x2E0, 0x2E4, 1), (0x2E5, 0x2E9, 0), (0x2EA, 0x2EB, 2),
  (0x2EC, 0x2FF, 0), (0x300, 0x341, 3), (0x342, 0x342, 4), (0x343, 0x344, 3), (0x345, 0x345, 4), (0x346, 0x362, 3),
  (0x363, 0x36F, 1), (0x370, 0x373, 4), (0x374, 0x374, 0), (0x375, 0x377, 4), (0x37A, 0x37D, 4), (0x37E, 0x37E, 0),
  (0x37F, 0x37F, 4), (0x384, 0x384, 4), (0x385, 0x385, 0), (0x386, 0x386, 4), (0x387, 0x387, 0), (0x388, 0x38A, 4),
  (0x38C, 0x38C, 4), (0x38E, 0x3A1, 4), (0x3A3, 0x3E1, 4), (0x3E2, 0x3EF, 5), (0x3F0, 0x3FF, 4), (0x400, 0x482, 6),
  (0x483, 0x483, 7), (0x484, 0x484, 8), (0x485, 0x486, 9), (0x487, 0x487, 8), (0x488, 0x52F, 6), (0x531, 0x556, 10),
  (0x559, 0x58A, 10), (0x58D, 0x58F, 10), (0x591, 0x5C7, 11), (0x5D0, 0x5EA, 11), (0x5EF, 0x5F4, 11), (0x600, 0x604, 12),
  (0x605, 0x605, 0), (0x606, 0x60B, 12), (0x60C, 0x60C, 13), (0x60D, 0x61A, 12), (0x61B, 0x61B, 13), (0x61C, 0x61C, 14),
  (0x61D, 0x61E, 12), (0x61F, 0x61F, 15), (0x620, 0x63F, 12), (0x640, 0x640, 16), (0x641, 0x64A, 12), (0x64B, 0x655, 17),
  (0x656, 0x65F, 12), (0x660, 0x669, 18), (0x66A, 0x66F, 12), (0x670, 0x670, 17), (0x671, 0x6D3, 12), (0x6D4, 0x6D4, 19),
  (0x6D5, 0x6DC, 12), (0x6DD, 0x6DD, 0), (0x6DE, 0x6FF, 12), (0x700, 0x70D, 20), (0x70F, 0x74A, 20), (0x74D, 0x74F, 20),
  (0x750, 0x77F, 12), (0x780, 0x7B1, 21), (0x7C0, 0x7FA, 22), (0x7FD, 0x7FF, 22), (0x800, 0x82D, 23), (0x830, 0x83E, 23),
  (0x840, 0x85B, 24), (0x85E, 0x85E, 24), (0x860, 0x86A, 20), (0x870, 0x88E, 12), (0x890, 0x891, 12), (0x898, 0x8E1, 12),
  (0x8E2, 0x8E2, 0), (0x8E3, 0x8FF, 12), (0x900, 0x950, 25), (0x951, 0x951, 26), (0x952, 0x952, 27), (0x953, 0x954, 3),
  (0x955, 0x963, 25), (0x964, 0x964, 28), (0x965, 0x965, 29), (0x966, 0x96F, 30), (0x970, 0x97F, 25), (0x980, 0x983, 31),
  (0x985, 0x98C, 31), (0x98F, 0x990, 31), (0x993, 0x9A8, 31), (0x9AA, 0x9B0, 31), (0x9B2, 0x9B2, 31), (0x9B6, 0x9B9, 31),
  (0x9BC, 0x9C4, 31), (0x9C7, 0x9C8, 31), (0x9CB, 0x9CE, 31), (0x9D7, 0x9D7, 31), (0x9DC, 0x9DD, 31), (0x9DF, 0x9E3, 31),
  (0x9E6, 0x9EF, 32), (0x9F0, 0x9FE, 31), (0xA01, 0xA03, 33), (0xA05, 0xA0A, 33), (0xA0F, 0xA10, 33), (0xA13, 0xA28, 33),
  (0xA2A, 0xA30, 33), (0xA32, 0xA33, 33), (0xA35, 0xA36, 33), (0xA38, 0xA39, 33), (0xA3C, 0xA3C, 33), (0xA3E, 0xA42, 33),
  (0xA47, 0xA48, 33), (0xA4B, 0xA4D, 33), (0xA51, 0xA51, 33), (0xA59, 0xA5C, 33), (0xA5E, 0xA5E, 33), (0xA66, 0xA6F, 34),
  (0xA70, 0xA76, 33), (0xA81, 0xA83, 35), (0xA85, 0xA8D, 35), (0xA8F, 0xA91, 35), (0xA93, 0xAA8, 35), (0xAAA, 0xAB0, 35),
  (0xAB2, 0xAB3, 35), (0xAB5, 0xAB9, 35), (0xABC, 0xAC5, 35), (0xAC7, 0xAC9, 35), (0xACB, 0xACD, 35), (0xAD0, 0xAD0, 35),
  (0xAE0, 0xAE3, 35), (0xAE6, 0xAEF, 36), (0xAF0, 0xAF1, 35), (0xAF9, 0xAFF, 35), (0xB01, 0xB03, 37), (0xB05, 0xB0C, 37),
  (0xB0F, 0xB10, 37), (0xB13, 0xB28, 37), (0xB2A, 0xB30, 37), (0xB32, 0xB33, 37), (0xB35, 0xB39, 37), (0xB3C, 0xB44, 37),
  (0xB47, 0xB48, 37), (0xB4B, 0xB4D, 37), (0xB55, 0xB57, 37), (0xB5C, 0xB5D, 37), (0xB5F, 0xB63, 37), (0xB66, 0xB77, 37),
  (0xB82, 0xB83, 38), (0xB85, 0xB8A, 38), (0xB8E, 0xB90, 38), (0xB92, 0xB95, 38), (0xB99, 0xB9A, 38), (0xB9C, 0xB9C, 38),
  (0xB9E, 0xB9F, 38), (0xBA3, 0xBA4, 38), (0xBA8, 0xBAA, 38), (0xBAE, 0xBB9, 38), (0xBBE, 0xBC2, 38), (0xBC6, 0xBC8, 38),
  (0xBCA, 0xBCD, 38), (0xBD0, 0xBD0, 38), (0xBD7, 0xBD7, 38), (0xBE6, 0xBF3, 39), (0xBF4, 0xBFA, 38), (0xC00, 0xC0C, 40),
  (0xC0E, 0xC10, 40), (0xC12, 0xC28, 40), (0xC2A, 0xC39, 40), (0xC3C, 0xC44, 40), (0xC46, 0xC48, 40), (0xC4A, 0xC4D, 40),
  (0xC55, 0xC56, 40), (0xC58, 0xC5A, 40), (0xC5D, 0xC5D, 40), (0xC60, 0xC63, 40), (0xC66, 0xC6F, 40), (0xC77, 0xC7F, 40),
  (0xC80, 0xC8C, 41), (0xC8E, 0xC90, 41), (0xC92, 0xCA8, 41), (0xCAA, 0xCB3, 41), (0xCB5, 0xCB9, 41), (0xCBC, 0xCC4, 41),
  (0xCC6, 0xCC8, 41), (0xCCA, 0xCCD, 41), (0xCD5, 0xCD6, 41), (0xCDD, 0xCDE, 41), (0xCE0, 0xCE3, 41), (0xCE6, 0xCEF, 42),
  (0xCF1, 0xCF3, 41), (0xD00, 0xD0C, 43), (0xD0E, 0xD10, 43), (0xD12, 0xD44, 43), (0xD46, 0xD48, 43), (0xD4A, 0xD4F, 43),
  (0xD54, 0xD63, 43), (0xD66, 0xD7F, 43), (0xD81, 0xD83, 44), (0xD85, 0xD96, 44), (0xD9A, 0xDB1, 44), (0xDB3, 0xDBB, 44),
  (0xDBD, 0xDBD, 44), (0xDC0, 0xDC6, 44), (0xDCA, 0xDCA, 44), (0xDCF, 0xDD4, 44), (0xDD6, 0xDD6, 44), (0xDD8, 0xDDF, 44),
  (0xDE6, 0xDEF, 44), (0xDF2, 0xDF4, 44), (0xE01, 0xE3A, 45), (0xE3F, 0xE3F, 0), (0xE40, 0xE5B, 45), (0xE81, 0xE82, 46),
  (0xE84, 0xE84, 46), (0xE86, 0xE8A, 46), (0xE8C, 0xEA3, 46), (0xEA5, 0xEA5, 46), (0xEA7, 0xEBD, 46), (0xEC0, 0xEC4, 46),
  (0xEC6, 0xEC6, 46), (0xEC8, 0xECE, 46), (0xED0, 0xED9, 46), (0xEDC, 0xEDF, 46), (0xF00, 0xF47, 47), (0xF49, 0xF6C, 47),
  (0xF71, 0xF97, 47), (0xF99, 0xFBC, 47), (0xFBE, 0xFCC, 47), (0xFCE, 0xFD4, 47), (0xFD5, 0xFD8, 0), (0xFD9, 0xFDA, 47),
  (0x1000, 0x103F, 48), (0x1040, 0x1049, 49), (0x104A, 0x109F, 48), (0x10A0, 0x10C5, 50), (0x10C7, 0x10C7, 50), (0x10CD, 0x10CD, 50),
  (0x10D0, 0x10FA, 50), (0x10FB, 0x10FB, 51), (0x10FC, 0x10FF, 50), (0x1100, 0x11FF, 52), (0x1200, 0x1248, 53), (0x124A, 0x124D, 53),
  (0x1250, 0x1256, 53), (0x1258, 0x1258, 53), (0x125A, 0x125D, 53), (0x1260, 0x1288, 53), (0x128A, 0x128D, 53), (0x1290, 0x12B0, 53),
  (0x12B2, 0x12B5, 53), (0x12B8, 0x12BE, 53), (0x12C0, 0x12C0, 53), (0x12C2, 0x12C5, 53), (0x12C8, 0x12D6, 53), (0x12D8, 0x1310, 53),
  (0x1312, 0x1315, 53), (0x1318, 0x135A, 53), (0x135D, 0x137C, 53), (0x1380, 0x1399, 53), (0x13A0, 0x13F5, 54), (0x13F8, 0x13FD, 54),
  (0x1400, 0x167F, 55), (0x1680, 0x169C, 56), (0x16A0, 0x16EA, 57), (0x16EB, 0x16ED, 0), (0x16EE, 0x16F8, 57), (0x1700, 0x1715, 58),
  (0x171F, 0x171F, 58), (0x1720, 0x1734, 59), (0x1735, 0x1736, 60), (0x1740, 0x1753, 61), (0x1760, 0x176C, 62), (0x176E, 0x1770, 62),
  (0x1772, 0x1773, 62), (0x1780, 0x17DD, 63), (0x17E0, 0x17E9, 63), (0x17F0, 0x17F9, 63), (0x1800, 0x1801, 64), (0x1802, 0x1803, 65),
  (0x1804, 0x1804, 64), (0x1805, 0x1805, 65), (0x1806, 0x1819, 64), (0x1820, 0x1878, 64), (0x1880, 0x18AA, 64), (0x18B0, 0x18F5, 55),
  (0x1900, 0x191E, 66), (0x1920, 0x192B, 66), (0x1930, 0x193B, 66), (0x1940, 0x1940, 66), (0x1944, 0x194F, 66), (0x1950, 0x196D, 67),
  (0x1970, 0x1974, 67), (0x1980, 0x19AB, 68), (0x19B0, 0x19C9, 68), (0x19D0, 0x19DA, 68), (0x19DE, 0x19DF, 68), (0x19E0, 0x19FF, 63),
  (0x1A00, 0x1A1B, 69), (0x1A1E, 0x1A1F, 69), (0x1A20, 0x1A5E, 70), (0x1A60, 0x1A7C, 70), (0x1A7F, 0x1A89, 70), (0x1A90, 0x1A99, 70),
  (0x1AA0, 0x1AAD, 70), (0x1AB0, 0x1ACE, 3), (0x1B00, 0x1B4C, 71), (0x1B50, 0x1B7E, 71), (0x1B80, 0x1BBF, 72), (0x1BC0, 0x1BF3, 73),
  (0x1BFC, 0x1BFF, 73), (0x1C00, 0x1C37, 74), (0x1C3B, 0x1C49, 74), (0x1C4D, 0x1C4F, 74), (0x1C50, 0x1C7F, 75), (0x1C80, 0x1C88, 6),
  (0x1C90, 0x1CBA, 50), (0x1CBD, 0x1CBF, 50), (0x1CC0, 0x1CC7, 72), (0x1CD0, 0x1CD0, 76), (0x1CD1, 0x1CD1, 25), (0x1CD2, 0x1CD2, 76),
  (0x1CD3, 0x1CD3, 77), (0x1CD4, 0x1CD4, 25), (0x1CD5, 0x1CD6, 78), (0x1CD7, 0x1CD7, 79), (0x1CD8, 0x1CD8, 78), (0x1CD9, 0x1CD9, 79),
  (0x1CDA, 0x1CDA, 80), (0x1CDB, 0x1CDB, 25), (0x1CDC, 0x1CDD, 79), (0x1CDE, 0x1CDF, 25), (0x1CE0, 0x1CE0, 79), (0x1CE1, 0x1CE1, 78),
  (0x1CE2, 0x1CE8, 25), (0x1CE9, 0x1CE9, 81), (0x1CEA, 0x1CEA, 78), (0x1CEB, 0x1CEC, 25), (0x1CED, 0x1CED, 78), (0x1CEE, 0x1CF1, 25),
  (0x1CF2, 0x1CF2, 82), (0x1CF3, 0x1CF3, 77), (0x1CF4, 0x1CF4, 83), (0x1CF5, 0x1CF6, 78), (0x1CF7, 0x1CF7, 31), (0x1CF8, 0x1CF9, 77),
  (0x1CFA, 0x1CFA, 84), (0x1D00, 0x1D25, 1), (0x1D26, 0x1D2A, 4), (0x1D2B, 0x1D2B, 6), (0x1D2C, 0x1D5C, 1), (0x1D5D, 0x1D61, 4),
  (0x1D62, 0x1D65, 1), (0x1D66, 0x1D6A, 4), (0x1D6B, 0x1D77, 1), (0x1D78, 0x1D78, 6), (0x1D79, 0x1DBE, 1), (0x1DBF, 0x1DC1, 4),
  (0x1DC2, 0x1DF7, 3), (0x1DF8, 0x1DF8, 85), (0x1DF9, 0x1DF9, 3), (0x1DFA, 0x1DFA, 20), (0x1DFB, 0x1DFF, 3), (0x1E00, 0x1EFF, 1),
  (0x1F00, 0x1F15, 4), (0x1F18, 0x1F1D, 4), (0x1F20, 0x1F45, 4), (0x1F48, 0x1F4D, 4), (0x1F50, 0x1F57, 4), (0x1F59, 0x1F59, 4),
  (0x1F5B, 0x1F5B, 4), (0x1F5D, 0x1F5D, 4), (0x1F5F, 0x1F7D, 4), (0x1F80, 0x1FB4, 4), (0x1FB6, 0x1FC4, 4), (0x1FC6, 0x1FD3, 4),
  (0x1FD6, 0x1FDB, 4), (0x1FDD, 0x1FEF, 4), (0x1FF2, 0x1FF4, 4), (0x1FF6, 0x1FFE, 4), (0x2000, 0x200B, 0), (0x200C, 0x200D, 3),
  (0x200E, 0x202E, 0), (0x202F, 0x202F, 86), (0x2030, 0x2064, 0), (0x2066, 0x2070, 0)]

/-- Entries 400 onwards of `extensionRuns`. -/
def extensionRunsPart1 : Array (Nat × Nat × Nat) := #[
  (0x2071, 0x2071, 1), (0x2074, 0x207E, 0), (0x207F, 0x207F, 1), (0x2080, 0x208E, 0), (0x2090, 0x209C, 1), (0x20A0, 0x20C0, 0),
  (0x20D0, 0x20EF, 3), (0x20F0, 0x20F0, 87), (0x2100, 0x2125, 0), (0x2126, 0x2126, 4), (0x2127, 0x2129, 0), (0x212A, 0x212B, 1),
  (0x212C, 0x2131, 0), (0x2132, 0x2132, 1), (0x2133, 0x214D, 0), (0x214E, 0x214E, 1), (0x214F, 0x215F, 0), (0x2160, 0x2188, 1),
  (0x2189, 0x218B, 0), (0x2190, 0x2426, 0), (0x2440, 0x244A, 0), (0x2460, 0x27FF, 0), (0x2800, 0x28FF, 88), (0x2900, 0x2B73, 0),
  (0x2B76, 0x2B95, 0), (0x2B97, 0x2BFF, 0), (0x2C00, 0x2C5F, 89), (0x2C60, 0x2C7F, 1), (0x2C80, 0x2CF3, 5), (0x2CF9, 0x2CFF, 5),
  (0x2D00, 0x2D25, 50), (0x2D27, 0x2D27, 50), (0x2D2D, 0x2D2D, 50), (0x2D30, 0x2D67, 90), (0x2D6F, 0x2D70, 90), (0x2D7F, 0x2D7F, 90),
  (0x2D80, 0x2D96, 53), (0x2DA0, 0x2DA6, 53), (0x2DA8, 0x2DAE, 53), (0x2DB0, 0x2DB6, 53), (0x2DB8, 0x2DBE, 53), (0x2DC0, 0x2DC6, 53),
  (0x2DC8, 0x2DCE, 53), (0x2DD0, 0x2DD6, 53), (0x2DD8, 0x2DDE, 53), (0x2DE0, 0x2DFF, 6), (0x2E00, 0x2E42, 0), (0x2E43, 0x2E43, 8),
  (0x2E44, 0x2E5D, 0), (0x2E80, 0x2E99, 91), (0x2E9B, 0x2EF3, 91), (0x2F00, 0x2FD5, 91), (0x2FF0, 0x2FFB, 0), (0x3000, 0x3000, 0),
  (0x3001, 0x3002, 92), (0x3003, 0x3003, 93), (0x3004, 0x3004, 0), (0x3005, 0x3007, 91), (0x3008, 0x3011, 92), (0x3012, 0x3012, 0),
  (0x3013, 0x3013, 93), (0x3014, 0x301B, 92), (0x301C, 0x301F, 93), (0x3020, 0x3020, 0), (0x3021, 0x3029, 91), (0x302A, 0x302D, 94),
  (0x302E, 0x302F, 52), (0x3030, 0x3030, 93), (0x3031, 0x3035, 95), (0x3036, 0x3036, 0), (0x3037, 0x3037, 93), (0x3038, 0x303B, 91),
  (0x303C, 0x303D, 96), (0x303E, 0x303F, 91), (0x3041, 0x3096, 97), (0x3099, 0x309C, 95), (0x309D, 0x309F, 97), (0x30A0, 0x30A0, 95),
  (0x30A1, 0x30FA, 98), (0x30FB, 0x30FB, 92), (0x30FC, 0x30FC, 95), (0x30FD, 0x30FF, 98), (0x3105, 0x312F, 2), (0x3131, 0x318E, 52),
  (0x3190, 0x319F, 91), (0x31A0, 0x31BF, 2), (0x31C0, 0x31E3, 91), (0x31F0, 0x31FF, 98), (0x3200, 0x321E, 52), (0x3220, 0x3247, 91),
  (0x3248, 0x325F, 0), (0x3260, 0x327E, 52), (0x327F, 0x327F, 0), (0x3280, 0x32B0, 91), (0x32B1, 0x32BF, 0), (0x32C0, 0x32CB, 91),
  (0x32CC, 0x32CF, 0), (0x32D0, 0x32FE, 98), (0x32FF, 0x32FF, 91), (0x3300, 0x3357, 98), (0x3358, 0x3370, 91), (0x3371, 0x337A, 0),
  (0x337B, 0x337F, 91), (0x3380, 0x33DF, 0), (0x33E0, 0x33FE, 91), (0x33FF, 0x33FF, 0), (0x3400, 0x4DBF, 91), (0x4DC0, 0x4DFF, 0),
  (0x4E00, 0x9FFF, 91), (0xA000, 0xA48C, 99), (0xA490, 0xA4C6, 99), (0xA4D0, 0xA4FF, 100), (0xA500, 0xA62B, 101), (0xA640, 0xA66E, 6),
  (0xA66F, 0xA66F, 8), (0xA670, 0xA69F, 6), (0xA6A0, 0xA6F7, 102), (0xA700, 0xA707, 103), (0xA708, 0xA721, 0), (0xA722, 0xA787, 1),
  (0xA788, 0xA78A, 0), (0xA78B, 0xA7CA, 1), (0xA7D0, 0xA7D1, 1), (0xA7D3, 0xA7D3, 1), (0xA7D5, 0xA7D9, 1), (0xA7F2, 0xA7FF, 1),
  (0xA800, 0xA82C, 104), (0xA830, 0xA832, 105), (0xA833, 0xA835, 106), (0xA836, 0xA839, 107), (0xA840, 0xA877, 108), (0xA880, 0xA8C5, 109),
  (0xA8CE, 0xA8D9, 109), (0xA8E0, 0xA8F0, 25), (0xA8F1, 0xA8F1, 78), (0xA8F2, 0xA8F2, 25), (0xA8F3, 0xA8F3, 110), (0xA8F4, 0xA8FF, 25),
  (0xA900, 0xA92D, 111), (0xA92E, 0xA92E, 112), (0xA92F, 0xA92F, 111), (0xA930, 0xA953, 113), (0xA95F, 0xA95F, 113), (0xA960, 0xA97C, 52),
  (0xA980, 0xA9CD, 114), (0xA9CF, 0xA9CF, 115), (0xA9D0, 0xA9D9, 114), (0xA9DE, 0xA9DF, 114), (0xA9E0, 0xA9FE, 48), (0xAA00, 0xAA36, 116),
  (0xAA40, 0xAA4D, 116), (0xAA50, 0xAA59, 116), (0xAA5C, 0xAA5F, 116), (0xAA60, 0xAA7F, 48), (0xAA80, 0xAAC2, 117), (0xAADB, 0xAADF, 117),
  (0xAAE0, 0xAAF6, 118), (0xAB01, 0xAB06, 53), (0xAB09, 0xAB0E, 53), (0xAB11, 0xAB16, 53), (0xAB20, 0xAB26, 53), (0xAB28, 0xAB2E, 53),
  (0xAB30, 0xAB5A, 1), (0xAB5B, 0xAB5B, 0), (0xAB5C, 0xAB64, 1), (0xAB65, 0xAB65, 4), (0xAB66, 0xAB69, 1), (0xAB6A, 0xAB6B, 0),
  (0xAB70, 0xABBF, 54), (0xABC0, 0xABED, 118), (0xABF0, 0xABF9, 118), (0xAC00, 0xD7A3, 52), (0xD7B0, 0xD7C6, 52), (0xD7CB, 0xD7FB, 52),
  (0xF900, 0xFA6D, 91), (0xFA70, 0xFAD9, 91), (0xFB00, 0xFB06, 1), (0xFB13, 0xFB17, 10), (0xFB1D, 0xFB36, 11), (0xFB38, 0xFB3C, 11),
  (0xFB3E, 0xFB3E, 11), (0xFB40, 0xFB41, 11), (0xFB43, 0xFB44, 11), (0xFB46, 0xFB4F, 11), (0xFB50, 0xFBC2, 12), (0xFBD3, 0xFD3D, 12),
  (0xFD3E, 0xFD3F, 119), (0xFD40, 0xFD8F, 12), (0xFD92, 0xFDC7, 12), (0xFDCF, 0xFDCF, 12), (0xFDF0, 0xFDF1, 12), (0xFDF2, 0xFDF2, 120),
  (0xFDF3, 0xFDFC, 12), (0xFDFD, 0xFDFD, 120), (0xFDFE, 0xFDFF, 12), (0xFE00, 0xFE0F, 3), (0xFE10, 0xFE19, 0), (0xFE20, 0xFE2D, 3),
  (0xFE2E, 0xFE2F, 6), (0xFE30, 0xFE44, 0), (0xFE45, 0xFE46, 93), (0xFE47, 0xFE52, 0), (0xFE54, 0xFE66, 0), (0xFE68, 0xFE6B, 0),
  (0xFE70, 0xFE74, 12), (0xFE76, 0xFEFC, 12), (0xFEFF, 0xFEFF, 0), (0xFF01, 0xFF20, 0), (0xFF21, 0xFF3A, 1), (0xFF3B, 0xFF40, 0),
  (0xFF41, 0xFF5A, 1), (0xFF5B, 0xFF60, 0), (0xFF61, 0xFF65, 92), (0xFF66, 0xFF6F, 98), (0xFF70, 0xFF70, 95), (0xFF71, 0xFF9D, 98),
  (0xFF9E, 0xFF9F, 95), (0xFFA0, 0xFFBE, 52), (0xFFC2, 0xFFC7, 52), (0xFFCA, 0xFFCF, 52), (0xFFD2, 0xFFD7, 52), (0xFFDA, 0xFFDC, 52),
  (0xFFE0, 0xFFE6, 0), (0xFFE8, 0xFFEE, 0), (0xFFF9, 0xFFFD, 0), (0x10000, 0x1000B, 121), (0x1000D, 0x10026, 121), (0x10028, 0x1003A, 121),
  (0x1003C, 0x1003D, 121), (0x1003F, 0x1004D, 121), (0x10050, 0x1005D, 121), (0x10080, 0x100FA, 121), (0x10100, 0x10101, 122), (0x10102, 0x10102, 123),
  (0x10107, 0x10133, 124), (0x10137, 0x1013F, 123), (0x10140, 0x1018E, 4), (0x10190, 0x1019C, 0), (0x101A0, 0x101A0, 4), (0x101D0, 0x101FC, 0),
  (0x101FD, 0x101FD, 3), (0x10280, 0x1029C, 125), (0x102A0, 0x102D0, 126), (0x102E0, 0x102FB, 127), (0x10300, 0x10323, 128), (0x1032D, 0x1032F, 128),
  (0x10330, 0x1034A, 129), (0x10350, 0x1037A, 130), (0x10380, 0x1039D, 131), (0x1039F, 0x1039F, 131), (0x103A0, 0x103C3, 132), (0x103C8, 0x103D5, 132),
  (0x10400, 0x1044F, 133), (0x10450, 0x1047F, 134), (0x10480, 0x1049D, 135), (0x104A0, 0x104A9, 135), (0x104B0, 0x104D3, 136), (0x104D8, 0x104FB, 136),
  (0x10500, 0x10527, 137), (0x10530, 0x10563, 138), (0x1056F, 0x1056F, 138), (0x10570, 0x1057A, 139), (0x1057C, 0x1058A, 139), (0x1058C, 0x10592, 139),
  (0x10594, 0x10595, 139), (0x10597, 0x105A1, 139), (0x105A3, 0x105B1, 139), (0x105B3, 0x105B9, 139), (0x105BB, 0x105BC, 139), (0x10600, 0x10736, 140),
  (0x10740, 0x10755, 140), (0x10760, 0x10767, 140), (0x10780, 0x10785, 1), (0x10787, 0x107B0, 1), (0x107B2, 0x107BA, 1), (0x10800, 0x10805, 141),
  (0x10808, 0x10808, 141), (0x1080A, 0x10835, 141), (0x10837, 0x10838, 141), (0x1083C, 0x1083C, 141), (0x1083F, 0x1083F, 141), (0x10840, 0x10855, 142),
  (0x10857, 0x1085F, 142), (0x10860, 0x1087F, 143), (0x10880, 0x1089E, 144), (0x108A7, 0x108AF, 144), (0x108E0, 0x108F2, 145), (0x108F4, 0x108F5, 145),
  (0x108FB, 0x108FF, 145), (0x10900, 0x1091B, 146), (0x1091F, 0x1091F, 146), (0x10920, 0x10939, 147), (0x1093F, 0x1093F, 147), (0x10980, 0x1099F, 148),
  (0x109A0, 0x109B7, 149), (0x109BC, 0x109CF, 149), (0x109D2, 0x109FF, 149), (0x10A00, 0x10A03, 150), (0x10A05, 0x10A06, 150), (0x10A0C, 0x10A13, 150),
  (0x10A15, 0x10A17, 150), (0x10A19, 0x10A35, 150), (0x10A38, 0x10A3A, 150), (0x10A3F, 0x10A48, 150), (0x10A50, 0x10A58, 150), (0x10A60, 0x10A7F, 151),
  (0x10A80, 0x10A9F, 152), (0x10AC0, 0x10AE6, 153), (0x10AEB, 0x10AF1, 153), (0x10AF2, 0x10AF2, 154), (0x10AF3, 0x10AF6, 153), (0x10B00, 0x10B35, 155),
  (0x10B39, 0x10B3F, 155), (0x10B40, 0x10B55, 156), (0x10B58, 0x10B5F, 156), (0x10B60, 0x10B72, 157), (0x10B78, 0x10B7F, 157), (0x10B80, 0x10B91, 158),
  (0x10B99, 0x10B9C, 158), (0x10BA9, 0x10BAF, 158), (0x10C00, 0x10C48, 159), (0x10C80, 0x10CB2, 160), (0x10CC0, 0x10CF2, 160), (0x10CFA, 0x10CFF, 160),
  (0x10D00, 0x10D27, 161), (0x10D30, 0x10D39, 161), (0x10E60, 0x10E7E, 12), (0x10E80, 0x10EA9, 162), (0x10EAB, 0x10EAD, 162), (0x10EB0, 0x10EB1, 162),
  (0x10EFD, 0x10EFF, 12), (0x10F00, 0x10F27, 163), (0x10F30, 0x10F59, 164), (0x10F70, 0x10F89, 165), (0x10FB0, 0x10FCB, 166), (0x10FE0, 0x10FF6, 167),
  (0x11000, 0x1104D, 168), (0x11052, 0x11075, 168), (0x1107F, 0x1107F, 168), (0x11080, 0x110C2, 169), (0x110CD, 0x110CD, 169), (0x110D0, 0x110E8, 170),
  (0x110F0, 0x110F9, 170), (0x11100, 0x11134, 171), (0x11136, 0x11147, 171), (0x11150, 0x11176, 172), (0x11180, 0x111DF, 173), (0x111E1, 0x111F4, 44),
  (0x11200, 0x11211, 174), (0x11213, 0x11241, 174), (0x11280, 0x11286, 175), (0x11288, 0x11288, 175), (0x1128A, 0x1128D, 175), (0x1128F, 0x1129D, 175),
  (0x1129F, 0x112A9, 175), (0x112B0, 0x112EA, 176), (0x112F0, 0x112F9, 176), (0x11300, 0x11300, 177), (0x11301, 0x11301, 39), (0x11302, 0x11302, 177),
  (0x11303, 0x11303, 39), (0x11305, 0x1130C, 177), (0x1130F, 0x11310, 177), (0x11313, 0x11328, 177), (0x1132A, 0x11330, 177), (0x11332, 0x11333, 177),
  (0x11335, 0x11339, 177), (0x1133B, 0x1133C, 39), (0x1133D, 0x11344, 177), (0x11347, 0x11348, 177), (0x1134B, 0x1134D, 177), (0x11350, 0x11350, 177),
  (0x11357, 0x11357, 177), (0x1135D, 0x11363, 177), (0x11366, 0x1136C, 177), (0x11370, 0x11374, 177), (0x11400, 0x1145B, 178), (0x1145D, 0x11461, 178),
  (0x11480, 0x114C7, 179), (0x114D0, 0x114D9, 179), (0x11580, 0x115B5, 180), (0x115B8, 0x115DD, 180), (0x11600, 0x11644, 181), (0x11650, 0x11659, 181),
  (0x11660, 0x1166C, 64), (0x11680, 0x116B9, 182), (0x116C0, 0x116C9, 182), (0x11700, 0x1171A, 183), (0x1171D, 0x1172B, 183), (0x11730, 0x11746, 183),
  (0x11800, 0x1183B, 184), (0x118A0, 0x118F2, 185), (0x118FF, 0x118FF, 185), (0x11900, 0x11906, 186), (0x11909, 0x11909, 186), (0x1190C, 0x11913, 186),
  (0x11915, 0x11916, 186), (0x11918, 0x11935, 186), (0x11937, 0x11938, 186), (0x1193B, 0x11946, 186)]

/-- Entries 800 onwards of `extensionRuns`. -/
def extensionRunsPart2 : Array (Nat × Nat × Nat) := #[
  (0x11950, 0x11959, 186), (0x119A0, 0x119A7, 84), (0x119AA, 0x119D7, 84), (0x119DA, 0x119E4, 84), (0x11A00, 0x11A47, 187), (0x11A50, 0x11AA2, 188),
  (0x11AB0, 0x11ABF, 55), (0x11AC0, 0x11AF8, 189), (0x11B00, 0x11B09, 25), (0x11C00, 0x11C08, 190), (0x11C0A, 0x11C36, 190), (0x11C38, 0x11C45, 190),
  (0x11C50, 0x11C6C, 190), (0x11C70, 0x11C8F, 191), (0x11C92, 0x11CA7, 191), (0x11CA9, 0x11CB6, 191), (0x11D00, 0x11D06, 192), (0x11D08, 0x11D09, 192),
  (0x11D0B, 0x11D36, 192), (0x11D3A, 0x11D3A, 192), (0x11D3C, 0x11D3D, 192), (0x11D3F, 0x11D47, 192), (0x11D50, 0x11D59, 192), (0x11D60, 0x11D65, 193),
  (0x11D67, 0x11D68, 193), (0x11D6A, 0x11D8E, 193), (0x11D90, 0x11D91, 193), (0x11D93, 0x11D98, 193), (0x11DA0, 0x11DA9, 193), (0x11EE0, 0x11EF8, 194),
  (0x11F00, 0x11F10, 195), (0x11F12, 0x11F3A, 195), (0x11F3E, 0x11F59, 195), (0x11FB0, 0x11FB0, 100), (0x11FC0, 0x11FCF, 38), (0x11FD0, 0x11FD1, 39),
  (0x11FD2, 0x11FD2, 38), (0x11FD3, 0x11FD3, 39), (0x11FD4, 0x11FF1, 38), (0x11FFF, 0x11FFF, 38), (0x12000, 0x12399, 196), (0x12400, 0x1246E, 196),
  (0x12470, 0x12474, 196), (0x12480, 0x12543, 196), (0x12F90, 0x12FF2, 197), (0x13000, 0x13455, 198), (0x14400, 0x14646, 199), (0x16800, 0x16A38, 102),
  (0x16A40, 0x16A5E, 200), (0x16A60, 0x16A69, 200), (0x16A6E, 0x16A6F, 200), (0x16A70, 0x16ABE, 201), (0x16AC0, 0x16AC9, 201), (0x16AD0, 0x16AED, 202),
  (0x16AF0, 0x16AF5, 202), (0x16B00, 0x16B45, 203), (0x16B50, 0x16B59, 203), (0x16B5B, 0x16B61, 203), (0x16B63, 0x16B77, 203), (0x16B7D, 0x16B8F, 203),
  (0x16E40, 0x16E9A, 204), (0x16F00, 0x16F4A, 205), (0x16F4F, 0x16F87, 205), (0x16F8F, 0x16F9F, 205), (0x16FE0, 0x16FE0, 206), (0x16FE1, 0x16FE1, 207),
  (0x16FE2, 0x16FE3, 91), (0x16FE4, 0x16FE4, 208), (0x16FF0, 0x16FF1, 91), (0x17000, 0x187F7, 206), (0x18800, 0x18AFF, 206), (0x18B00, 0x18CD5, 208),
  (0x18D00, 0x18D08, 206), (0x1AFF0, 0x1AFF3, 98), (0x1AFF5, 0x1AFFB, 98), (0x1AFFD, 0x1AFFE, 98), (0x1B000, 0x1B000, 98), (0x1B001, 0x1B11F, 97),
  (0x1B120, 0x1B122, 98), (0x1B132, 0x1B132, 97), (0x1B150, 0x1B152, 97), (0x1B155, 0x1B155, 98), (0x1B164, 0x1B167, 98), (0x1B170, 0x1B2FB, 207),
  (0x1BC00, 0x1BC6A, 209), (0x1BC70, 0x1BC7C, 209), (0x1BC80, 0x1BC88, 209), (0x1BC90, 0x1BC99, 209), (0x1BC9C, 0x1BCA3, 209), (0x1CF00, 0x1CF2D, 3),
  (0x1CF30, 0x1CF46, 3), (0x1CF50, 0x1CFC3, 0), (0x1D000, 0x1D0F5, 0), (0x1D100, 0x1D126, 0), (0x1D129, 0x1D166, 0), (0x1D167, 0x1D169, 3),
  (0x1D16A, 0x1D17A, 0), (0x1D17B, 0x1D182, 3), (0x1D183, 0x1D184, 0), (0x1D185, 0x1D18B, 3), (0x1D18C, 0x1D1A9, 0), (0x1D1AA, 0x1D1AD, 3),
  (0x1D1AE, 0x1D1EA, 0), (0x1D200, 0x1D245, 4), (0x1D2C0, 0x1D2D3, 0), (0x1D2E0, 0x1D2F3, 0), (0x1D300, 0x1D356, 0), (0x1D360, 0x1D371, 91),
  (0x1D372, 0x1D378, 0), (0x1D400, 0x1D454, 0), (0x1D456, 0x1D49C, 0), (0x1D49E, 0x1D49F, 0), (0x1D4A2, 0x1D4A2, 0), (0x1D4A5, 0x1D4A6, 0),
  (0x1D4A9, 0x1D4AC, 0), (0x1D4AE, 0x1D4B9, 0), (0x1D4BB, 0x1D4BB, 0), (0x1D4BD, 0x1D4C3, 0), (0x1D4C5, 0x1D505, 0), (0x1D507, 0x1D50A, 0),
  (0x1D50D, 0x1D514, 0), (0x1D516, 0x1D51C, 0), (0x1D51E, 0x1D539, 0), (0x1D53B, 0x1D53E, 0), (0x1D540, 0x1D544, 0), (0x1D546, 0x1D546, 0),
  (0x1D54A, 0x1D550, 0), (0x1D552, 0x1D6A5, 0), (0x1D6A8, 0x1D7CB, 0), (0x1D7CE, 0x1D7FF, 0), (0x1D800, 0x1DA8B, 210), (0x1DA9B, 0x1DA9F, 210),
  (0x1DAA1, 0x1DAAF, 210), (0x1DF00, 0x1DF1E, 1), (0x1DF25, 0x1DF2A, 1), (0x1E000, 0x1E006, 89), (0x1E008, 0x1E018, 89), (0x1E01B, 0x1E021, 89),
  (0x1E023, 0x1E024, 89), (0x1E026, 0x1E02A, 89), (0x1E030, 0x1E06D, 6), (0x1E08F, 0x1E08F, 6), (0x1E100, 0x1E12C, 211), (0x1E130, 0x1E13D, 211),
  (0x1E140, 0x1E149, 211), (0x1E14E, 0x1E14F, 211), (0x1E290, 0x1E2AE, 212), (0x1E2C0, 0x1E2F9, 213), (0x1E2FF, 0x1E2FF, 213), (0x1E4D0, 0x1E4F9, 214),
  (0x1E7E0, 0x1E7E6, 53), (0x1E7E8, 0x1E7EB, 53), (0x1E7ED, 0x1E7EE, 53), (0x1E7F0, 0x1E7FE, 53), (0x1E800, 0x1E8C4, 215), (0x1E8C7, 0x1E8D6, 215),
  (0x1E900, 0x1E94B, 216), (0x1E950, 0x1E959, 216), (0x1E95E, 0x1E95F, 216), (0x1EC71, 0x1ECB4, 0), (0x1ED01, 0x1ED3D, 0), (0x1EE00, 0x1EE03, 12),
  (0x1EE05, 0x1EE1F, 12), (0x1EE21, 0x1EE22, 12), (0x1EE24, 0x1EE24, 12), (0x1EE27, 0x1EE27, 12), (0x1EE29, 0x1EE32, 12), (0x1EE34, 0x1EE37, 12),
  (0x1EE39, 0x1EE39, 12), (0x1EE3B, 0x1EE3B, 12), (0x1EE42, 0x1EE42, 12), (0x1EE47, 0x1EE47, 12), (0x1EE49, 0x1EE49, 12), (0x1EE4B, 0x1EE4B, 12),
  (0x1EE4D, 0x1EE4F, 12), (0x1EE51, 0x1EE52, 12), (0x1EE54, 0x1EE54, 12), (0x1EE57, 0x1EE57, 12), (0x1EE59, 0x1EE59, 12), (0x1EE5B, 0x1EE5B, 12),
  (0x1EE5D, 0x1EE5D, 12), (0x1EE5F, 0x1EE5F, 12), (0x1EE61, 0x1EE62, 12), (0x1EE64, 0x1EE64, 12), (0x1EE67, 0x1EE6A, 12), (0x1EE6C, 0x1EE72, 12),
  (0x1EE74, 0x1EE77, 12), (0x1EE79, 0x1EE7C, 12), (0x1EE7E, 0x1EE7E, 12), (0x1EE80, 0x1EE89, 12), (0x1EE8B, 0x1EE9B, 12), (0x1EEA1, 0x1EEA3, 12),
  (0x1EEA5, 0x1EEA9, 12), (0x1EEAB, 0x1EEBB, 12), (0x1EEF0, 0x1EEF1, 12), (0x1F000, 0x1F02B, 0), (0x1F030, 0x1F093, 0), (0x1F0A0, 0x1F0AE, 0),
  (0x1F0B1, 0x1F0BF, 0), (0x1F0C1, 0x1F0CF, 0), (0x1F0D1, 0x1F0F5, 0), (0x1F100, 0x1F1AD, 0), (0x1F1E6, 0x1F1FF, 0), (0x1F200, 0x1F200, 97),
  (0x1F201, 0x1F202, 0), (0x1F210, 0x1F23B, 0), (0x1F240, 0x1F248, 0), (0x1F250, 0x1F251, 91), (0x1F260, 0x1F265, 0), (0x1F300, 0x1F6D7, 0),
  (0x1F6DC, 0x1F6EC, 0), (0x1F6F0, 0x1F6FC, 0), (0x1F700, 0x1F776, 0), (0x1F77B, 0x1F7D9, 0), (0x1F7E0, 0x1F7EB, 0), (0x1F7F0, 0x1F7F0, 0),
  (0x1F800, 0x1F80B, 0), (0x1F810, 0x1F847, 0), (0x1F850, 0x1F859, 0), (0x1F860, 0x1F887, 0), (0x1F890, 0x1F8AD, 0), (0x1F8B0, 0x1F8B1, 0),
  (0x1F900, 0x1FA53, 0), (0x1FA60, 0x1FA6D, 0), (0x1FA70, 0x1FA7C, 0), (0x1FA80, 0x1FA88, 0), (0x1FA90, 0x1FABD, 0), (0x1FABF, 0x1FAC5, 0),
  (0x1FACE, 0x1FADB, 0), (0x1FAE0, 0x1FAE8, 0), (0x1FAF0, 0x1FAF8, 0), (0x1FB00, 0x1FB92, 0), (0x1FB94, 0x1FBCA, 0), (0x1FBF0, 0x1FBF9, 0),
  (0x20000, 0x2A6DF, 91), (0x2A700, 0x2B739, 91), (0x2B740, 0x2B81D, 91), (0x2B820, 0x2CEA1, 91), (0x2CEB0, 0x2EBE0, 91), (0x2F800, 0x2FA1D, 91),
  (0x30000, 0x3134A, 91), (0x31350, 0x323AF, 91), (0xE0001, 0xE0001, 0), (0xE0020, 0xE007F, 0), (0xE0100, 0xE01EF, 3)]

/-- Runs of code points with one list of script extensions: first, last and the list's index. -/
def extensionRuns : Array (Nat × Nat × Nat) :=
  extensionRunsPart0 ++ extensionRunsPart1 ++ extensionRunsPart2

/-- The index of the script a loosely written name names. -/
def scriptIndex? (name : String) : Option Nat :=
  (List.range scriptNames.size).find? fun i => (scriptNames.getD i []).contains name

/-- The ranges of the script with the given index, sorted. -/
def scriptRanges (index : Nat) : Array (Nat × Nat) :=
  scriptRuns.filterMap fun (lo, hi, i) => if i = index then some (lo, hi) else none

/-- The ranges of the code points whose script extensions include the script with the given
index, sorted. -/
def extensionRanges (index : Nat) : Array (Nat × Nat) :=
  extensionRuns.filterMap fun (lo, hi, i) =>
    if (extensionLists.getD i []).contains index then some (lo, hi) else none

end RuleRouting.Text
