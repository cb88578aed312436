import TypeGuard.Pattern.Property.Named

/-!
Characters of Unicode 16 that are used with several scripts.
-/

namespace TypeGuard.Pattern.Property

/-- Characters of other scripts that also serve the scripts with long names from A to F. -/
def sharedAToF : List Named :=
  [⟨["adlm", "adlam"], ⟨[(0x61F, 0x61F), (0x640, 0x640), (0x204F, 0x204F), (0x2E41, 0x2E41)]⟩⟩,
   ⟨["arab", "arabic"], ⟨
    [(0x60C, 0x60C), (0x61B, 0x61B), (0x61F, 0x61F), (0x640, 0x640), (0x64B, 0x655),
     (0x670, 0x670), (0x204F, 0x204F), (0x2E41, 0x2E41), (0xFD3E, 0xFD3F), (0x102E0, 0x102FB)]⟩⟩,
   ⟨["armn", "armenian"], ⟨[(0x308, 0x308)]⟩⟩,
   ⟨["avst", "avestan"], ⟨[(0xB7, 0xB7), (0x2E30, 0x2E31)]⟩⟩,
   ⟨["beng", "bengali"], ⟨
    [(0x2BC, 0x2BC), (0x951, 0x952), (0x964, 0x965), (0x1CD0, 0x1CD0), (0x1CD2, 0x1CD2),
     (0x1CD5, 0x1CD6), (0x1CD8, 0x1CD8), (0x1CE1, 0x1CE1), (0x1CEA, 0x1CEA), (0x1CED, 0x1CED),
     (0x1CF2, 0x1CF2), (0x1CF5, 0x1CF7), (0xA8F1, 0xA8F1)]⟩⟩,
   ⟨["bopo", "bopomofo"], ⟨
    [(0x2C7, 0x2C7), (0x2C9, 0x2CB), (0x2D9, 0x2D9), (0x3001, 0x3003), (0x3008, 0x3011),
     (0x3013, 0x301F), (0x302A, 0x302D), (0x3030, 0x3030), (0x3037, 0x3037), (0x30FB, 0x30FB),
     (0xFE45, 0xFE46), (0xFF61, 0xFF65)]⟩⟩,
   ⟨["bugi", "buginese"], ⟨[(0xA9CF, 0xA9CF)]⟩⟩,
   ⟨["buhd", "buhid"], ⟨[(0x1735, 0x1736)]⟩⟩,
   ⟨["cari", "carian"], ⟨[(0xB7, 0xB7), (0x205A, 0x205A), (0x205D, 0x205D), (0x2E31, 0x2E31)]⟩⟩,
   ⟨["aghb", "caucasianalbanian"], ⟨[(0x304, 0x304), (0x331, 0x331), (0x35E, 0x35E)]⟩⟩,
   ⟨["cakm", "chakma"], ⟨[(0x9E6, 0x9EF), (0x1040, 0x1049)]⟩⟩,
   ⟨["cher", "cherokee"], ⟨
    [(0x300, 0x302), (0x304, 0x304), (0x30B, 0x30C), (0x323, 0x324), (0x330, 0x331)]⟩⟩,
   ⟨["copt", "qaac", "coptic"], ⟨
    [(0xB7, 0xB7), (0x300, 0x300), (0x304, 0x305), (0x307, 0x307), (0x374, 0x375),
     (0x2E17, 0x2E17), (0x102E0, 0x102FB)]⟩⟩,
   ⟨["cprt", "cypriot"], ⟨[(0x10100, 0x10102), (0x10107, 0x10133), (0x10137, 0x1013F)]⟩⟩,
   ⟨["cpmn", "cyprominoan"], ⟨[(0x10100, 0x10101)]⟩⟩,
   ⟨["cyrl", "cyrillic"], ⟨
    [(0x2BC, 0x2BC), (0x300, 0x302), (0x304, 0x304), (0x306, 0x306), (0x308, 0x308),
     (0x30B, 0x30B), (0x311, 0x311), (0x485, 0x486), (0x1DF8, 0x1DF8), (0x2E43, 0x2E43)]⟩⟩,
   ⟨["deva", "devanagari"], ⟨
    [(0x2BC, 0x2BC), (0x951, 0x952), (0x964, 0x965), (0x1CD0, 0x1CF6), (0x1CF8, 0x1CF9),
     (0x20F0, 0x20F0), (0xA830, 0xA839)]⟩⟩,
   ⟨["dogr", "dogra"], ⟨[(0x964, 0x96F), (0xA830, 0xA839)]⟩⟩,
   ⟨["dupl", "duployan"], ⟨
    [(0xB7, 0xB7), (0x307, 0x308), (0x30A, 0x30A), (0x323, 0x324), (0x2E3C, 0x2E3C),
     (0x1BCA0, 0x1BCA3)]⟩⟩,
   ⟨["elba", "elbasan"], ⟨[(0xB7, 0xB7), (0x305, 0x305)]⟩⟩,
   ⟨["ethi", "ethiopic"], ⟨[(0x30E, 0x30E)]⟩⟩]

/-- Characters of other scripts that also serve the scripts with long names from G to K. -/
def sharedGToK : List Named :=
  [⟨["gara", "garay"], ⟨[(0x60C, 0x60C), (0x61B, 0x61B), (0x61F, 0x61F)]⟩⟩,
   ⟨["geor", "georgian"], ⟨
    [(0xB7, 0xB7), (0x589, 0x589), (0x10FB, 0x10FB), (0x205A, 0x205A), (0x2E31, 0x2E31)]⟩⟩,
   ⟨["glag", "glagolitic"], ⟨
    [(0xB7, 0xB7), (0x303, 0x303), (0x305, 0x305), (0x484, 0x484), (0x487, 0x487), (0x589, 0x589),
     (0x10FB, 0x10FB), (0x205A, 0x205A), (0x2E43, 0x2E43), (0xA66F, 0xA66F)]⟩⟩,
   ⟨["goth", "gothic"], ⟨[(0xB7, 0xB7), (0x304, 0x305), (0x308, 0x308), (0x331, 0x331)]⟩⟩,
   ⟨["gran", "grantha"], ⟨
    [(0x951, 0x952), (0x964, 0x965), (0xBE6, 0xBF3), (0x1CD0, 0x1CD0), (0x1CD2, 0x1CD3),
     (0x1CF2, 0x1CF4), (0x1CF8, 0x1CF9), (0x20F0, 0x20F0), (0x1133B, 0x1133B), (0x11FD0, 0x11FD1),
     (0x11FD3, 0x11FD3)]⟩⟩,
   ⟨["grek", "greek"], ⟨
    [(0xB7, 0xB7), (0x300, 0x301), (0x304, 0x304), (0x306, 0x306), (0x308, 0x308), (0x313, 0x313),
     (0x342, 0x342), (0x345, 0x345), (0x374, 0x374), (0x1DC0, 0x1DC1), (0x205D, 0x205D)]⟩⟩,
   ⟨["gujr", "gujarati"], ⟨[(0x951, 0x952), (0x964, 0x965), (0xA830, 0xA839)]⟩⟩,
   ⟨["gong", "gunjalagondi"], ⟨[(0xB7, 0xB7), (0x964, 0x965)]⟩⟩,
   ⟨["guru", "gurmukhi"], ⟨[(0x951, 0x952), (0x964, 0x965), (0xA830, 0xA839)]⟩⟩,
   ⟨["gukh", "gurungkhema"], ⟨[(0x965, 0x965)]⟩⟩,
   ⟨["han", "hani"], ⟨
    [(0xB7, 0xB7), (0x2FF0, 0x2FFF), (0x3001, 0x3003), (0x3006, 0x3006), (0x3008, 0x3011),
     (0x3013, 0x301F), (0x302A, 0x302D), (0x3030, 0x3030), (0x3037, 0x3037), (0x303C, 0x303F),
     (0x30FB, 0x30FB), (0x3190, 0x319F), (0x31C0, 0x31E5), (0x31EF, 0x31EF), (0x3220, 0x3247),
     (0x3280, 0x32B0), (0x32C0, 0x32CB), (0x32FF, 0x32FF), (0x3358, 0x3370), (0x337B, 0x337F),
     (0x33E0, 0x33FE), (0xA700, 0xA707), (0xFE45, 0xFE46), (0xFF61, 0xFF65), (0x1D360, 0x1D371),
     (0x1F250, 0x1F251)]⟩⟩,
   ⟨["hang", "hangul"], ⟨
    [(0x3001, 0x3003), (0x3008, 0x3011), (0x3013, 0x301F), (0x3030, 0x3030), (0x3037, 0x3037),
     (0x30FB, 0x30FB), (0xFE45, 0xFE46), (0xFF61, 0xFF65)]⟩⟩,
   ⟨["rohg", "hanifirohingya"], ⟨
    [(0x60C, 0x60C), (0x61B, 0x61B), (0x61F, 0x61F), (0x640, 0x640), (0x6D4, 0x6D4)]⟩⟩,
   ⟨["hano", "hanunoo"], ⟨[(0x1735, 0x1736)]⟩⟩,
   ⟨["hebr", "hebrew"], ⟨[(0x307, 0x308)]⟩⟩,
   ⟨["hira", "hiragana"], ⟨
    [(0x3001, 0x3003), (0x3008, 0x3011), (0x3013, 0x301F), (0x3030, 0x3035), (0x3037, 0x3037),
     (0x303C, 0x303D), (0x3099, 0x309C), (0x30A0, 0x30A0), (0x30FB, 0x30FC), (0xFE45, 0xFE46),
     (0xFF61, 0xFF65), (0xFF70, 0xFF70), (0xFF9E, 0xFF9F)]⟩⟩,
   ⟨["java", "javanese"], ⟨[(0xA9CF, 0xA9CF)]⟩⟩,
   ⟨["kthi", "kaithi"], ⟨[(0x966, 0x96F), (0x2E31, 0x2E31), (0xA830, 0xA839)]⟩⟩,
   ⟨["knda", "kannada"], ⟨
    [(0x951, 0x952), (0x964, 0x965), (0x1CD0, 0x1CD0), (0x1CD2, 0x1CD3), (0x1CDA, 0x1CDA),
     (0x1CF2, 0x1CF2), (0x1CF4, 0x1CF4), (0xA830, 0xA835)]⟩⟩,
   ⟨["kana", "katakana"], ⟨
    [(0x305, 0x305), (0x323, 0x323), (0x3001, 0x3003), (0x3008, 0x3011), (0x3013, 0x301F),
     (0x3030, 0x3035), (0x3037, 0x3037), (0x303C, 0x303D), (0x3099, 0x309C), (0x30A0, 0x30A0),
     (0x30FB, 0x30FC), (0xFE45, 0xFE46), (0xFF61, 0xFF65), (0xFF70, 0xFF70), (0xFF9E, 0xFF9F)]⟩⟩,
   ⟨["kali", "kayahli"], ⟨[(0xA92E, 0xA92E)]⟩⟩,
   ⟨["khoj", "khojki"], ⟨[(0xAE6, 0xAEF), (0xA830, 0xA839)]⟩⟩,
   ⟨["sind", "khudawadi"], ⟨[(0x964, 0x965), (0xA830, 0xA839)]⟩⟩]

/-- Characters of other scripts that also serve the scripts with long names from L to N. -/
def sharedLToN : List Named :=
  [⟨["latn", "latin"], ⟨
    [(0xB7, 0xB7), (0x2BC, 0x2BC), (0x2C7, 0x2C7), (0x2C9, 0x2CB), (0x2CD, 0x2CD), (0x2D7, 0x2D7),
     (0x2D9, 0x2D9), (0x300, 0x30E), (0x310, 0x311), (0x313, 0x313), (0x320, 0x320),
     (0x323, 0x325), (0x32D, 0x32E), (0x330, 0x331), (0x358, 0x358), (0x35E, 0x35E),
     (0x363, 0x36F), (0x485, 0x486), (0x951, 0x952), (0x10FB, 0x10FB), (0x1DF8, 0x1DF8),
     (0x202F, 0x202F), (0x20F0, 0x20F0), (0x2E17, 0x2E17), (0xA700, 0xA707), (0xA92E, 0xA92E)]⟩⟩,
   ⟨["limb", "limbu"], ⟨[(0x965, 0x965)]⟩⟩,
   ⟨["lina", "lineara"], ⟨[(0x10107, 0x10133)]⟩⟩,
   ⟨["linb", "linearb"], ⟨[(0x10100, 0x10102), (0x10107, 0x10133), (0x10137, 0x1013F)]⟩⟩,
   ⟨["lisu"], ⟨[(0x2BC, 0x2BC), (0x2CD, 0x2CD), (0x300A, 0x300B)]⟩⟩,
   ⟨["lyci", "lycian"], ⟨[(0x205A, 0x205A)]⟩⟩,
   ⟨["lydi", "lydian"], ⟨[(0xB7, 0xB7), (0x2E31, 0x2E31)]⟩⟩,
   ⟨["mahj", "mahajani"], ⟨[(0xB7, 0xB7), (0x964, 0x96F), (0xA830, 0xA839)]⟩⟩,
   ⟨["mlym", "malayalam"], ⟨
    [(0x951, 0x952), (0x964, 0x965), (0x1CDA, 0x1CDA), (0x1CF2, 0x1CF2), (0xA830, 0xA832)]⟩⟩,
   ⟨["mand", "mandaic"], ⟨[(0x640, 0x640)]⟩⟩,
   ⟨["mani", "manichaean"], ⟨[(0x640, 0x640)]⟩⟩,
   ⟨["gonm", "masaramgondi"], ⟨[(0x964, 0x965)]⟩⟩,
   ⟨["mero", "meroitichieroglyphs"], ⟨[(0x205D, 0x205D)]⟩⟩,
   ⟨["modi"], ⟨[(0xA830, 0xA839)]⟩⟩,
   ⟨["mong", "mongolian"], ⟨
    [(0x1802, 0x1803), (0x1805, 0x1805), (0x202F, 0x202F), (0x3001, 0x3002), (0x3008, 0x300B)]⟩⟩,
   ⟨["mult", "multani"], ⟨[(0xA66, 0xA6F)]⟩⟩,
   ⟨["mymr", "myanmar"], ⟨[(0xA92E, 0xA92E)]⟩⟩,
   ⟨["nand", "nandinagari"], ⟨
    [(0x964, 0x965), (0xCE6, 0xCEF), (0x1CE9, 0x1CE9), (0x1CF2, 0x1CF2), (0x1CFA, 0x1CFA),
     (0xA830, 0xA835)]⟩⟩,
   ⟨["nko", "nkoo"], ⟨[(0x60C, 0x60C), (0x61B, 0x61B), (0x61F, 0x61F), (0xFD3E, 0xFD3F)]⟩⟩]

/-- Characters of other scripts that also serve the scripts with long names from O to S. -/
def sharedOToS : List Named :=
  [⟨["onao", "olonal"], ⟨[(0x964, 0x965)]⟩⟩,
   ⟨["hung", "oldhungarian"], ⟨
    [(0x205A, 0x205A), (0x205D, 0x205D), (0x2E31, 0x2E31), (0x2E41, 0x2E41)]⟩⟩,
   ⟨["perm", "oldpermic"], ⟨
    [(0xB7, 0xB7), (0x300, 0x300), (0x306, 0x308), (0x313, 0x313), (0x483, 0x483)]⟩⟩,
   ⟨["orkh", "oldturkic"], ⟨[(0x205A, 0x205A), (0x2E30, 0x2E30)]⟩⟩,
   ⟨["ougr", "olduyghur"], ⟨[(0x640, 0x640), (0x10AF2, 0x10AF2)]⟩⟩,
   ⟨["orya", "oriya"], ⟨[(0x951, 0x952), (0x964, 0x965), (0x1CDA, 0x1CDA), (0x1CF2, 0x1CF2)]⟩⟩,
   ⟨["osge", "osage"], ⟨[(0x301, 0x301), (0x304, 0x304), (0x30B, 0x30B), (0x358, 0x358)]⟩⟩,
   ⟨["phag", "phagspa"], ⟨
    [(0x1802, 0x1803), (0x1805, 0x1805), (0x202F, 0x202F), (0x3002, 0x3002)]⟩⟩,
   ⟨["phlp", "psalterpahlavi"], ⟨[(0x640, 0x640)]⟩⟩,
   ⟨["runr", "runic"], ⟨[(0x16EB, 0x16ED)]⟩⟩,
   ⟨["samr", "samaritan"], ⟨[(0x2E31, 0x2E31)]⟩⟩,
   ⟨["shrd", "sharada"], ⟨
    [(0x951, 0x951), (0x1CD7, 0x1CD7), (0x1CD9, 0x1CD9), (0x1CDC, 0x1CDD), (0x1CE0, 0x1CE0),
     (0xA830, 0xA835), (0xA838, 0xA838)]⟩⟩,
   ⟨["shaw", "shavian"], ⟨[(0xB7, 0xB7)]⟩⟩,
   ⟨["sinh", "sinhala"], ⟨[(0x964, 0x965), (0x1CF2, 0x1CF2)]⟩⟩,
   ⟨["sogd", "sogdian"], ⟨[(0x640, 0x640)]⟩⟩,
   ⟨["sunu", "sunuwar"], ⟨
    [(0x300, 0x301), (0x303, 0x303), (0x30D, 0x30D), (0x310, 0x310), (0x32D, 0x32D),
     (0x331, 0x331)]⟩⟩,
   ⟨["sylo", "sylotinagri"], ⟨[(0x964, 0x965), (0x9E6, 0x9EF)]⟩⟩,
   ⟨["syrc", "syriac"], ⟨
    [(0x303, 0x304), (0x307, 0x308), (0x30A, 0x30A), (0x320, 0x320), (0x323, 0x325),
     (0x32D, 0x32E), (0x330, 0x330), (0x60C, 0x60C), (0x61B, 0x61C), (0x61F, 0x61F),
     (0x640, 0x640), (0x64B, 0x655), (0x670, 0x670), (0x1DF8, 0x1DF8), (0x1DFA, 0x1DFA)]⟩⟩]

/-- Characters of other scripts that also serve the scripts with long names from T to Z. -/
def sharedTToZ : List Named :=
  [⟨["tglg", "tagalog"], ⟨[(0x1735, 0x1736)]⟩⟩,
   ⟨["tagb", "tagbanwa"], ⟨[(0x1735, 0x1736)]⟩⟩,
   ⟨["tale", "taile"], ⟨[(0x300, 0x301), (0x307, 0x308), (0x30C, 0x30C), (0x1040, 0x1049)]⟩⟩,
   ⟨["takr", "takri"], ⟨[(0x964, 0x965), (0xA830, 0xA839)]⟩⟩,
   ⟨["taml", "tamil"], ⟨
    [(0x951, 0x952), (0x964, 0x965), (0x1CDA, 0x1CDA), (0xA8F3, 0xA8F3), (0x11301, 0x11301),
     (0x11303, 0x11303), (0x1133B, 0x1133C)]⟩⟩,
   ⟨["tang", "tangut"], ⟨[(0x2FF0, 0x2FFF), (0x31EF, 0x31EF)]⟩⟩,
   ⟨["telu", "telugu"], ⟨[(0x951, 0x952), (0x964, 0x965), (0x1CDA, 0x1CDA), (0x1CF2, 0x1CF2)]⟩⟩,
   ⟨["thaa", "thaana"], ⟨
    [(0x60C, 0x60C), (0x61B, 0x61C), (0x61F, 0x61F), (0x660, 0x669), (0xFDF2, 0xFDF2),
     (0xFDFD, 0xFDFD)]⟩⟩,
   ⟨["thai"], ⟨[(0x2BC, 0x2BC), (0x2D7, 0x2D7), (0x303, 0x303), (0x331, 0x331)]⟩⟩,
   ⟨["tibt", "tibetan"], ⟨[(0x3008, 0x300B)]⟩⟩,
   ⟨["tfng", "tifinagh"], ⟨[(0x302, 0x302), (0x304, 0x304), (0x307, 0x307), (0x309, 0x309)]⟩⟩,
   ⟨["tirh", "tirhuta"], ⟨[(0x951, 0x952), (0x964, 0x965), (0x1CF2, 0x1CF2), (0xA830, 0xA839)]⟩⟩,
   ⟨["todr", "todhri"], ⟨
    [(0x301, 0x301), (0x304, 0x304), (0x307, 0x307), (0x311, 0x311), (0x313, 0x313),
     (0x35E, 0x35E)]⟩⟩,
   ⟨["toto"], ⟨[(0x2BC, 0x2BC)]⟩⟩,
   ⟨["tutg", "tulutigalari"], ⟨
    [(0xCE6, 0xCEF), (0x1CF2, 0x1CF2), (0x1CF4, 0x1CF4), (0xA830, 0xA835), (0xA8F1, 0xA8F1)]⟩⟩,
   ⟨["yezi", "yezidi"], ⟨[(0x60C, 0x60C), (0x61B, 0x61B), (0x61F, 0x61F), (0x660, 0x669)]⟩⟩,
   ⟨["yi", "yiii"], ⟨
    [(0x3001, 0x3002), (0x3008, 0x3011), (0x3014, 0x301B), (0x30FB, 0x30FB), (0xFF61, 0xFF65)]⟩⟩]

/-- Characters common to several scripts of which the ones that use them are known. -/
def sharedCommon : CharSet :=
  ⟨[(0xB7, 0xB7), (0x2BC, 0x2BC), (0x2C7, 0x2C7), (0x2C9, 0x2CB), (0x2CD, 0x2CD), (0x2D7, 0x2D7),
    (0x2D9, 0x2D9), (0x374, 0x374), (0x60C, 0x60C), (0x61B, 0x61B), (0x61F, 0x61F), (0x640, 0x640),
    (0x964, 0x965), (0x10FB, 0x10FB), (0x16EB, 0x16ED), (0x1735, 0x1736), (0x1802, 0x1803),
    (0x1805, 0x1805), (0x1CD3, 0x1CD3), (0x1CE1, 0x1CE1), (0x1CE9, 0x1CEC), (0x1CEE, 0x1CF3),
    (0x1CF5, 0x1CF7), (0x1CFA, 0x1CFA), (0x202F, 0x202F), (0x204F, 0x204F), (0x205A, 0x205A),
    (0x205D, 0x205D), (0x2E17, 0x2E17), (0x2E30, 0x2E31), (0x2E3C, 0x2E3C), (0x2E41, 0x2E41),
    (0x2E43, 0x2E43), (0x2FF0, 0x2FFF), (0x3001, 0x3003), (0x3006, 0x3006), (0x3008, 0x3011),
    (0x3013, 0x301F), (0x3030, 0x3035), (0x3037, 0x3037), (0x303C, 0x303F), (0x309B, 0x309C),
    (0x30A0, 0x30A0), (0x30FB, 0x30FC), (0x3190, 0x319F), (0x31C0, 0x31E5), (0x31EF, 0x31EF),
    (0x3220, 0x3247), (0x3280, 0x32B0), (0x32C0, 0x32CB), (0x32FF, 0x32FF), (0x3358, 0x3370),
    (0x337B, 0x337F), (0x33E0, 0x33FE), (0xA700, 0xA707), (0xA830, 0xA839), (0xA92E, 0xA92E),
    (0xA9CF, 0xA9CF), (0xFD3E, 0xFD3F), (0xFE45, 0xFE46), (0xFF61, 0xFF65), (0xFF70, 0xFF70),
    (0xFF9E, 0xFF9F), (0x10100, 0x10102), (0x10107, 0x10133), (0x10137, 0x1013F),
    (0x102E1, 0x102FB), (0x1BCA0, 0x1BCA3), (0x1D360, 0x1D371), (0x1F250, 0x1F251)]⟩

/-- Inheriting characters of which the scripts that use them are known. -/
def sharedInherited : CharSet :=
  ⟨[(0x300, 0x30E), (0x310, 0x311), (0x313, 0x313), (0x320, 0x320), (0x323, 0x325), (0x32D, 0x32E),
    (0x330, 0x331), (0x342, 0x342), (0x345, 0x345), (0x358, 0x358), (0x35E, 0x35E), (0x363, 0x36F),
    (0x485, 0x486), (0x64B, 0x655), (0x670, 0x670), (0x951, 0x952), (0x1CD0, 0x1CD2),
    (0x1CD4, 0x1CE0), (0x1CE2, 0x1CE8), (0x1CED, 0x1CED), (0x1CF4, 0x1CF4), (0x1CF8, 0x1CF9),
    (0x1DC0, 0x1DC1), (0x1DF8, 0x1DF8), (0x1DFA, 0x1DFA), (0x20F0, 0x20F0), (0x302A, 0x302D),
    (0x3099, 0x309A), (0x102E0, 0x102E0), (0x1133B, 0x1133B)]⟩

/-- Characters that a script shares with others, by the names of the script. -/
def shared : List Named :=
  sharedAToF ++ sharedGToK ++ sharedLToN ++ sharedOToS ++ sharedTToZ

end TypeGuard.Pattern.Property
