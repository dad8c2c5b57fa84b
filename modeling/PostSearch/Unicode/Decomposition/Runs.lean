import PostSearch.Unicode.CodeRange

/-! # Decompositions in runs

Consecutive characters whose decompositions are single consecutive characters: full-width and
mathematical letters, circled letters, half-width forms. -/

namespace PostSearch.Unicode

/-- Runs of characters that stand for one other character each, ascending. -/
def decompositionRuns : List CodeRun := [
  ⟨0x00B2, 0x00B3, 1, 0x32⟩, ⟨0x0340, 0x0341, 1, 0x0300⟩, ⟨0x03F1, 0x03F2, 1, 0x03C1⟩,
  ⟨0x1D30, 0x1D31, 1, 0x44⟩, ⟨0x1D33, 0x1D3A, 1, 0x47⟩, ⟨0x1D40, 0x1D41, 1, 0x54⟩,
  ⟨0x1D44, 0x1D45, 1, 0x0250⟩, ⟨0x1D48, 0x1D49, 1, 0x64⟩, ⟨0x1D4B, 0x1D4C, 1, 0x025B⟩,
  ⟨0x1D54, 0x1D55, 1, 0x1D16⟩, ⟨0x1D57, 0x1D58, 1, 0x74⟩, ⟨0x1D5D, 0x1D5F, 1, 0x03B2⟩,
  ⟨0x1D60, 0x1D61, 1, 0x03C6⟩, ⟨0x1D64, 0x1D65, 1, 0x75⟩, ⟨0x1D66, 0x1D67, 1, 0x03B2⟩,
  ⟨0x1D69, 0x1D6A, 1, 0x03C6⟩, ⟨0x1DA4, 0x1DA6, 1, 0x0268⟩, ⟨0x1DAE, 0x1DB1, 1, 0x0272⟩,
  ⟨0x1DB3, 0x1DB4, 1, 0x0282⟩, ⟨0x1DB6, 0x1DB7, 1, 0x0289⟩, ⟨0x1DB9, 0x1DBA, 1, 0x028B⟩,
  ⟨0x1DBC, 0x1DBE, 1, 0x0290⟩, ⟨0x2074, 0x2079, 1, 0x34⟩, ⟨0x207D, 0x207E, 1, 0x28⟩,
  ⟨0x2080, 0x2089, 1, 0x30⟩, ⟨0x208D, 0x208E, 1, 0x28⟩, ⟨0x2096, 0x2099, 1, 0x6B⟩,
  ⟨0x209B, 0x209C, 1, 0x73⟩, ⟨0x2119, 0x211B, 1, 0x50⟩, ⟨0x212C, 0x212D, 1, 0x42⟩,
  ⟨0x2130, 0x2131, 1, 0x45⟩, ⟨0x2135, 0x2138, 1, 0x05D0⟩, ⟨0x2146, 0x2147, 1, 0x64⟩,
  ⟨0x2148, 0x2149, 1, 0x69⟩, ⟨0x216D, 0x216E, 1, 0x43⟩, ⟨0x217D, 0x217E, 1, 0x63⟩,
  ⟨0x2329, 0x232A, 1, 0x3008⟩, ⟨0x2460, 0x2468, 1, 0x31⟩, ⟨0x24B6, 0x24CF, 1, 0x41⟩,
  ⟨0x24D0, 0x24E9, 1, 0x61⟩, ⟨0x3039, 0x303A, 1, 0x5344⟩, ⟨0x3131, 0x3132, 1, 0x1100⟩,
  ⟨0x3135, 0x3136, 1, 0x11AC⟩, ⟨0x3137, 0x3139, 1, 0x1103⟩, ⟨0x313A, 0x313F, 1, 0x11B0⟩,
  ⟨0x3141, 0x3143, 1, 0x1106⟩, ⟨0x3145, 0x314E, 1, 0x1109⟩, ⟨0x314F, 0x3163, 1, 0x1161⟩,
  ⟨0x3165, 0x3166, 1, 0x1114⟩, ⟨0x3167, 0x3168, 1, 0x11C7⟩, ⟨0x3171, 0x3172, 1, 0x111D⟩,
  ⟨0x3174, 0x3175, 1, 0x1122⟩, ⟨0x3178, 0x317C, 1, 0x112B⟩, ⟨0x3182, 0x3183, 1, 0x11F1⟩,
  ⟨0x3184, 0x3186, 1, 0x1157⟩, ⟨0x3187, 0x3188, 1, 0x1184⟩, ⟨0x318A, 0x318B, 1, 0x1191⟩,
  ⟨0x3261, 0x3262, 1, 0x1102⟩, ⟨0x3263, 0x3265, 1, 0x1105⟩, ⟨0x3267, 0x3268, 1, 0x110B⟩,
  ⟨0x3269, 0x326D, 1, 0x110E⟩, ⟨0x32D4, 0x32D5, 1, 0x30AA⟩, ⟨0x32E4, 0x32E9, 1, 0x30CA⟩,
  ⟨0x32EE, 0x32F2, 1, 0x30DE⟩, ⟨0x32F5, 0x32FA, 1, 0x30E8⟩, ⟨0x32FB, 0x32FE, 1, 0x30EF⟩,
  ⟨0xFA52, 0xFA53, 1, 0x798D⟩, ⟨0xFB22, 0xFB23, 1, 0x05D3⟩, ⟨0xFB24, 0xFB26, 1, 0x05DB⟩,
  ⟨0xFB7D, 0xFB7E, 1, 0x0686⟩, ⟨0xFB9F, 0xFBA0, 1, 0x06BA⟩, ⟨0xFE11, 0xFE12, 1, 0x3001⟩,
  ⟨0xFE13, 0xFE14, 1, 0x3A⟩, ⟨0xFE17, 0xFE18, 1, 0x3016⟩, ⟨0xFE35, 0xFE36, 1, 0x28⟩,
  ⟨0xFE39, 0xFE3A, 1, 0x3014⟩, ⟨0xFE3B, 0xFE3C, 1, 0x3010⟩, ⟨0xFE3D, 0xFE3E, 1, 0x300A⟩,
  ⟨0xFE3F, 0xFE40, 1, 0x3008⟩, ⟨0xFE41, 0xFE44, 1, 0x300C⟩, ⟨0xFE59, 0xFE5A, 1, 0x28⟩,
  ⟨0xFE5D, 0xFE5E, 1, 0x3014⟩, ⟨0xFE61, 0xFE62, 1, 0x2A⟩, ⟨0xFE69, 0xFE6A, 1, 0x24⟩,
  ⟨0xFE8E, 0xFE8F, 1, 0x0627⟩, ⟨0xFE92, 0xFE93, 1, 0x0628⟩, ⟨0xFE94, 0xFE95, 1, 0x0629⟩,
  ⟨0xFE98, 0xFE99, 1, 0x062A⟩, ⟨0xFE9C, 0xFE9D, 1, 0x062B⟩, ⟨0xFEA0, 0xFEA1, 1, 0x062C⟩,
  ⟨0xFEA4, 0xFEA5, 1, 0x062D⟩, ⟨0xFEA8, 0xFEA9, 1, 0x062E⟩, ⟨0xFEAA, 0xFEAB, 1, 0x062F⟩,
  ⟨0xFEAC, 0xFEAD, 1, 0x0630⟩, ⟨0xFEAE, 0xFEAF, 1, 0x0631⟩, ⟨0xFEB0, 0xFEB1, 1, 0x0632⟩,
  ⟨0xFEB4, 0xFEB5, 1, 0x0633⟩, ⟨0xFEB8, 0xFEB9, 1, 0x0634⟩, ⟨0xFEBC, 0xFEBD, 1, 0x0635⟩,
  ⟨0xFEC0, 0xFEC1, 1, 0x0636⟩, ⟨0xFEC4, 0xFEC5, 1, 0x0637⟩, ⟨0xFEC8, 0xFEC9, 1, 0x0638⟩,
  ⟨0xFECC, 0xFECD, 1, 0x0639⟩, ⟨0xFED4, 0xFED5, 1, 0x0641⟩, ⟨0xFED8, 0xFED9, 1, 0x0642⟩,
  ⟨0xFEDC, 0xFEDD, 1, 0x0643⟩, ⟨0xFEE0, 0xFEE1, 1, 0x0644⟩, ⟨0xFEE4, 0xFEE5, 1, 0x0645⟩,
  ⟨0xFEE8, 0xFEE9, 1, 0x0646⟩, ⟨0xFEEC, 0xFEED, 1, 0x0647⟩, ⟨0xFEEE, 0xFEEF, 1, 0x0648⟩,
  ⟨0xFEF0, 0xFEF1, 1, 0x0649⟩, ⟨0xFF01, 0xFF5E, 1, 0x21⟩, ⟨0xFF5F, 0xFF60, 1, 0x2985⟩,
  ⟨0xFF62, 0xFF63, 1, 0x300C⟩, ⟨0xFF75, 0xFF76, 1, 0x30AA⟩, ⟨0xFF85, 0xFF8A, 1, 0x30CA⟩,
  ⟨0xFF8F, 0xFF93, 1, 0x30DE⟩, ⟨0xFF96, 0xFF9B, 1, 0x30E8⟩, ⟨0xFF9E, 0xFF9F, 1, 0x3099⟩,
  ⟨0xFFA1, 0xFFA2, 1, 0x1100⟩, ⟨0xFFA5, 0xFFA6, 1, 0x11AC⟩, ⟨0xFFA7, 0xFFA9, 1, 0x1103⟩,
  ⟨0xFFAA, 0xFFAF, 1, 0x11B0⟩, ⟨0xFFB1, 0xFFB3, 1, 0x1106⟩, ⟨0xFFB5, 0xFFBE, 1, 0x1109⟩,
  ⟨0xFFC2, 0xFFC7, 1, 0x1161⟩, ⟨0xFFCA, 0xFFCF, 1, 0x1167⟩, ⟨0xFFD2, 0xFFD7, 1, 0x116D⟩,
  ⟨0xFFDA, 0xFFDC, 1, 0x1173⟩, ⟨0xFFE0, 0xFFE1, 1, 0x00A2⟩, ⟨0xFFE9, 0xFFEC, 1, 0x2190⟩,
  ⟨0x10781, 0x10782, 1, 0x02D0⟩, ⟨0x1078B, 0x1078C, 1, 0x0256⟩, ⟨0x10799, 0x1079A, 1, 0x02AA⟩,
  ⟨0x107A3, 0x107A4, 1, 0x0276⟩, ⟨0x107A8, 0x107A9, 1, 0x027D⟩, ⟨0x107B3, 0x107B4, 1, 0x02A1⟩,
  ⟨0x107B6, 0x107B8, 1, 0x01C0⟩, ⟨0x1D400, 0x1D419, 1, 0x41⟩, ⟨0x1D41A, 0x1D433, 1, 0x61⟩,
  ⟨0x1D434, 0x1D44D, 1, 0x41⟩, ⟨0x1D44E, 0x1D454, 1, 0x61⟩, ⟨0x1D456, 0x1D467, 1, 0x69⟩,
  ⟨0x1D468, 0x1D481, 1, 0x41⟩, ⟨0x1D482, 0x1D49B, 1, 0x61⟩, ⟨0x1D49E, 0x1D49F, 1, 0x43⟩,
  ⟨0x1D4A5, 0x1D4A6, 1, 0x4A⟩, ⟨0x1D4A9, 0x1D4AC, 1, 0x4E⟩, ⟨0x1D4AE, 0x1D4B5, 1, 0x53⟩,
  ⟨0x1D4B6, 0x1D4B9, 1, 0x61⟩, ⟨0x1D4BD, 0x1D4C3, 1, 0x68⟩, ⟨0x1D4C5, 0x1D4CF, 1, 0x70⟩,
  ⟨0x1D4D0, 0x1D4E9, 1, 0x41⟩, ⟨0x1D4EA, 0x1D503, 1, 0x61⟩, ⟨0x1D504, 0x1D505, 1, 0x41⟩,
  ⟨0x1D507, 0x1D50A, 1, 0x44⟩, ⟨0x1D50D, 0x1D514, 1, 0x4A⟩, ⟨0x1D516, 0x1D51C, 1, 0x53⟩,
  ⟨0x1D51E, 0x1D537, 1, 0x61⟩, ⟨0x1D538, 0x1D539, 1, 0x41⟩, ⟨0x1D53B, 0x1D53E, 1, 0x44⟩,
  ⟨0x1D540, 0x1D544, 1, 0x49⟩, ⟨0x1D54A, 0x1D550, 1, 0x53⟩, ⟨0x1D552, 0x1D56B, 1, 0x61⟩,
  ⟨0x1D56C, 0x1D585, 1, 0x41⟩, ⟨0x1D586, 0x1D59F, 1, 0x61⟩, ⟨0x1D5A0, 0x1D5B9, 1, 0x41⟩,
  ⟨0x1D5BA, 0x1D5D3, 1, 0x61⟩, ⟨0x1D5D4, 0x1D5ED, 1, 0x41⟩, ⟨0x1D5EE, 0x1D607, 1, 0x61⟩,
  ⟨0x1D608, 0x1D621, 1, 0x41⟩, ⟨0x1D622, 0x1D63B, 1, 0x61⟩, ⟨0x1D63C, 0x1D655, 1, 0x41⟩,
  ⟨0x1D656, 0x1D66F, 1, 0x61⟩, ⟨0x1D670, 0x1D689, 1, 0x41⟩, ⟨0x1D68A, 0x1D6A3, 1, 0x61⟩,
  ⟨0x1D6A8, 0x1D6B8, 1, 0x0391⟩, ⟨0x1D6BA, 0x1D6C0, 1, 0x03A3⟩, ⟨0x1D6C2, 0x1D6DA, 1, 0x03B1⟩,
  ⟨0x1D6E2, 0x1D6F2, 1, 0x0391⟩, ⟨0x1D6F4, 0x1D6FA, 1, 0x03A3⟩, ⟨0x1D6FC, 0x1D714, 1, 0x03B1⟩,
  ⟨0x1D71C, 0x1D72C, 1, 0x0391⟩, ⟨0x1D72E, 0x1D734, 1, 0x03A3⟩, ⟨0x1D736, 0x1D74E, 1, 0x03B1⟩,
  ⟨0x1D756, 0x1D766, 1, 0x0391⟩, ⟨0x1D768, 0x1D76E, 1, 0x03A3⟩, ⟨0x1D770, 0x1D788, 1, 0x03B1⟩,
  ⟨0x1D790, 0x1D7A0, 1, 0x0391⟩, ⟨0x1D7A2, 0x1D7A8, 1, 0x03A3⟩, ⟨0x1D7AA, 0x1D7C2, 1, 0x03B1⟩,
  ⟨0x1D7CA, 0x1D7CB, 1, 0x03DC⟩, ⟨0x1D7CE, 0x1D7D7, 1, 0x30⟩, ⟨0x1D7D8, 0x1D7E1, 1, 0x30⟩,
  ⟨0x1D7E2, 0x1D7EB, 1, 0x30⟩, ⟨0x1D7EC, 0x1D7F5, 1, 0x30⟩, ⟨0x1D7F6, 0x1D7FF, 1, 0x30⟩,
  ⟨0x1EE00, 0x1EE01, 1, 0x0627⟩, ⟨0x1EE0A, 0x1EE0D, 1, 0x0643⟩, ⟨0x1EE15, 0x1EE16, 1, 0x062A⟩,
  ⟨0x1EE2A, 0x1EE2D, 1, 0x0643⟩, ⟨0x1EE35, 0x1EE36, 1, 0x062A⟩, ⟨0x1EE6C, 0x1EE6D, 1, 0x0645⟩,
  ⟨0x1EE75, 0x1EE76, 1, 0x062A⟩, ⟨0x1EE80, 0x1EE81, 1, 0x0627⟩, ⟨0x1EE84, 0x1EE85, 1, 0x0647⟩,
  ⟨0x1EE8B, 0x1EE8D, 1, 0x0644⟩, ⟨0x1EE95, 0x1EE96, 1, 0x062A⟩, ⟨0x1EEAB, 0x1EEAD, 1, 0x0644⟩,
  ⟨0x1EEB5, 0x1EEB6, 1, 0x062A⟩, ⟨0x1F130, 0x1F149, 1, 0x41⟩, ⟨0x1FBF0, 0x1FBF9, 1, 0x30⟩,
  ⟨0x2F829, 0x2F82A, 1, 0x5305⟩, ⟨0x2F881, 0x2F882, 1, 0x5DE1⟩, ⟨0x2F8F5, 0x2F8F6, 1, 0x6BBA⟩,
  ⟨0x2F945, 0x2F946, 1, 0x771E⟩, ⟨0x2F9E8, 0x2F9E9, 1, 0x92D7⟩]

end PostSearch.Unicode
