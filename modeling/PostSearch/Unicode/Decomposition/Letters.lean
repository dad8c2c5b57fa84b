import PostSearch.Unicode.CodeRange

/-! # Decompositions: letters with marks

Precomposed letters and letter-like forms of the alphabets below U+2000, with everything they
fully decompose into, in canonical order. -/

namespace PostSearch.Unicode

/-- Characters below U+2000, ascending. -/
def letterExpansions : List Expansion := [
  ⟨0x00A0, [0x20]⟩, ⟨0x00A8, [0x20, 0x0308]⟩, ⟨0x00AA, [0x61]⟩, ⟨0x00AF, [0x20, 0x0304]⟩,
  ⟨0x00B4, [0x20, 0x0301]⟩, ⟨0x00B5, [0x03BC]⟩, ⟨0x00B8, [0x20, 0x0327]⟩, ⟨0x00B9, [0x31]⟩,
  ⟨0x00BA, [0x6F]⟩, ⟨0x00BC, [0x31, 0x2044, 0x34]⟩, ⟨0x00BD, [0x31, 0x2044, 0x32]⟩,
  ⟨0x00BE, [0x33, 0x2044, 0x34]⟩, ⟨0x00C0, [0x41, 0x0300]⟩, ⟨0x00C1, [0x41, 0x0301]⟩,
  ⟨0x00C2, [0x41, 0x0302]⟩, ⟨0x00C3, [0x41, 0x0303]⟩, ⟨0x00C4, [0x41, 0x0308]⟩,
  ⟨0x00C5, [0x41, 0x030A]⟩, ⟨0x00C7, [0x43, 0x0327]⟩, ⟨0x00C8, [0x45, 0x0300]⟩,
  ⟨0x00C9, [0x45, 0x0301]⟩, ⟨0x00CA, [0x45, 0x0302]⟩, ⟨0x00CB, [0x45, 0x0308]⟩,
  ⟨0x00CC, [0x49, 0x0300]⟩, ⟨0x00CD, [0x49, 0x0301]⟩, ⟨0x00CE, [0x49, 0x0302]⟩,
  ⟨0x00CF, [0x49, 0x0308]⟩, ⟨0x00D1, [0x4E, 0x0303]⟩, ⟨0x00D2, [0x4F, 0x0300]⟩,
  ⟨0x00D3, [0x4F, 0x0301]⟩, ⟨0x00D4, [0x4F, 0x0302]⟩, ⟨0x00D5, [0x4F, 0x0303]⟩,
  ⟨0x00D6, [0x4F, 0x0308]⟩, ⟨0x00D9, [0x55, 0x0300]⟩, ⟨0x00DA, [0x55, 0x0301]⟩,
  ⟨0x00DB, [0x55, 0x0302]⟩, ⟨0x00DC, [0x55, 0x0308]⟩, ⟨0x00DD, [0x59, 0x0301]⟩,
  ⟨0x00E0, [0x61, 0x0300]⟩, ⟨0x00E1, [0x61, 0x0301]⟩, ⟨0x00E2, [0x61, 0x0302]⟩,
  ⟨0x00E3, [0x61, 0x0303]⟩, ⟨0x00E4, [0x61, 0x0308]⟩, ⟨0x00E5, [0x61, 0x030A]⟩,
  ⟨0x00E7, [0x63, 0x0327]⟩, ⟨0x00E8, [0x65, 0x0300]⟩, ⟨0x00E9, [0x65, 0x0301]⟩,
  ⟨0x00EA, [0x65, 0x0302]⟩, ⟨0x00EB, [0x65, 0x0308]⟩, ⟨0x00EC, [0x69, 0x0300]⟩,
  ⟨0x00ED, [0x69, 0x0301]⟩, ⟨0x00EE, [0x69, 0x0302]⟩, ⟨0x00EF, [0x69, 0x0308]⟩,
  ⟨0x00F1, [0x6E, 0x0303]⟩, ⟨0x00F2, [0x6F, 0x0300]⟩, ⟨0x00F3, [0x6F, 0x0301]⟩,
  ⟨0x00F4, [0x6F, 0x0302]⟩, ⟨0x00F5, [0x6F, 0x0303]⟩, ⟨0x00F6, [0x6F, 0x0308]⟩,
  ⟨0x00F9, [0x75, 0x0300]⟩, ⟨0x00FA, [0x75, 0x0301]⟩, ⟨0x00FB, [0x75, 0x0302]⟩,
  ⟨0x00FC, [0x75, 0x0308]⟩, ⟨0x00FD, [0x79, 0x0301]⟩, ⟨0x00FF, [0x79, 0x0308]⟩,
  ⟨0x0100, [0x41, 0x0304]⟩, ⟨0x0101, [0x61, 0x0304]⟩, ⟨0x0102, [0x41, 0x0306]⟩,
  ⟨0x0103, [0x61, 0x0306]⟩, ⟨0x0104, [0x41, 0x0328]⟩, ⟨0x0105, [0x61, 0x0328]⟩,
  ⟨0x0106, [0x43, 0x0301]⟩, ⟨0x0107, [0x63, 0x0301]⟩, ⟨0x0108, [0x43, 0x0302]⟩,
  ⟨0x0109, [0x63, 0x0302]⟩, ⟨0x010A, [0x43, 0x0307]⟩, ⟨0x010B, [0x63, 0x0307]⟩,
  ⟨0x010C, [0x43, 0x030C]⟩, ⟨0x010D, [0x63, 0x030C]⟩, ⟨0x010E, [0x44, 0x030C]⟩,
  ⟨0x010F, [0x64, 0x030C]⟩, ⟨0x0112, [0x45, 0x0304]⟩, ⟨0x0113, [0x65, 0x0304]⟩,
  ⟨0x0114, [0x45, 0x0306]⟩, ⟨0x0115, [0x65, 0x0306]⟩, ⟨0x0116, [0x45, 0x0307]⟩,
  ⟨0x0117, [0x65, 0x0307]⟩, ⟨0x0118, [0x45, 0x0328]⟩, ⟨0x0119, [0x65, 0x0328]⟩,
  ⟨0x011A, [0x45, 0x030C]⟩, ⟨0x011B, [0x65, 0x030C]⟩, ⟨0x011C, [0x47, 0x0302]⟩,
  ⟨0x011D, [0x67, 0x0302]⟩, ⟨0x011E, [0x47, 0x0306]⟩, ⟨0x011F, [0x67, 0x0306]⟩,
  ⟨0x0120, [0x47, 0x0307]⟩, ⟨0x0121, [0x67, 0x0307]⟩, ⟨0x0122, [0x47, 0x0327]⟩,
  ⟨0x0123, [0x67, 0x0327]⟩, ⟨0x0124, [0x48, 0x0302]⟩, ⟨0x0125, [0x68, 0x0302]⟩,
  ⟨0x0128, [0x49, 0x0303]⟩, ⟨0x0129, [0x69, 0x0303]⟩, ⟨0x012A, [0x49, 0x0304]⟩,
  ⟨0x012B, [0x69, 0x0304]⟩, ⟨0x012C, [0x49, 0x0306]⟩, ⟨0x012D, [0x69, 0x0306]⟩,
  ⟨0x012E, [0x49, 0x0328]⟩, ⟨0x012F, [0x69, 0x0328]⟩, ⟨0x0130, [0x49, 0x0307]⟩,
  ⟨0x0132, [0x49, 0x4A]⟩, ⟨0x0133, [0x69, 0x6A]⟩, ⟨0x0134, [0x4A, 0x0302]⟩,
  ⟨0x0135, [0x6A, 0x0302]⟩, ⟨0x0136, [0x4B, 0x0327]⟩, ⟨0x0137, [0x6B, 0x0327]⟩,
  ⟨0x0139, [0x4C, 0x0301]⟩, ⟨0x013A, [0x6C, 0x0301]⟩, ⟨0x013B, [0x4C, 0x0327]⟩,
  ⟨0x013C, [0x6C, 0x0327]⟩, ⟨0x013D, [0x4C, 0x030C]⟩, ⟨0x013E, [0x6C, 0x030C]⟩,
  ⟨0x013F, [0x4C, 0x00B7]⟩, ⟨0x0140, [0x6C, 0x00B7]⟩, ⟨0x0143, [0x4E, 0x0301]⟩,
  ⟨0x0144, [0x6E, 0x0301]⟩, ⟨0x0145, [0x4E, 0x0327]⟩, ⟨0x0146, [0x6E, 0x0327]⟩,
  ⟨0x0147, [0x4E, 0x030C]⟩, ⟨0x0148, [0x6E, 0x030C]⟩, ⟨0x0149, [0x02BC, 0x6E]⟩,
  ⟨0x014C, [0x4F, 0x0304]⟩, ⟨0x014D, [0x6F, 0x0304]⟩, ⟨0x014E, [0x4F, 0x0306]⟩,
  ⟨0x014F, [0x6F, 0x0306]⟩, ⟨0x0150, [0x4F, 0x030B]⟩, ⟨0x0151, [0x6F, 0x030B]⟩,
  ⟨0x0154, [0x52, 0x0301]⟩, ⟨0x0155, [0x72, 0x0301]⟩, ⟨0x0156, [0x52, 0x0327]⟩,
  ⟨0x0157, [0x72, 0x0327]⟩, ⟨0x0158, [0x52, 0x030C]⟩, ⟨0x0159, [0x72, 0x030C]⟩,
  ⟨0x015A, [0x53, 0x0301]⟩, ⟨0x015B, [0x73, 0x0301]⟩, ⟨0x015C, [0x53, 0x0302]⟩,
  ⟨0x015D, [0x73, 0x0302]⟩, ⟨0x015E, [0x53, 0x0327]⟩, ⟨0x015F, [0x73, 0x0327]⟩,
  ⟨0x0160, [0x53, 0x030C]⟩, ⟨0x0161, [0x73, 0x030C]⟩, ⟨0x0162, [0x54, 0x0327]⟩,
  ⟨0x0163, [0x74, 0x0327]⟩, ⟨0x0164, [0x54, 0x030C]⟩, ⟨0x0165, [0x74, 0x030C]⟩,
  ⟨0x0168, [0x55, 0x0303]⟩, ⟨0x0169, [0x75, 0x0303]⟩, ⟨0x016A, [0x55, 0x0304]⟩,
  ⟨0x016B, [0x75, 0x0304]⟩, ⟨0x016C, [0x55, 0x0306]⟩, ⟨0x016D, [0x75, 0x0306]⟩,
  ⟨0x016E, [0x55, 0x030A]⟩, ⟨0x016F, [0x75, 0x030A]⟩, ⟨0x0170, [0x55, 0x030B]⟩,
  ⟨0x0171, [0x75, 0x030B]⟩, ⟨0x0172, [0x55, 0x0328]⟩, ⟨0x0173, [0x75, 0x0328]⟩,
  ⟨0x0174, [0x57, 0x0302]⟩, ⟨0x0175, [0x77, 0x0302]⟩, ⟨0x0176, [0x59, 0x0302]⟩,
  ⟨0x0177, [0x79, 0x0302]⟩, ⟨0x0178, [0x59, 0x0308]⟩, ⟨0x0179, [0x5A, 0x0301]⟩,
  ⟨0x017A, [0x7A, 0x0301]⟩, ⟨0x017B, [0x5A, 0x0307]⟩, ⟨0x017C, [0x7A, 0x0307]⟩,
  ⟨0x017D, [0x5A, 0x030C]⟩, ⟨0x017E, [0x7A, 0x030C]⟩, ⟨0x017F, [0x73]⟩, ⟨0x01A0, [0x4F, 0x031B]⟩,
  ⟨0x01A1, [0x6F, 0x031B]⟩, ⟨0x01AF, [0x55, 0x031B]⟩, ⟨0x01B0, [0x75, 0x031B]⟩,
  ⟨0x01C4, [0x44, 0x5A, 0x030C]⟩, ⟨0x01C5, [0x44, 0x7A, 0x030C]⟩, ⟨0x01C6, [0x64, 0x7A, 0x030C]⟩,
  ⟨0x01C7, [0x4C, 0x4A]⟩, ⟨0x01C8, [0x4C, 0x6A]⟩, ⟨0x01C9, [0x6C, 0x6A]⟩, ⟨0x01CA, [0x4E, 0x4A]⟩,
  ⟨0x01CB, [0x4E, 0x6A]⟩, ⟨0x01CC, [0x6E, 0x6A]⟩, ⟨0x01CD, [0x41, 0x030C]⟩,
  ⟨0x01CE, [0x61, 0x030C]⟩, ⟨0x01CF, [0x49, 0x030C]⟩, ⟨0x01D0, [0x69, 0x030C]⟩,
  ⟨0x01D1, [0x4F, 0x030C]⟩, ⟨0x01D2, [0x6F, 0x030C]⟩, ⟨0x01D3, [0x55, 0x030C]⟩,
  ⟨0x01D4, [0x75, 0x030C]⟩, ⟨0x01D5, [0x55, 0x0308, 0x0304]⟩, ⟨0x01D6, [0x75, 0x0308, 0x0304]⟩,
  ⟨0x01D7, [0x55, 0x0308, 0x0301]⟩, ⟨0x01D8, [0x75, 0x0308, 0x0301]⟩,
  ⟨0x01D9, [0x55, 0x0308, 0x030C]⟩, ⟨0x01DA, [0x75, 0x0308, 0x030C]⟩,
  ⟨0x01DB, [0x55, 0x0308, 0x0300]⟩, ⟨0x01DC, [0x75, 0x0308, 0x0300]⟩,
  ⟨0x01DE, [0x41, 0x0308, 0x0304]⟩, ⟨0x01DF, [0x61, 0x0308, 0x0304]⟩,
  ⟨0x01E0, [0x41, 0x0307, 0x0304]⟩, ⟨0x01E1, [0x61, 0x0307, 0x0304]⟩, ⟨0x01E2, [0x00C6, 0x0304]⟩,
  ⟨0x01E3, [0x00E6, 0x0304]⟩, ⟨0x01E6, [0x47, 0x030C]⟩, ⟨0x01E7, [0x67, 0x030C]⟩,
  ⟨0x01E8, [0x4B, 0x030C]⟩, ⟨0x01E9, [0x6B, 0x030C]⟩, ⟨0x01EA, [0x4F, 0x0328]⟩,
  ⟨0x01EB, [0x6F, 0x0328]⟩, ⟨0x01EC, [0x4F, 0x0328, 0x0304]⟩, ⟨0x01ED, [0x6F, 0x0328, 0x0304]⟩,
  ⟨0x01EE, [0x01B7, 0x030C]⟩, ⟨0x01EF, [0x0292, 0x030C]⟩, ⟨0x01F0, [0x6A, 0x030C]⟩,
  ⟨0x01F1, [0x44, 0x5A]⟩, ⟨0x01F2, [0x44, 0x7A]⟩, ⟨0x01F3, [0x64, 0x7A]⟩,
  ⟨0x01F4, [0x47, 0x0301]⟩, ⟨0x01F5, [0x67, 0x0301]⟩, ⟨0x01F8, [0x4E, 0x0300]⟩,
  ⟨0x01F9, [0x6E, 0x0300]⟩, ⟨0x01FA, [0x41, 0x030A, 0x0301]⟩, ⟨0x01FB, [0x61, 0x030A, 0x0301]⟩,
  ⟨0x01FC, [0x00C6, 0x0301]⟩, ⟨0x01FD, [0x00E6, 0x0301]⟩, ⟨0x01FE, [0x00D8, 0x0301]⟩,
  ⟨0x01FF, [0x00F8, 0x0301]⟩, ⟨0x0200, [0x41, 0x030F]⟩, ⟨0x0201, [0x61, 0x030F]⟩,
  ⟨0x0202, [0x41, 0x0311]⟩, ⟨0x0203, [0x61, 0x0311]⟩, ⟨0x0204, [0x45, 0x030F]⟩,
  ⟨0x0205, [0x65, 0x030F]⟩, ⟨0x0206, [0x45, 0x0311]⟩, ⟨0x0207, [0x65, 0x0311]⟩,
  ⟨0x0208, [0x49, 0x030F]⟩, ⟨0x0209, [0x69, 0x030F]⟩, ⟨0x020A, [0x49, 0x0311]⟩,
  ⟨0x020B, [0x69, 0x0311]⟩, ⟨0x020C, [0x4F, 0x030F]⟩, ⟨0x020D, [0x6F, 0x030F]⟩,
  ⟨0x020E, [0x4F, 0x0311]⟩, ⟨0x020F, [0x6F, 0x0311]⟩, ⟨0x0210, [0x52, 0x030F]⟩,
  ⟨0x0211, [0x72, 0x030F]⟩, ⟨0x0212, [0x52, 0x0311]⟩, ⟨0x0213, [0x72, 0x0311]⟩,
  ⟨0x0214, [0x55, 0x030F]⟩, ⟨0x0215, [0x75, 0x030F]⟩, ⟨0x0216, [0x55, 0x0311]⟩,
  ⟨0x0217, [0x75, 0x0311]⟩, ⟨0x0218, [0x53, 0x0326]⟩, ⟨0x0219, [0x73, 0x0326]⟩,
  ⟨0x021A, [0x54, 0x0326]⟩, ⟨0x021B, [0x74, 0x0326]⟩, ⟨0x021E, [0x48, 0x030C]⟩,
  ⟨0x021F, [0x68, 0x030C]⟩, ⟨0x0226, [0x41, 0x0307]⟩, ⟨0x0227, [0x61, 0x0307]⟩,
  ⟨0x0228, [0x45, 0x0327]⟩, ⟨0x0229, [0x65, 0x0327]⟩, ⟨0x022A, [0x4F, 0x0308, 0x0304]⟩,
  ⟨0x022B, [0x6F, 0x0308, 0x0304]⟩, ⟨0x022C, [0x4F, 0x0303, 0x0304]⟩,
  ⟨0x022D, [0x6F, 0x0303, 0x0304]⟩, ⟨0x022E, [0x4F, 0x0307]⟩, ⟨0x022F, [0x6F, 0x0307]⟩,
  ⟨0x0230, [0x4F, 0x0307, 0x0304]⟩, ⟨0x0231, [0x6F, 0x0307, 0x0304]⟩, ⟨0x0232, [0x59, 0x0304]⟩,
  ⟨0x0233, [0x79, 0x0304]⟩, ⟨0x02B0, [0x68]⟩, ⟨0x02B1, [0x0266]⟩, ⟨0x02B2, [0x6A]⟩,
  ⟨0x02B3, [0x72]⟩, ⟨0x02B4, [0x0279]⟩, ⟨0x02B5, [0x027B]⟩, ⟨0x02B6, [0x0281]⟩, ⟨0x02B7, [0x77]⟩,
  ⟨0x02B8, [0x79]⟩, ⟨0x02D8, [0x20, 0x0306]⟩, ⟨0x02D9, [0x20, 0x0307]⟩, ⟨0x02DA, [0x20, 0x030A]⟩,
  ⟨0x02DB, [0x20, 0x0328]⟩, ⟨0x02DC, [0x20, 0x0303]⟩, ⟨0x02DD, [0x20, 0x030B]⟩,
  ⟨0x02E0, [0x0263]⟩, ⟨0x02E1, [0x6C]⟩, ⟨0x02E2, [0x73]⟩, ⟨0x02E3, [0x78]⟩, ⟨0x02E4, [0x0295]⟩,
  ⟨0x0343, [0x0313]⟩, ⟨0x0344, [0x0308, 0x0301]⟩, ⟨0x0374, [0x02B9]⟩, ⟨0x037A, [0x20, 0x0345]⟩,
  ⟨0x037E, [0x3B]⟩, ⟨0x0384, [0x20, 0x0301]⟩, ⟨0x0385, [0x20, 0x0308, 0x0301]⟩,
  ⟨0x0386, [0x0391, 0x0301]⟩, ⟨0x0387, [0x00B7]⟩, ⟨0x0388, [0x0395, 0x0301]⟩,
  ⟨0x0389, [0x0397, 0x0301]⟩, ⟨0x038A, [0x0399, 0x0301]⟩, ⟨0x038C, [0x039F, 0x0301]⟩,
  ⟨0x038E, [0x03A5, 0x0301]⟩, ⟨0x038F, [0x03A9, 0x0301]⟩, ⟨0x0390, [0x03B9, 0x0308, 0x0301]⟩,
  ⟨0x03AA, [0x0399, 0x0308]⟩, ⟨0x03AB, [0x03A5, 0x0308]⟩, ⟨0x03AC, [0x03B1, 0x0301]⟩,
  ⟨0x03AD, [0x03B5, 0x0301]⟩, ⟨0x03AE, [0x03B7, 0x0301]⟩, ⟨0x03AF, [0x03B9, 0x0301]⟩,
  ⟨0x03B0, [0x03C5, 0x0308, 0x0301]⟩, ⟨0x03CA, [0x03B9, 0x0308]⟩, ⟨0x03CB, [0x03C5, 0x0308]⟩,
  ⟨0x03CC, [0x03BF, 0x0301]⟩, ⟨0x03CD, [0x03C5, 0x0301]⟩, ⟨0x03CE, [0x03C9, 0x0301]⟩,
  ⟨0x03D0, [0x03B2]⟩, ⟨0x03D1, [0x03B8]⟩, ⟨0x03D2, [0x03A5]⟩, ⟨0x03D3, [0x03A5, 0x0301]⟩,
  ⟨0x03D4, [0x03A5, 0x0308]⟩, ⟨0x03D5, [0x03C6]⟩, ⟨0x03D6, [0x03C0]⟩, ⟨0x03F0, [0x03BA]⟩,
  ⟨0x03F4, [0x0398]⟩, ⟨0x03F5, [0x03B5]⟩, ⟨0x03F9, [0x03A3]⟩, ⟨0x0400, [0x0415, 0x0300]⟩,
  ⟨0x0401, [0x0415, 0x0308]⟩, ⟨0x0403, [0x0413, 0x0301]⟩, ⟨0x0407, [0x0406, 0x0308]⟩,
  ⟨0x040C, [0x041A, 0x0301]⟩, ⟨0x040D, [0x0418, 0x0300]⟩, ⟨0x040E, [0x0423, 0x0306]⟩,
  ⟨0x0419, [0x0418, 0x0306]⟩, ⟨0x0439, [0x0438, 0x0306]⟩, ⟨0x0450, [0x0435, 0x0300]⟩,
  ⟨0x0451, [0x0435, 0x0308]⟩, ⟨0x0453, [0x0433, 0x0301]⟩, ⟨0x0457, [0x0456, 0x0308]⟩,
  ⟨0x045C, [0x043A, 0x0301]⟩, ⟨0x045D, [0x0438, 0x0300]⟩, ⟨0x045E, [0x0443, 0x0306]⟩,
  ⟨0x0476, [0x0474, 0x030F]⟩, ⟨0x0477, [0x0475, 0x030F]⟩, ⟨0x04C1, [0x0416, 0x0306]⟩,
  ⟨0x04C2, [0x0436, 0x0306]⟩, ⟨0x04D0, [0x0410, 0x0306]⟩, ⟨0x04D1, [0x0430, 0x0306]⟩,
  ⟨0x04D2, [0x0410, 0x0308]⟩, ⟨0x04D3, [0x0430, 0x0308]⟩, ⟨0x04D6, [0x0415, 0x0306]⟩,
  ⟨0x04D7, [0x0435, 0x0306]⟩, ⟨0x04DA, [0x04D8, 0x0308]⟩, ⟨0x04DB, [0x04D9, 0x0308]⟩,
  ⟨0x04DC, [0x0416, 0x0308]⟩, ⟨0x04DD, [0x0436, 0x0308]⟩, ⟨0x04DE, [0x0417, 0x0308]⟩,
  ⟨0x04DF, [0x0437, 0x0308]⟩, ⟨0x04E2, [0x0418, 0x0304]⟩, ⟨0x04E3, [0x0438, 0x0304]⟩,
  ⟨0x04E4, [0x0418, 0x0308]⟩, ⟨0x04E5, [0x0438, 0x0308]⟩, ⟨0x04E6, [0x041E, 0x0308]⟩,
  ⟨0x04E7, [0x043E, 0x0308]⟩, ⟨0x04EA, [0x04E8, 0x0308]⟩, ⟨0x04EB, [0x04E9, 0x0308]⟩,
  ⟨0x04EC, [0x042D, 0x0308]⟩, ⟨0x04ED, [0x044D, 0x0308]⟩, ⟨0x04EE, [0x0423, 0x0304]⟩,
  ⟨0x04EF, [0x0443, 0x0304]⟩, ⟨0x04F0, [0x0423, 0x0308]⟩, ⟨0x04F1, [0x0443, 0x0308]⟩,
  ⟨0x04F2, [0x0423, 0x030B]⟩, ⟨0x04F3, [0x0443, 0x030B]⟩, ⟨0x04F4, [0x0427, 0x0308]⟩,
  ⟨0x04F5, [0x0447, 0x0308]⟩, ⟨0x04F8, [0x042B, 0x0308]⟩, ⟨0x04F9, [0x044B, 0x0308]⟩,
  ⟨0x0587, [0x0565, 0x0582]⟩, ⟨0x0622, [0x0627, 0x0653]⟩, ⟨0x0623, [0x0627, 0x0654]⟩,
  ⟨0x0624, [0x0648, 0x0654]⟩, ⟨0x0625, [0x0627, 0x0655]⟩, ⟨0x0626, [0x064A, 0x0654]⟩,
  ⟨0x0675, [0x0627, 0x0674]⟩, ⟨0x0676, [0x0648, 0x0674]⟩, ⟨0x0677, [0x06C7, 0x0674]⟩,
  ⟨0x0678, [0x064A, 0x0674]⟩, ⟨0x06C0, [0x06D5, 0x0654]⟩, ⟨0x06C2, [0x06C1, 0x0654]⟩,
  ⟨0x06D3, [0x06D2, 0x0654]⟩, ⟨0x0929, [0x0928, 0x093C]⟩, ⟨0x0931, [0x0930, 0x093C]⟩,
  ⟨0x0934, [0x0933, 0x093C]⟩, ⟨0x0958, [0x0915, 0x093C]⟩, ⟨0x0959, [0x0916, 0x093C]⟩,
  ⟨0x095A, [0x0917, 0x093C]⟩, ⟨0x095B, [0x091C, 0x093C]⟩, ⟨0x095C, [0x0921, 0x093C]⟩,
  ⟨0x095D, [0x0922, 0x093C]⟩, ⟨0x095E, [0x092B, 0x093C]⟩, ⟨0x095F, [0x092F, 0x093C]⟩,
  ⟨0x09CB, [0x09C7, 0x09BE]⟩, ⟨0x09CC, [0x09C7, 0x09D7]⟩, ⟨0x09DC, [0x09A1, 0x09BC]⟩,
  ⟨0x09DD, [0x09A2, 0x09BC]⟩, ⟨0x09DF, [0x09AF, 0x09BC]⟩, ⟨0x0A33, [0x0A32, 0x0A3C]⟩,
  ⟨0x0A36, [0x0A38, 0x0A3C]⟩, ⟨0x0A59, [0x0A16, 0x0A3C]⟩, ⟨0x0A5A, [0x0A17, 0x0A3C]⟩,
  ⟨0x0A5B, [0x0A1C, 0x0A3C]⟩, ⟨0x0A5E, [0x0A2B, 0x0A3C]⟩, ⟨0x0B48, [0x0B47, 0x0B56]⟩,
  ⟨0x0B4B, [0x0B47, 0x0B3E]⟩, ⟨0x0B4C, [0x0B47, 0x0B57]⟩, ⟨0x0B5C, [0x0B21, 0x0B3C]⟩,
  ⟨0x0B5D, [0x0B22, 0x0B3C]⟩, ⟨0x0B94, [0x0B92, 0x0BD7]⟩, ⟨0x0BCA, [0x0BC6, 0x0BBE]⟩,
  ⟨0x0BCB, [0x0BC7, 0x0BBE]⟩, ⟨0x0BCC, [0x0BC6, 0x0BD7]⟩, ⟨0x0C48, [0x0C46, 0x0C56]⟩,
  ⟨0x0CC0, [0x0CBF, 0x0CD5]⟩, ⟨0x0CC7, [0x0CC6, 0x0CD5]⟩, ⟨0x0CC8, [0x0CC6, 0x0CD6]⟩,
  ⟨0x0CCA, [0x0CC6, 0x0CC2]⟩, ⟨0x0CCB, [0x0CC6, 0x0CC2, 0x0CD5]⟩, ⟨0x0D4A, [0x0D46, 0x0D3E]⟩,
  ⟨0x0D4B, [0x0D47, 0x0D3E]⟩, ⟨0x0D4C, [0x0D46, 0x0D57]⟩, ⟨0x0DDA, [0x0DD9, 0x0DCA]⟩,
  ⟨0x0DDC, [0x0DD9, 0x0DCF]⟩, ⟨0x0DDD, [0x0DD9, 0x0DCF, 0x0DCA]⟩, ⟨0x0DDE, [0x0DD9, 0x0DDF]⟩,
  ⟨0x0E33, [0x0E4D, 0x0E32]⟩, ⟨0x0EB3, [0x0ECD, 0x0EB2]⟩, ⟨0x0EDC, [0x0EAB, 0x0E99]⟩,
  ⟨0x0EDD, [0x0EAB, 0x0EA1]⟩, ⟨0x0F0C, [0x0F0B]⟩, ⟨0x0F43, [0x0F42, 0x0FB7]⟩,
  ⟨0x0F4D, [0x0F4C, 0x0FB7]⟩, ⟨0x0F52, [0x0F51, 0x0FB7]⟩, ⟨0x0F57, [0x0F56, 0x0FB7]⟩,
  ⟨0x0F5C, [0x0F5B, 0x0FB7]⟩, ⟨0x0F69, [0x0F40, 0x0FB5]⟩, ⟨0x0F73, [0x0F71, 0x0F72]⟩,
  ⟨0x0F75, [0x0F71, 0x0F74]⟩, ⟨0x0F76, [0x0FB2, 0x0F80]⟩, ⟨0x0F77, [0x0FB2, 0x0F71, 0x0F80]⟩,
  ⟨0x0F78, [0x0FB3, 0x0F80]⟩, ⟨0x0F79, [0x0FB3, 0x0F71, 0x0F80]⟩, ⟨0x0F81, [0x0F71, 0x0F80]⟩,
  ⟨0x0F93, [0x0F92, 0x0FB7]⟩, ⟨0x0F9D, [0x0F9C, 0x0FB7]⟩, ⟨0x0FA2, [0x0FA1, 0x0FB7]⟩,
  ⟨0x0FA7, [0x0FA6, 0x0FB7]⟩, ⟨0x0FAC, [0x0FAB, 0x0FB7]⟩, ⟨0x0FB9, [0x0F90, 0x0FB5]⟩,
  ⟨0x1026, [0x1025, 0x102E]⟩, ⟨0x10FC, [0x10DC]⟩, ⟨0x1B06, [0x1B05, 0x1B35]⟩,
  ⟨0x1B08, [0x1B07, 0x1B35]⟩, ⟨0x1B0A, [0x1B09, 0x1B35]⟩, ⟨0x1B0C, [0x1B0B, 0x1B35]⟩,
  ⟨0x1B0E, [0x1B0D, 0x1B35]⟩, ⟨0x1B12, [0x1B11, 0x1B35]⟩, ⟨0x1B3B, [0x1B3A, 0x1B35]⟩,
  ⟨0x1B3D, [0x1B3C, 0x1B35]⟩, ⟨0x1B40, [0x1B3E, 0x1B35]⟩, ⟨0x1B41, [0x1B3F, 0x1B35]⟩,
  ⟨0x1B43, [0x1B42, 0x1B35]⟩, ⟨0x1D2C, [0x41]⟩, ⟨0x1D2D, [0x00C6]⟩, ⟨0x1D2E, [0x42]⟩,
  ⟨0x1D32, [0x018E]⟩, ⟨0x1D3C, [0x4F]⟩, ⟨0x1D3D, [0x0222]⟩, ⟨0x1D3E, [0x50]⟩, ⟨0x1D3F, [0x52]⟩,
  ⟨0x1D42, [0x57]⟩, ⟨0x1D43, [0x61]⟩, ⟨0x1D46, [0x1D02]⟩, ⟨0x1D47, [0x62]⟩, ⟨0x1D4A, [0x0259]⟩,
  ⟨0x1D4D, [0x67]⟩, ⟨0x1D4F, [0x6B]⟩, ⟨0x1D50, [0x6D]⟩, ⟨0x1D51, [0x014B]⟩, ⟨0x1D52, [0x6F]⟩,
  ⟨0x1D53, [0x0254]⟩, ⟨0x1D56, [0x70]⟩, ⟨0x1D59, [0x1D1D]⟩, ⟨0x1D5A, [0x026F]⟩, ⟨0x1D5B, [0x76]⟩,
  ⟨0x1D5C, [0x1D25]⟩, ⟨0x1D62, [0x69]⟩, ⟨0x1D63, [0x72]⟩, ⟨0x1D68, [0x03C1]⟩, ⟨0x1D78, [0x043D]⟩,
  ⟨0x1D9B, [0x0252]⟩, ⟨0x1D9C, [0x63]⟩, ⟨0x1D9D, [0x0255]⟩, ⟨0x1D9E, [0x00F0]⟩,
  ⟨0x1D9F, [0x025C]⟩, ⟨0x1DA0, [0x66]⟩, ⟨0x1DA1, [0x025F]⟩, ⟨0x1DA2, [0x0261]⟩,
  ⟨0x1DA3, [0x0265]⟩, ⟨0x1DA7, [0x1D7B]⟩, ⟨0x1DA8, [0x029D]⟩, ⟨0x1DA9, [0x026D]⟩,
  ⟨0x1DAA, [0x1D85]⟩, ⟨0x1DAB, [0x029F]⟩, ⟨0x1DAC, [0x0271]⟩, ⟨0x1DAD, [0x0270]⟩,
  ⟨0x1DB2, [0x0278]⟩, ⟨0x1DB5, [0x01AB]⟩, ⟨0x1DB8, [0x1D1C]⟩, ⟨0x1DBB, [0x7A]⟩,
  ⟨0x1DBF, [0x03B8]⟩, ⟨0x1E00, [0x41, 0x0325]⟩, ⟨0x1E01, [0x61, 0x0325]⟩,
  ⟨0x1E02, [0x42, 0x0307]⟩, ⟨0x1E03, [0x62, 0x0307]⟩, ⟨0x1E04, [0x42, 0x0323]⟩,
  ⟨0x1E05, [0x62, 0x0323]⟩, ⟨0x1E06, [0x42, 0x0331]⟩, ⟨0x1E07, [0x62, 0x0331]⟩,
  ⟨0x1E08, [0x43, 0x0327, 0x0301]⟩, ⟨0x1E09, [0x63, 0x0327, 0x0301]⟩, ⟨0x1E0A, [0x44, 0x0307]⟩,
  ⟨0x1E0B, [0x64, 0x0307]⟩, ⟨0x1E0C, [0x44, 0x0323]⟩, ⟨0x1E0D, [0x64, 0x0323]⟩,
  ⟨0x1E0E, [0x44, 0x0331]⟩, ⟨0x1E0F, [0x64, 0x0331]⟩, ⟨0x1E10, [0x44, 0x0327]⟩,
  ⟨0x1E11, [0x64, 0x0327]⟩, ⟨0x1E12, [0x44, 0x032D]⟩, ⟨0x1E13, [0x64, 0x032D]⟩,
  ⟨0x1E14, [0x45, 0x0304, 0x0300]⟩, ⟨0x1E15, [0x65, 0x0304, 0x0300]⟩,
  ⟨0x1E16, [0x45, 0x0304, 0x0301]⟩, ⟨0x1E17, [0x65, 0x0304, 0x0301]⟩, ⟨0x1E18, [0x45, 0x032D]⟩,
  ⟨0x1E19, [0x65, 0x032D]⟩, ⟨0x1E1A, [0x45, 0x0330]⟩, ⟨0x1E1B, [0x65, 0x0330]⟩,
  ⟨0x1E1C, [0x45, 0x0327, 0x0306]⟩, ⟨0x1E1D, [0x65, 0x0327, 0x0306]⟩, ⟨0x1E1E, [0x46, 0x0307]⟩,
  ⟨0x1E1F, [0x66, 0x0307]⟩, ⟨0x1E20, [0x47, 0x0304]⟩, ⟨0x1E21, [0x67, 0x0304]⟩,
  ⟨0x1E22, [0x48, 0x0307]⟩, ⟨0x1E23, [0x68, 0x0307]⟩, ⟨0x1E24, [0x48, 0x0323]⟩,
  ⟨0x1E25, [0x68, 0x0323]⟩, ⟨0x1E26, [0x48, 0x0308]⟩, ⟨0x1E27, [0x68, 0x0308]⟩,
  ⟨0x1E28, [0x48, 0x0327]⟩, ⟨0x1E29, [0x68, 0x0327]⟩, ⟨0x1E2A, [0x48, 0x032E]⟩,
  ⟨0x1E2B, [0x68, 0x032E]⟩, ⟨0x1E2C, [0x49, 0x0330]⟩, ⟨0x1E2D, [0x69, 0x0330]⟩,
  ⟨0x1E2E, [0x49, 0x0308, 0x0301]⟩, ⟨0x1E2F, [0x69, 0x0308, 0x0301]⟩, ⟨0x1E30, [0x4B, 0x0301]⟩,
  ⟨0x1E31, [0x6B, 0x0301]⟩, ⟨0x1E32, [0x4B, 0x0323]⟩, ⟨0x1E33, [0x6B, 0x0323]⟩,
  ⟨0x1E34, [0x4B, 0x0331]⟩, ⟨0x1E35, [0x6B, 0x0331]⟩, ⟨0x1E36, [0x4C, 0x0323]⟩,
  ⟨0x1E37, [0x6C, 0x0323]⟩, ⟨0x1E38, [0x4C, 0x0323, 0x0304]⟩, ⟨0x1E39, [0x6C, 0x0323, 0x0304]⟩,
  ⟨0x1E3A, [0x4C, 0x0331]⟩, ⟨0x1E3B, [0x6C, 0x0331]⟩, ⟨0x1E3C, [0x4C, 0x032D]⟩,
  ⟨0x1E3D, [0x6C, 0x032D]⟩, ⟨0x1E3E, [0x4D, 0x0301]⟩, ⟨0x1E3F, [0x6D, 0x0301]⟩,
  ⟨0x1E40, [0x4D, 0x0307]⟩, ⟨0x1E41, [0x6D, 0x0307]⟩, ⟨0x1E42, [0x4D, 0x0323]⟩,
  ⟨0x1E43, [0x6D, 0x0323]⟩, ⟨0x1E44, [0x4E, 0x0307]⟩, ⟨0x1E45, [0x6E, 0x0307]⟩,
  ⟨0x1E46, [0x4E, 0x0323]⟩, ⟨0x1E47, [0x6E, 0x0323]⟩, ⟨0x1E48, [0x4E, 0x0331]⟩,
  ⟨0x1E49, [0x6E, 0x0331]⟩, ⟨0x1E4A, [0x4E, 0x032D]⟩, ⟨0x1E4B, [0x6E, 0x032D]⟩,
  ⟨0x1E4C, [0x4F, 0x0303, 0x0301]⟩, ⟨0x1E4D, [0x6F, 0x0303, 0x0301]⟩,
  ⟨0x1E4E, [0x4F, 0x0303, 0x0308]⟩, ⟨0x1E4F, [0x6F, 0x0303, 0x0308]⟩,
  ⟨0x1E50, [0x4F, 0x0304, 0x0300]⟩, ⟨0x1E51, [0x6F, 0x0304, 0x0300]⟩,
  ⟨0x1E52, [0x4F, 0x0304, 0x0301]⟩, ⟨0x1E53, [0x6F, 0x0304, 0x0301]⟩, ⟨0x1E54, [0x50, 0x0301]⟩,
  ⟨0x1E55, [0x70, 0x0301]⟩, ⟨0x1E56, [0x50, 0x0307]⟩, ⟨0x1E57, [0x70, 0x0307]⟩,
  ⟨0x1E58, [0x52, 0x0307]⟩, ⟨0x1E59, [0x72, 0x0307]⟩, ⟨0x1E5A, [0x52, 0x0323]⟩,
  ⟨0x1E5B, [0x72, 0x0323]⟩, ⟨0x1E5C, [0x52, 0x0323, 0x0304]⟩, ⟨0x1E5D, [0x72, 0x0323, 0x0304]⟩,
  ⟨0x1E5E, [0x52, 0x0331]⟩, ⟨0x1E5F, [0x72, 0x0331]⟩, ⟨0x1E60, [0x53, 0x0307]⟩,
  ⟨0x1E61, [0x73, 0x0307]⟩, ⟨0x1E62, [0x53, 0x0323]⟩, ⟨0x1E63, [0x73, 0x0323]⟩,
  ⟨0x1E64, [0x53, 0x0301, 0x0307]⟩, ⟨0x1E65, [0x73, 0x0301, 0x0307]⟩,
  ⟨0x1E66, [0x53, 0x030C, 0x0307]⟩, ⟨0x1E67, [0x73, 0x030C, 0x0307]⟩,
  ⟨0x1E68, [0x53, 0x0323, 0x0307]⟩, ⟨0x1E69, [0x73, 0x0323, 0x0307]⟩, ⟨0x1E6A, [0x54, 0x0307]⟩,
  ⟨0x1E6B, [0x74, 0x0307]⟩, ⟨0x1E6C, [0x54, 0x0323]⟩, ⟨0x1E6D, [0x74, 0x0323]⟩,
  ⟨0x1E6E, [0x54, 0x0331]⟩, ⟨0x1E6F, [0x74, 0x0331]⟩, ⟨0x1E70, [0x54, 0x032D]⟩,
  ⟨0x1E71, [0x74, 0x032D]⟩, ⟨0x1E72, [0x55, 0x0324]⟩, ⟨0x1E73, [0x75, 0x0324]⟩,
  ⟨0x1E74, [0x55, 0x0330]⟩, ⟨0x1E75, [0x75, 0x0330]⟩, ⟨0x1E76, [0x55, 0x032D]⟩,
  ⟨0x1E77, [0x75, 0x032D]⟩, ⟨0x1E78, [0x55, 0x0303, 0x0301]⟩, ⟨0x1E79, [0x75, 0x0303, 0x0301]⟩,
  ⟨0x1E7A, [0x55, 0x0304, 0x0308]⟩, ⟨0x1E7B, [0x75, 0x0304, 0x0308]⟩, ⟨0x1E7C, [0x56, 0x0303]⟩,
  ⟨0x1E7D, [0x76, 0x0303]⟩, ⟨0x1E7E, [0x56, 0x0323]⟩, ⟨0x1E7F, [0x76, 0x0323]⟩,
  ⟨0x1E80, [0x57, 0x0300]⟩, ⟨0x1E81, [0x77, 0x0300]⟩, ⟨0x1E82, [0x57, 0x0301]⟩,
  ⟨0x1E83, [0x77, 0x0301]⟩, ⟨0x1E84, [0x57, 0x0308]⟩, ⟨0x1E85, [0x77, 0x0308]⟩,
  ⟨0x1E86, [0x57, 0x0307]⟩, ⟨0x1E87, [0x77, 0x0307]⟩, ⟨0x1E88, [0x57, 0x0323]⟩,
  ⟨0x1E89, [0x77, 0x0323]⟩, ⟨0x1E8A, [0x58, 0x0307]⟩, ⟨0x1E8B, [0x78, 0x0307]⟩,
  ⟨0x1E8C, [0x58, 0x0308]⟩, ⟨0x1E8D, [0x78, 0x0308]⟩, ⟨0x1E8E, [0x59, 0x0307]⟩,
  ⟨0x1E8F, [0x79, 0x0307]⟩, ⟨0x1E90, [0x5A, 0x0302]⟩, ⟨0x1E91, [0x7A, 0x0302]⟩,
  ⟨0x1E92, [0x5A, 0x0323]⟩, ⟨0x1E93, [0x7A, 0x0323]⟩, ⟨0x1E94, [0x5A, 0x0331]⟩,
  ⟨0x1E95, [0x7A, 0x0331]⟩, ⟨0x1E96, [0x68, 0x0331]⟩, ⟨0x1E97, [0x74, 0x0308]⟩,
  ⟨0x1E98, [0x77, 0x030A]⟩, ⟨0x1E99, [0x79, 0x030A]⟩, ⟨0x1E9A, [0x61, 0x02BE]⟩,
  ⟨0x1E9B, [0x73, 0x0307]⟩, ⟨0x1EA0, [0x41, 0x0323]⟩, ⟨0x1EA1, [0x61, 0x0323]⟩,
  ⟨0x1EA2, [0x41, 0x0309]⟩, ⟨0x1EA3, [0x61, 0x0309]⟩, ⟨0x1EA4, [0x41, 0x0302, 0x0301]⟩,
  ⟨0x1EA5, [0x61, 0x0302, 0x0301]⟩, ⟨0x1EA6, [0x41, 0x0302, 0x0300]⟩,
  ⟨0x1EA7, [0x61, 0x0302, 0x0300]⟩, ⟨0x1EA8, [0x41, 0x0302, 0x0309]⟩,
  ⟨0x1EA9, [0x61, 0x0302, 0x0309]⟩, ⟨0x1EAA, [0x41, 0x0302, 0x0303]⟩,
  ⟨0x1EAB, [0x61, 0x0302, 0x0303]⟩, ⟨0x1EAC, [0x41, 0x0323, 0x0302]⟩,
  ⟨0x1EAD, [0x61, 0x0323, 0x0302]⟩, ⟨0x1EAE, [0x41, 0x0306, 0x0301]⟩,
  ⟨0x1EAF, [0x61, 0x0306, 0x0301]⟩, ⟨0x1EB0, [0x41, 0x0306, 0x0300]⟩,
  ⟨0x1EB1, [0x61, 0x0306, 0x0300]⟩, ⟨0x1EB2, [0x41, 0x0306, 0x0309]⟩,
  ⟨0x1EB3, [0x61, 0x0306, 0x0309]⟩, ⟨0x1EB4, [0x41, 0x0306, 0x0303]⟩,
  ⟨0x1EB5, [0x61, 0x0306, 0x0303]⟩, ⟨0x1EB6, [0x41, 0x0323, 0x0306]⟩,
  ⟨0x1EB7, [0x61, 0x0323, 0x0306]⟩, ⟨0x1EB8, [0x45, 0x0323]⟩, ⟨0x1EB9, [0x65, 0x0323]⟩,
  ⟨0x1EBA, [0x45, 0x0309]⟩, ⟨0x1EBB, [0x65, 0x0309]⟩, ⟨0x1EBC, [0x45, 0x0303]⟩,
  ⟨0x1EBD, [0x65, 0x0303]⟩, ⟨0x1EBE, [0x45, 0x0302, 0x0301]⟩, ⟨0x1EBF, [0x65, 0x0302, 0x0301]⟩,
  ⟨0x1EC0, [0x45, 0x0302, 0x0300]⟩, ⟨0x1EC1, [0x65, 0x0302, 0x0300]⟩,
  ⟨0x1EC2, [0x45, 0x0302, 0x0309]⟩, ⟨0x1EC3, [0x65, 0x0302, 0x0309]⟩,
  ⟨0x1EC4, [0x45, 0x0302, 0x0303]⟩, ⟨0x1EC5, [0x65, 0x0302, 0x0303]⟩,
  ⟨0x1EC6, [0x45, 0x0323, 0x0302]⟩, ⟨0x1EC7, [0x65, 0x0323, 0x0302]⟩, ⟨0x1EC8, [0x49, 0x0309]⟩,
  ⟨0x1EC9, [0x69, 0x0309]⟩, ⟨0x1ECA, [0x49, 0x0323]⟩, ⟨0x1ECB, [0x69, 0x0323]⟩,
  ⟨0x1ECC, [0x4F, 0x0323]⟩, ⟨0x1ECD, [0x6F, 0x0323]⟩, ⟨0x1ECE, [0x4F, 0x0309]⟩,
  ⟨0x1ECF, [0x6F, 0x0309]⟩, ⟨0x1ED0, [0x4F, 0x0302, 0x0301]⟩, ⟨0x1ED1, [0x6F, 0x0302, 0x0301]⟩,
  ⟨0x1ED2, [0x4F, 0x0302, 0x0300]⟩, ⟨0x1ED3, [0x6F, 0x0302, 0x0300]⟩,
  ⟨0x1ED4, [0x4F, 0x0302, 0x0309]⟩, ⟨0x1ED5, [0x6F, 0x0302, 0x0309]⟩,
  ⟨0x1ED6, [0x4F, 0x0302, 0x0303]⟩, ⟨0x1ED7, [0x6F, 0x0302, 0x0303]⟩,
  ⟨0x1ED8, [0x4F, 0x0323, 0x0302]⟩, ⟨0x1ED9, [0x6F, 0x0323, 0x0302]⟩,
  ⟨0x1EDA, [0x4F, 0x031B, 0x0301]⟩, ⟨0x1EDB, [0x6F, 0x031B, 0x0301]⟩,
  ⟨0x1EDC, [0x4F, 0x031B, 0x0300]⟩, ⟨0x1EDD, [0x6F, 0x031B, 0x0300]⟩,
  ⟨0x1EDE, [0x4F, 0x031B, 0x0309]⟩, ⟨0x1EDF, [0x6F, 0x031B, 0x0309]⟩,
  ⟨0x1EE0, [0x4F, 0x031B, 0x0303]⟩, ⟨0x1EE1, [0x6F, 0x031B, 0x0303]⟩,
  ⟨0x1EE2, [0x4F, 0x031B, 0x0323]⟩, ⟨0x1EE3, [0x6F, 0x031B, 0x0323]⟩, ⟨0x1EE4, [0x55, 0x0323]⟩,
  ⟨0x1EE5, [0x75, 0x0323]⟩, ⟨0x1EE6, [0x55, 0x0309]⟩, ⟨0x1EE7, [0x75, 0x0309]⟩,
  ⟨0x1EE8, [0x55, 0x031B, 0x0301]⟩, ⟨0x1EE9, [0x75, 0x031B, 0x0301]⟩,
  ⟨0x1EEA, [0x55, 0x031B, 0x0300]⟩, ⟨0x1EEB, [0x75, 0x031B, 0x0300]⟩,
  ⟨0x1EEC, [0x55, 0x031B, 0x0309]⟩, ⟨0x1EED, [0x75, 0x031B, 0x0309]⟩,
  ⟨0x1EEE, [0x55, 0x031B, 0x0303]⟩, ⟨0x1EEF, [0x75, 0x031B, 0x0303]⟩,
  ⟨0x1EF0, [0x55, 0x031B, 0x0323]⟩, ⟨0x1EF1, [0x75, 0x031B, 0x0323]⟩, ⟨0x1EF2, [0x59, 0x0300]⟩,
  ⟨0x1EF3, [0x79, 0x0300]⟩, ⟨0x1EF4, [0x59, 0x0323]⟩, ⟨0x1EF5, [0x79, 0x0323]⟩,
  ⟨0x1EF6, [0x59, 0x0309]⟩, ⟨0x1EF7, [0x79, 0x0309]⟩, ⟨0x1EF8, [0x59, 0x0303]⟩,
  ⟨0x1EF9, [0x79, 0x0303]⟩, ⟨0x1F00, [0x03B1, 0x0313]⟩, ⟨0x1F01, [0x03B1, 0x0314]⟩,
  ⟨0x1F02, [0x03B1, 0x0313, 0x0300]⟩, ⟨0x1F03, [0x03B1, 0x0314, 0x0300]⟩,
  ⟨0x1F04, [0x03B1, 0x0313, 0x0301]⟩, ⟨0x1F05, [0x03B1, 0x0314, 0x0301]⟩,
  ⟨0x1F06, [0x03B1, 0x0313, 0x0342]⟩, ⟨0x1F07, [0x03B1, 0x0314, 0x0342]⟩,
  ⟨0x1F08, [0x0391, 0x0313]⟩, ⟨0x1F09, [0x0391, 0x0314]⟩, ⟨0x1F0A, [0x0391, 0x0313, 0x0300]⟩,
  ⟨0x1F0B, [0x0391, 0x0314, 0x0300]⟩, ⟨0x1F0C, [0x0391, 0x0313, 0x0301]⟩,
  ⟨0x1F0D, [0x0391, 0x0314, 0x0301]⟩, ⟨0x1F0E, [0x0391, 0x0313, 0x0342]⟩,
  ⟨0x1F0F, [0x0391, 0x0314, 0x0342]⟩, ⟨0x1F10, [0x03B5, 0x0313]⟩, ⟨0x1F11, [0x03B5, 0x0314]⟩,
  ⟨0x1F12, [0x03B5, 0x0313, 0x0300]⟩, ⟨0x1F13, [0x03B5, 0x0314, 0x0300]⟩,
  ⟨0x1F14, [0x03B5, 0x0313, 0x0301]⟩, ⟨0x1F15, [0x03B5, 0x0314, 0x0301]⟩,
  ⟨0x1F18, [0x0395, 0x0313]⟩, ⟨0x1F19, [0x0395, 0x0314]⟩, ⟨0x1F1A, [0x0395, 0x0313, 0x0300]⟩,
  ⟨0x1F1B, [0x0395, 0x0314, 0x0300]⟩, ⟨0x1F1C, [0x0395, 0x0313, 0x0301]⟩,
  ⟨0x1F1D, [0x0395, 0x0314, 0x0301]⟩, ⟨0x1F20, [0x03B7, 0x0313]⟩, ⟨0x1F21, [0x03B7, 0x0314]⟩,
  ⟨0x1F22, [0x03B7, 0x0313, 0x0300]⟩, ⟨0x1F23, [0x03B7, 0x0314, 0x0300]⟩,
  ⟨0x1F24, [0x03B7, 0x0313, 0x0301]⟩, ⟨0x1F25, [0x03B7, 0x0314, 0x0301]⟩,
  ⟨0x1F26, [0x03B7, 0x0313, 0x0342]⟩, ⟨0x1F27, [0x03B7, 0x0314, 0x0342]⟩,
  ⟨0x1F28, [0x0397, 0x0313]⟩, ⟨0x1F29, [0x0397, 0x0314]⟩, ⟨0x1F2A, [0x0397, 0x0313, 0x0300]⟩,
  ⟨0x1F2B, [0x0397, 0x0314, 0x0300]⟩, ⟨0x1F2C, [0x0397, 0x0313, 0x0301]⟩,
  ⟨0x1F2D, [0x0397, 0x0314, 0x0301]⟩, ⟨0x1F2E, [0x0397, 0x0313, 0x0342]⟩,
  ⟨0x1F2F, [0x0397, 0x0314, 0x0342]⟩, ⟨0x1F30, [0x03B9, 0x0313]⟩, ⟨0x1F31, [0x03B9, 0x0314]⟩,
  ⟨0x1F32, [0x03B9, 0x0313, 0x0300]⟩, ⟨0x1F33, [0x03B9, 0x0314, 0x0300]⟩,
  ⟨0x1F34, [0x03B9, 0x0313, 0x0301]⟩, ⟨0x1F35, [0x03B9, 0x0314, 0x0301]⟩,
  ⟨0x1F36, [0x03B9, 0x0313, 0x0342]⟩, ⟨0x1F37, [0x03B9, 0x0314, 0x0342]⟩,
  ⟨0x1F38, [0x0399, 0x0313]⟩, ⟨0x1F39, [0x0399, 0x0314]⟩, ⟨0x1F3A, [0x0399, 0x0313, 0x0300]⟩,
  ⟨0x1F3B, [0x0399, 0x0314, 0x0300]⟩, ⟨0x1F3C, [0x0399, 0x0313, 0x0301]⟩,
  ⟨0x1F3D, [0x0399, 0x0314, 0x0301]⟩, ⟨0x1F3E, [0x0399, 0x0313, 0x0342]⟩,
  ⟨0x1F3F, [0x0399, 0x0314, 0x0342]⟩, ⟨0x1F40, [0x03BF, 0x0313]⟩, ⟨0x1F41, [0x03BF, 0x0314]⟩,
  ⟨0x1F42, [0x03BF, 0x0313, 0x0300]⟩, ⟨0x1F43, [0x03BF, 0x0314, 0x0300]⟩,
  ⟨0x1F44, [0x03BF, 0x0313, 0x0301]⟩, ⟨0x1F45, [0x03BF, 0x0314, 0x0301]⟩,
  ⟨0x1F48, [0x039F, 0x0313]⟩, ⟨0x1F49, [0x039F, 0x0314]⟩, ⟨0x1F4A, [0x039F, 0x0313, 0x0300]⟩,
  ⟨0x1F4B, [0x039F, 0x0314, 0x0300]⟩, ⟨0x1F4C, [0x039F, 0x0313, 0x0301]⟩,
  ⟨0x1F4D, [0x039F, 0x0314, 0x0301]⟩, ⟨0x1F50, [0x03C5, 0x0313]⟩, ⟨0x1F51, [0x03C5, 0x0314]⟩,
  ⟨0x1F52, [0x03C5, 0x0313, 0x0300]⟩, ⟨0x1F53, [0x03C5, 0x0314, 0x0300]⟩,
  ⟨0x1F54, [0x03C5, 0x0313, 0x0301]⟩, ⟨0x1F55, [0x03C5, 0x0314, 0x0301]⟩,
  ⟨0x1F56, [0x03C5, 0x0313, 0x0342]⟩, ⟨0x1F57, [0x03C5, 0x0314, 0x0342]⟩,
  ⟨0x1F59, [0x03A5, 0x0314]⟩, ⟨0x1F5B, [0x03A5, 0x0314, 0x0300]⟩,
  ⟨0x1F5D, [0x03A5, 0x0314, 0x0301]⟩, ⟨0x1F5F, [0x03A5, 0x0314, 0x0342]⟩,
  ⟨0x1F60, [0x03C9, 0x0313]⟩, ⟨0x1F61, [0x03C9, 0x0314]⟩, ⟨0x1F62, [0x03C9, 0x0313, 0x0300]⟩,
  ⟨0x1F63, [0x03C9, 0x0314, 0x0300]⟩, ⟨0x1F64, [0x03C9, 0x0313, 0x0301]⟩,
  ⟨0x1F65, [0x03C9, 0x0314, 0x0301]⟩, ⟨0x1F66, [0x03C9, 0x0313, 0x0342]⟩,
  ⟨0x1F67, [0x03C9, 0x0314, 0x0342]⟩, ⟨0x1F68, [0x03A9, 0x0313]⟩, ⟨0x1F69, [0x03A9, 0x0314]⟩,
  ⟨0x1F6A, [0x03A9, 0x0313, 0x0300]⟩, ⟨0x1F6B, [0x03A9, 0x0314, 0x0300]⟩,
  ⟨0x1F6C, [0x03A9, 0x0313, 0x0301]⟩, ⟨0x1F6D, [0x03A9, 0x0314, 0x0301]⟩,
  ⟨0x1F6E, [0x03A9, 0x0313, 0x0342]⟩, ⟨0x1F6F, [0x03A9, 0x0314, 0x0342]⟩,
  ⟨0x1F70, [0x03B1, 0x0300]⟩, ⟨0x1F71, [0x03B1, 0x0301]⟩, ⟨0x1F72, [0x03B5, 0x0300]⟩,
  ⟨0x1F73, [0x03B5, 0x0301]⟩, ⟨0x1F74, [0x03B7, 0x0300]⟩, ⟨0x1F75, [0x03B7, 0x0301]⟩,
  ⟨0x1F76, [0x03B9, 0x0300]⟩, ⟨0x1F77, [0x03B9, 0x0301]⟩, ⟨0x1F78, [0x03BF, 0x0300]⟩,
  ⟨0x1F79, [0x03BF, 0x0301]⟩, ⟨0x1F7A, [0x03C5, 0x0300]⟩, ⟨0x1F7B, [0x03C5, 0x0301]⟩,
  ⟨0x1F7C, [0x03C9, 0x0300]⟩, ⟨0x1F7D, [0x03C9, 0x0301]⟩, ⟨0x1F80, [0x03B1, 0x0313, 0x0345]⟩,
  ⟨0x1F81, [0x03B1, 0x0314, 0x0345]⟩, ⟨0x1F82, [0x03B1, 0x0313, 0x0300, 0x0345]⟩,
  ⟨0x1F83, [0x03B1, 0x0314, 0x0300, 0x0345]⟩, ⟨0x1F84, [0x03B1, 0x0313, 0x0301, 0x0345]⟩,
  ⟨0x1F85, [0x03B1, 0x0314, 0x0301, 0x0345]⟩, ⟨0x1F86, [0x03B1, 0x0313, 0x0342, 0x0345]⟩,
  ⟨0x1F87, [0x03B1, 0x0314, 0x0342, 0x0345]⟩, ⟨0x1F88, [0x0391, 0x0313, 0x0345]⟩,
  ⟨0x1F89, [0x0391, 0x0314, 0x0345]⟩, ⟨0x1F8A, [0x0391, 0x0313, 0x0300, 0x0345]⟩,
  ⟨0x1F8B, [0x0391, 0x0314, 0x0300, 0x0345]⟩, ⟨0x1F8C, [0x0391, 0x0313, 0x0301, 0x0345]⟩,
  ⟨0x1F8D, [0x0391, 0x0314, 0x0301, 0x0345]⟩, ⟨0x1F8E, [0x0391, 0x0313, 0x0342, 0x0345]⟩,
  ⟨0x1F8F, [0x0391, 0x0314, 0x0342, 0x0345]⟩, ⟨0x1F90, [0x03B7, 0x0313, 0x0345]⟩,
  ⟨0x1F91, [0x03B7, 0x0314, 0x0345]⟩, ⟨0x1F92, [0x03B7, 0x0313, 0x0300, 0x0345]⟩,
  ⟨0x1F93, [0x03B7, 0x0314, 0x0300, 0x0345]⟩, ⟨0x1F94, [0x03B7, 0x0313, 0x0301, 0x0345]⟩,
  ⟨0x1F95, [0x03B7, 0x0314, 0x0301, 0x0345]⟩, ⟨0x1F96, [0x03B7, 0x0313, 0x0342, 0x0345]⟩,
  ⟨0x1F97, [0x03B7, 0x0314, 0x0342, 0x0345]⟩, ⟨0x1F98, [0x0397, 0x0313, 0x0345]⟩,
  ⟨0x1F99, [0x0397, 0x0314, 0x0345]⟩, ⟨0x1F9A, [0x0397, 0x0313, 0x0300, 0x0345]⟩,
  ⟨0x1F9B, [0x0397, 0x0314, 0x0300, 0x0345]⟩, ⟨0x1F9C, [0x0397, 0x0313, 0x0301, 0x0345]⟩,
  ⟨0x1F9D, [0x0397, 0x0314, 0x0301, 0x0345]⟩, ⟨0x1F9E, [0x0397, 0x0313, 0x0342, 0x0345]⟩,
  ⟨0x1F9F, [0x0397, 0x0314, 0x0342, 0x0345]⟩, ⟨0x1FA0, [0x03C9, 0x0313, 0x0345]⟩,
  ⟨0x1FA1, [0x03C9, 0x0314, 0x0345]⟩, ⟨0x1FA2, [0x03C9, 0x0313, 0x0300, 0x0345]⟩,
  ⟨0x1FA3, [0x03C9, 0x0314, 0x0300, 0x0345]⟩, ⟨0x1FA4, [0x03C9, 0x0313, 0x0301, 0x0345]⟩,
  ⟨0x1FA5, [0x03C9, 0x0314, 0x0301, 0x0345]⟩, ⟨0x1FA6, [0x03C9, 0x0313, 0x0342, 0x0345]⟩,
  ⟨0x1FA7, [0x03C9, 0x0314, 0x0342, 0x0345]⟩, ⟨0x1FA8, [0x03A9, 0x0313, 0x0345]⟩,
  ⟨0x1FA9, [0x03A9, 0x0314, 0x0345]⟩, ⟨0x1FAA, [0x03A9, 0x0313, 0x0300, 0x0345]⟩,
  ⟨0x1FAB, [0x03A9, 0x0314, 0x0300, 0x0345]⟩, ⟨0x1FAC, [0x03A9, 0x0313, 0x0301, 0x0345]⟩,
  ⟨0x1FAD, [0x03A9, 0x0314, 0x0301, 0x0345]⟩, ⟨0x1FAE, [0x03A9, 0x0313, 0x0342, 0x0345]⟩,
  ⟨0x1FAF, [0x03A9, 0x0314, 0x0342, 0x0345]⟩, ⟨0x1FB0, [0x03B1, 0x0306]⟩,
  ⟨0x1FB1, [0x03B1, 0x0304]⟩, ⟨0x1FB2, [0x03B1, 0x0300, 0x0345]⟩, ⟨0x1FB3, [0x03B1, 0x0345]⟩,
  ⟨0x1FB4, [0x03B1, 0x0301, 0x0345]⟩, ⟨0x1FB6, [0x03B1, 0x0342]⟩,
  ⟨0x1FB7, [0x03B1, 0x0342, 0x0345]⟩, ⟨0x1FB8, [0x0391, 0x0306]⟩, ⟨0x1FB9, [0x0391, 0x0304]⟩,
  ⟨0x1FBA, [0x0391, 0x0300]⟩, ⟨0x1FBB, [0x0391, 0x0301]⟩, ⟨0x1FBC, [0x0391, 0x0345]⟩,
  ⟨0x1FBD, [0x20, 0x0313]⟩, ⟨0x1FBE, [0x03B9]⟩, ⟨0x1FBF, [0x20, 0x0313]⟩,
  ⟨0x1FC0, [0x20, 0x0342]⟩, ⟨0x1FC1, [0x20, 0x0308, 0x0342]⟩, ⟨0x1FC2, [0x03B7, 0x0300, 0x0345]⟩,
  ⟨0x1FC3, [0x03B7, 0x0345]⟩, ⟨0x1FC4, [0x03B7, 0x0301, 0x0345]⟩, ⟨0x1FC6, [0x03B7, 0x0342]⟩,
  ⟨0x1FC7, [0x03B7, 0x0342, 0x0345]⟩, ⟨0x1FC8, [0x0395, 0x0300]⟩, ⟨0x1FC9, [0x0395, 0x0301]⟩,
  ⟨0x1FCA, [0x0397, 0x0300]⟩, ⟨0x1FCB, [0x0397, 0x0301]⟩, ⟨0x1FCC, [0x0397, 0x0345]⟩,
  ⟨0x1FCD, [0x20, 0x0313, 0x0300]⟩, ⟨0x1FCE, [0x20, 0x0313, 0x0301]⟩,
  ⟨0x1FCF, [0x20, 0x0313, 0x0342]⟩, ⟨0x1FD0, [0x03B9, 0x0306]⟩, ⟨0x1FD1, [0x03B9, 0x0304]⟩,
  ⟨0x1FD2, [0x03B9, 0x0308, 0x0300]⟩, ⟨0x1FD3, [0x03B9, 0x0308, 0x0301]⟩,
  ⟨0x1FD6, [0x03B9, 0x0342]⟩, ⟨0x1FD7, [0x03B9, 0x0308, 0x0342]⟩, ⟨0x1FD8, [0x0399, 0x0306]⟩,
  ⟨0x1FD9, [0x0399, 0x0304]⟩, ⟨0x1FDA, [0x0399, 0x0300]⟩, ⟨0x1FDB, [0x0399, 0x0301]⟩,
  ⟨0x1FDD, [0x20, 0x0314, 0x0300]⟩, ⟨0x1FDE, [0x20, 0x0314, 0x0301]⟩,
  ⟨0x1FDF, [0x20, 0x0314, 0x0342]⟩, ⟨0x1FE0, [0x03C5, 0x0306]⟩, ⟨0x1FE1, [0x03C5, 0x0304]⟩,
  ⟨0x1FE2, [0x03C5, 0x0308, 0x0300]⟩, ⟨0x1FE3, [0x03C5, 0x0308, 0x0301]⟩,
  ⟨0x1FE4, [0x03C1, 0x0313]⟩, ⟨0x1FE5, [0x03C1, 0x0314]⟩, ⟨0x1FE6, [0x03C5, 0x0342]⟩,
  ⟨0x1FE7, [0x03C5, 0x0308, 0x0342]⟩, ⟨0x1FE8, [0x03A5, 0x0306]⟩, ⟨0x1FE9, [0x03A5, 0x0304]⟩,
  ⟨0x1FEA, [0x03A5, 0x0300]⟩, ⟨0x1FEB, [0x03A5, 0x0301]⟩, ⟨0x1FEC, [0x03A1, 0x0314]⟩,
  ⟨0x1FED, [0x20, 0x0308, 0x0300]⟩, ⟨0x1FEE, [0x20, 0x0308, 0x0301]⟩, ⟨0x1FEF, [0x60]⟩,
  ⟨0x1FF2, [0x03C9, 0x0300, 0x0345]⟩, ⟨0x1FF3, [0x03C9, 0x0345]⟩,
  ⟨0x1FF4, [0x03C9, 0x0301, 0x0345]⟩, ⟨0x1FF6, [0x03C9, 0x0342]⟩,
  ⟨0x1FF7, [0x03C9, 0x0342, 0x0345]⟩, ⟨0x1FF8, [0x039F, 0x0300]⟩, ⟨0x1FF9, [0x039F, 0x0301]⟩,
  ⟨0x1FFA, [0x03A9, 0x0300]⟩, ⟨0x1FFB, [0x03A9, 0x0301]⟩, ⟨0x1FFC, [0x03A9, 0x0345]⟩,
  ⟨0x1FFD, [0x20, 0x0301]⟩, ⟨0x1FFE, [0x20, 0x0314]⟩]

end PostSearch.Unicode
