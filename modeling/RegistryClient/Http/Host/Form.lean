import RegistryClient.Text.Range
import RegistryClient.Text.Unprintable

/-!
# What the characters of a host are read as

A host may be written in any script.  Its characters are read without regard to
case and to compatibility forms: a capital as the small letter, a digit in a circle
as the digit.  Some do not count at all, and some may not occur.

Of the characters that are read as ones outside ASCII, the tables say only that
they are: what a host is does not hang on which one, as far as anything is decided
here, and the other tables of hosts give such a character the properties of the
text that it is read as.

The tables are those of Unicode 16 for internationalized hosts.
-/

namespace RegistryClient.Http.Host

open Text

/-- The characters that do not count in a host. -/
def ignoredRanges : List (Nat × Nat) :=
  [(0xAD, 0xAD), (0x34F, 0x34F), (0x115F, 0x1160), (0x17B4, 0x17B5), (0x180B, 0x180F),
    (0x200B, 0x200B), (0x2060, 0x2064), (0x206A, 0x206F), (0x3164, 0x3164), (0xFE00, 0xFE0F),
    (0xFEFF, 0xFEFF), (0xFFA0, 0xFFA0), (0x1BCA0, 0x1BCA3), (0x1D173, 0x1D17A), (0xE0100, 0xE01EF)]

/-- The characters with a visible form that may not occur in a host, or are read as
a text with a character in it that may not. -/
def refusedRanges : List (Nat × Nat) :=
  [(0xA8, 0xA8), (0xAF, 0xAF), (0xB4, 0xB4), (0xB8, 0xB8), (0x2D8, 0x2DD), (0x37A, 0x37A),
    (0x384, 0x385), (0x1FBD, 0x1FBD), (0x1FBF, 0x1FC1), (0x1FCD, 0x1FCF), (0x1FDD, 0x1FDF),
    (0x1FED, 0x1FEF), (0x1FFD, 0x1FFE), (0x2017, 0x2017), (0x2024, 0x2026), (0x203E, 0x203E),
    (0x2047, 0x2049), (0x2100, 0x2101), (0x2105, 0x2106), (0x2488, 0x249B), (0x2A74, 0x2A74),
    (0x2FF0, 0x2FFF), (0x309B, 0x309C), (0x31EF, 0x31EF), (0x33C2, 0x33C2), (0x33C7, 0x33C7),
    (0x33D8, 0x33D8), (0xFC5E, 0xFC63), (0xFDFA, 0xFDFB), (0xFE12, 0xFE13), (0xFE16, 0xFE16),
    (0xFE19, 0xFE19), (0xFE30, 0xFE30), (0xFE37, 0xFE38), (0xFE47, 0xFE4C), (0xFE52, 0xFE52),
    (0xFE55, 0xFE56), (0xFE5B, 0xFE5C), (0xFE5F, 0xFE5F), (0xFE64, 0xFE65), (0xFE68, 0xFE68),
    (0xFE6A, 0xFE6B), (0xFE70, 0xFE70), (0xFE72, 0xFE72), (0xFE74, 0xFE74), (0xFE76, 0xFE76),
    (0xFE78, 0xFE78), (0xFE7A, 0xFE7A), (0xFE7C, 0xFE7C), (0xFE7E, 0xFE7E), (0xFF02, 0xFF03),
    (0xFF05, 0xFF05), (0xFF0F, 0xFF0F), (0xFF1A, 0xFF1A), (0xFF1C, 0xFF1C), (0xFF1E, 0xFF20),
    (0xFF3B, 0xFF3E), (0xFF40, 0xFF40), (0xFF5B, 0xFF5D), (0xFFE3, 0xFFE3), (0xFFFC, 0xFFFD),
    (0x1F100, 0x1F100)]

/-- Ranges of characters that are read as single ones of ASCII, or as the full stop
between two labels, each with what its first is read as. -/
def singleForms : List (Nat × Nat × Nat) :=
  [(0xAA, 0xAA, 0x61), (0xB2, 0xB3, 0x32), (0xB9, 0xB9, 0x31), (0xBA, 0xBA, 0x6F),
    (0x17F, 0x17F, 0x73), (0x2B0, 0x2B0, 0x68), (0x2B2, 0x2B2, 0x6A), (0x2B3, 0x2B3, 0x72),
    (0x2B7, 0x2B7, 0x77), (0x2B8, 0x2B8, 0x79), (0x2E1, 0x2E1, 0x6C), (0x2E2, 0x2E2, 0x73),
    (0x2E3, 0x2E3, 0x78), (0x37E, 0x37E, 0x3B), (0x1D2C, 0x1D2C, 0x61), (0x1D2E, 0x1D2E, 0x62),
    (0x1D30, 0x1D31, 0x64), (0x1D33, 0x1D3A, 0x67), (0x1D3C, 0x1D3C, 0x6F), (0x1D3E, 0x1D3E, 0x70),
    (0x1D3F, 0x1D3F, 0x72), (0x1D40, 0x1D41, 0x74), (0x1D42, 0x1D42, 0x77), (0x1D43, 0x1D43, 0x61),
    (0x1D47, 0x1D47, 0x62), (0x1D48, 0x1D49, 0x64), (0x1D4D, 0x1D4D, 0x67), (0x1D4F, 0x1D4F, 0x6B),
    (0x1D50, 0x1D50, 0x6D), (0x1D52, 0x1D52, 0x6F), (0x1D56, 0x1D56, 0x70), (0x1D57, 0x1D58, 0x74),
    (0x1D5B, 0x1D5B, 0x76), (0x1D62, 0x1D62, 0x69), (0x1D63, 0x1D63, 0x72), (0x1D64, 0x1D65, 0x75),
    (0x1D9C, 0x1D9C, 0x63), (0x1DA0, 0x1DA0, 0x66), (0x1DBB, 0x1DBB, 0x7A), (0x2070, 0x2070, 0x30),
    (0x2071, 0x2071, 0x69), (0x2074, 0x2079, 0x34), (0x207A, 0x207A, 0x2B), (0x207C, 0x207C, 0x3D),
    (0x207D, 0x207E, 0x28), (0x207F, 0x207F, 0x6E), (0x2080, 0x2089, 0x30), (0x208A, 0x208A, 0x2B),
    (0x208C, 0x208C, 0x3D), (0x208D, 0x208E, 0x28), (0x2090, 0x2090, 0x61), (0x2091, 0x2091, 0x65),
    (0x2092, 0x2092, 0x6F), (0x2093, 0x2093, 0x78), (0x2095, 0x2095, 0x68), (0x2096, 0x2099, 0x6B),
    (0x209A, 0x209A, 0x70), (0x209B, 0x209C, 0x73), (0x2102, 0x2102, 0x63), (0x210A, 0x210B, 0x67),
    (0x210C, 0x210C, 0x68), (0x210D, 0x210D, 0x68), (0x210E, 0x210E, 0x68), (0x2110, 0x2110, 0x69),
    (0x2111, 0x2111, 0x69), (0x2112, 0x2112, 0x6C), (0x2113, 0x2113, 0x6C), (0x2115, 0x2115, 0x6E),
    (0x2119, 0x211B, 0x70), (0x211C, 0x211C, 0x72), (0x211D, 0x211D, 0x72), (0x2124, 0x2124, 0x7A),
    (0x2128, 0x2128, 0x7A), (0x212A, 0x212A, 0x6B), (0x212C, 0x212D, 0x62), (0x212F, 0x212F, 0x65),
    (0x2130, 0x2131, 0x65), (0x2133, 0x2133, 0x6D), (0x2134, 0x2134, 0x6F), (0x2139, 0x2139, 0x69),
    (0x2145, 0x2145, 0x64), (0x2146, 0x2147, 0x64), (0x2148, 0x2149, 0x69), (0x2160, 0x2160, 0x69),
    (0x2164, 0x2164, 0x76), (0x2169, 0x2169, 0x78), (0x216C, 0x216C, 0x6C), (0x216D, 0x216E, 0x63),
    (0x216F, 0x216F, 0x6D), (0x2170, 0x2170, 0x69), (0x2174, 0x2174, 0x76), (0x2179, 0x2179, 0x78),
    (0x217C, 0x217C, 0x6C), (0x217D, 0x217E, 0x63), (0x217F, 0x217F, 0x6D), (0x2460, 0x2468, 0x31),
    (0x24B6, 0x24CF, 0x61), (0x24D0, 0x24E9, 0x61), (0x24EA, 0x24EA, 0x30), (0x2C7C, 0x2C7C, 0x6A),
    (0x2C7D, 0x2C7D, 0x76), (0x3002, 0x3002, 0x2E), (0xA7F2, 0xA7F2, 0x63), (0xA7F3, 0xA7F3, 0x66),
    (0xA7F4, 0xA7F4, 0x71), (0xFB29, 0xFB29, 0x2B), (0xFE10, 0xFE10, 0x2C), (0xFE14, 0xFE14, 0x3B),
    (0xFE15, 0xFE15, 0x21), (0xFE33, 0xFE33, 0x5F), (0xFE34, 0xFE34, 0x5F), (0xFE35, 0xFE36, 0x28),
    (0xFE4D, 0xFE4D, 0x5F), (0xFE4E, 0xFE4E, 0x5F), (0xFE4F, 0xFE4F, 0x5F), (0xFE50, 0xFE50, 0x2C),
    (0xFE54, 0xFE54, 0x3B), (0xFE57, 0xFE57, 0x21), (0xFE59, 0xFE5A, 0x28), (0xFE60, 0xFE60, 0x26),
    (0xFE61, 0xFE62, 0x2A), (0xFE63, 0xFE63, 0x2D), (0xFE66, 0xFE66, 0x3D), (0xFE69, 0xFE69, 0x24),
    (0xFF01, 0xFF01, 0x21), (0xFF04, 0xFF04, 0x24), (0xFF06, 0xFF0E, 0x26), (0xFF10, 0xFF19, 0x30),
    (0xFF1B, 0xFF1B, 0x3B), (0xFF1D, 0xFF1D, 0x3D), (0xFF21, 0xFF3A, 0x61), (0xFF3F, 0xFF3F, 0x5F),
    (0xFF41, 0xFF5A, 0x61), (0xFF5E, 0xFF5E, 0x7E), (0xFF61, 0xFF61, 0x2E),
    (0x107A5, 0x107A5, 0x71), (0x1CCD6, 0x1CCEF, 0x61), (0x1CCF0, 0x1CCF9, 0x30),
    (0x1D400, 0x1D419, 0x61), (0x1D41A, 0x1D433, 0x61), (0x1D434, 0x1D44D, 0x61),
    (0x1D44E, 0x1D454, 0x61), (0x1D456, 0x1D467, 0x69), (0x1D468, 0x1D481, 0x61),
    (0x1D482, 0x1D49B, 0x61), (0x1D49C, 0x1D49C, 0x61), (0x1D49E, 0x1D49F, 0x63),
    (0x1D4A2, 0x1D4A2, 0x67), (0x1D4A5, 0x1D4A6, 0x6A), (0x1D4A9, 0x1D4AC, 0x6E),
    (0x1D4AE, 0x1D4B5, 0x73), (0x1D4B6, 0x1D4B9, 0x61), (0x1D4BB, 0x1D4BB, 0x66),
    (0x1D4BD, 0x1D4C3, 0x68), (0x1D4C5, 0x1D4CF, 0x70), (0x1D4D0, 0x1D4E9, 0x61),
    (0x1D4EA, 0x1D503, 0x61), (0x1D504, 0x1D505, 0x61), (0x1D507, 0x1D50A, 0x64),
    (0x1D50D, 0x1D514, 0x6A), (0x1D516, 0x1D51C, 0x73), (0x1D51E, 0x1D537, 0x61),
    (0x1D538, 0x1D539, 0x61), (0x1D53B, 0x1D53E, 0x64), (0x1D540, 0x1D544, 0x69),
    (0x1D546, 0x1D546, 0x6F), (0x1D54A, 0x1D550, 0x73), (0x1D552, 0x1D56B, 0x61),
    (0x1D56C, 0x1D585, 0x61), (0x1D586, 0x1D59F, 0x61), (0x1D5A0, 0x1D5B9, 0x61),
    (0x1D5BA, 0x1D5D3, 0x61), (0x1D5D4, 0x1D5ED, 0x61), (0x1D5EE, 0x1D607, 0x61),
    (0x1D608, 0x1D621, 0x61), (0x1D622, 0x1D63B, 0x61), (0x1D63C, 0x1D655, 0x61),
    (0x1D656, 0x1D66F, 0x61), (0x1D670, 0x1D689, 0x61), (0x1D68A, 0x1D6A3, 0x61),
    (0x1D7CE, 0x1D7D7, 0x30), (0x1D7D8, 0x1D7E1, 0x30), (0x1D7E2, 0x1D7EB, 0x30),
    (0x1D7EC, 0x1D7F5, 0x30), (0x1D7F6, 0x1D7FF, 0x30), (0x1F12B, 0x1F12B, 0x63),
    (0x1F12C, 0x1F12C, 0x72), (0x1F130, 0x1F149, 0x61), (0x1FBF0, 0x1FBF9, 0x30)]

/-- The characters that are read as longer texts with ASCII characters in them, and a
few whose texts differ within themselves in direction. -/
def longForms : List (Nat × String) :=
  [(0xBC, "1⁄4"), (0xBD, "1⁄2"), (0xBE, "3⁄4"), (0x130, "i̇"), (0x132, "ij"), (0x133, "ij"),
    (0x13F, "l·"), (0x140, "l·"), (0x149, "ʼn"), (0x1C4, "dž"), (0x1C5, "dž"), (0x1C6, "dž"),
    (0x1C7, "lj"), (0x1C8, "lj"), (0x1C9, "lj"), (0x1CA, "nj"), (0x1CB, "nj"), (0x1CC, "nj"),
    (0x1F1, "dz"), (0x1F2, "dz"), (0x1F3, "dz"), (0x1E9A, "aʾ"), (0x203C, "!!"), (0x20A8, "rs"),
    (0x2103, "°c"), (0x2109, "°f"), (0x2116, "no"), (0x2120, "sm"), (0x2121, "tel"), (0x2122, "tm"),
    (0x213B, "fax"), (0x2150, "1⁄7"), (0x2151, "1⁄9"), (0x2152, "1⁄10"), (0x2153, "1⁄3"),
    (0x2154, "2⁄3"), (0x2155, "1⁄5"), (0x2156, "2⁄5"), (0x2157, "3⁄5"), (0x2158, "4⁄5"),
    (0x2159, "1⁄6"), (0x215A, "5⁄6"), (0x215B, "1⁄8"), (0x215C, "3⁄8"), (0x215D, "5⁄8"),
    (0x215E, "7⁄8"), (0x215F, "1⁄"), (0x2161, "ii"), (0x2162, "iii"), (0x2163, "iv"),
    (0x2165, "vi"), (0x2166, "vii"), (0x2167, "viii"), (0x2168, "ix"), (0x216A, "xi"),
    (0x216B, "xii"), (0x2171, "ii"), (0x2172, "iii"), (0x2173, "iv"), (0x2175, "vi"),
    (0x2176, "vii"), (0x2177, "viii"), (0x2178, "ix"), (0x217A, "xi"), (0x217B, "xii"),
    (0x2189, "0⁄3"), (0x2469, "10"), (0x246A, "11"), (0x246B, "12"), (0x246C, "13"), (0x246D, "14"),
    (0x246E, "15"), (0x246F, "16"), (0x2470, "17"), (0x2471, "18"), (0x2472, "19"), (0x2473, "20"),
    (0x2474, "(1)"), (0x2475, "(2)"), (0x2476, "(3)"), (0x2477, "(4)"), (0x2478, "(5)"),
    (0x2479, "(6)"), (0x247A, "(7)"), (0x247B, "(8)"), (0x247C, "(9)"), (0x247D, "(10)"),
    (0x247E, "(11)"), (0x247F, "(12)"), (0x2480, "(13)"), (0x2481, "(14)"), (0x2482, "(15)"),
    (0x2483, "(16)"), (0x2484, "(17)"), (0x2485, "(18)"), (0x2486, "(19)"), (0x2487, "(20)"),
    (0x249C, "(a)"), (0x249D, "(b)"), (0x249E, "(c)"), (0x249F, "(d)"), (0x24A0, "(e)"),
    (0x24A1, "(f)"), (0x24A2, "(g)"), (0x24A3, "(h)"), (0x24A4, "(i)"), (0x24A5, "(j)"),
    (0x24A6, "(k)"), (0x24A7, "(l)"), (0x24A8, "(m)"), (0x24A9, "(n)"), (0x24AA, "(o)"),
    (0x24AB, "(p)"), (0x24AC, "(q)"), (0x24AD, "(r)"), (0x24AE, "(s)"), (0x24AF, "(t)"),
    (0x24B0, "(u)"), (0x24B1, "(v)"), (0x24B2, "(w)"), (0x24B3, "(x)"), (0x24B4, "(y)"),
    (0x24B5, "(z)"), (0x2A75, "=="), (0x2A76, "==="), (0x3200, "(ᄀ)"), (0x3201, "(ᄂ)"),
    (0x3202, "(ᄃ)"), (0x3203, "(ᄅ)"), (0x3204, "(ᄆ)"), (0x3205, "(ᄇ)"), (0x3206, "(ᄉ)"),
    (0x3207, "(ᄋ)"), (0x3208, "(ᄌ)"), (0x3209, "(ᄎ)"), (0x320A, "(ᄏ)"), (0x320B, "(ᄐ)"),
    (0x320C, "(ᄑ)"), (0x320D, "(ᄒ)"), (0x320E, "(가)"), (0x320F, "(나)"), (0x3210, "(다)"),
    (0x3211, "(라)"), (0x3212, "(마)"), (0x3213, "(바)"), (0x3214, "(사)"), (0x3215, "(아)"),
    (0x3216, "(자)"), (0x3217, "(차)"), (0x3218, "(카)"), (0x3219, "(타)"), (0x321A, "(파)"),
    (0x321B, "(하)"), (0x321C, "(주)"), (0x321D, "(오전)"), (0x321E, "(오후)"), (0x3220, "(一)"),
    (0x3221, "(二)"), (0x3222, "(三)"), (0x3223, "(四)"), (0x3224, "(五)"), (0x3225, "(六)"),
    (0x3226, "(七)"), (0x3227, "(八)"), (0x3228, "(九)"), (0x3229, "(十)"), (0x322A, "(月)"),
    (0x322B, "(火)"), (0x322C, "(水)"), (0x322D, "(木)"), (0x322E, "(金)"), (0x322F, "(土)"),
    (0x3230, "(日)"), (0x3231, "(株)"), (0x3232, "(有)"), (0x3233, "(社)"), (0x3234, "(名)"),
    (0x3235, "(特)"), (0x3236, "(財)"), (0x3237, "(祝)"), (0x3238, "(労)"), (0x3239, "(代)"),
    (0x323A, "(呼)"), (0x323B, "(学)"), (0x323C, "(監)"), (0x323D, "(企)"), (0x323E, "(資)"),
    (0x323F, "(協)"), (0x3240, "(祭)"), (0x3241, "(休)"), (0x3242, "(自)"), (0x3243, "(至)"),
    (0x3250, "pte"), (0x3251, "21"), (0x3252, "22"), (0x3253, "23"), (0x3254, "24"), (0x3255, "25"),
    (0x3256, "26"), (0x3257, "27"), (0x3258, "28"), (0x3259, "29"), (0x325A, "30"), (0x325B, "31"),
    (0x325C, "32"), (0x325D, "33"), (0x325E, "34"), (0x325F, "35"), (0x32B1, "36"), (0x32B2, "37"),
    (0x32B3, "38"), (0x32B4, "39"), (0x32B5, "40"), (0x32B6, "41"), (0x32B7, "42"), (0x32B8, "43"),
    (0x32B9, "44"), (0x32BA, "45"), (0x32BB, "46"), (0x32BC, "47"), (0x32BD, "48"), (0x32BE, "49"),
    (0x32BF, "50"), (0x32C0, "1月"), (0x32C1, "2月"), (0x32C2, "3月"), (0x32C3, "4月"), (0x32C4, "5月"),
    (0x32C5, "6月"), (0x32C6, "7月"), (0x32C7, "8月"), (0x32C8, "9月"), (0x32C9, "10月"),
    (0x32CA, "11月"), (0x32CB, "12月"), (0x32CC, "hg"), (0x32CD, "erg"), (0x32CE, "ev"),
    (0x32CF, "ltd"), (0x3358, "0点"), (0x3359, "1点"), (0x335A, "2点"), (0x335B, "3点"), (0x335C, "4点"),
    (0x335D, "5点"), (0x335E, "6点"), (0x335F, "7点"), (0x3360, "8点"), (0x3361, "9点"), (0x3362, "10点"),
    (0x3363, "11点"), (0x3364, "12点"), (0x3365, "13点"), (0x3366, "14点"), (0x3367, "15点"),
    (0x3368, "16点"), (0x3369, "17点"), (0x336A, "18点"), (0x336B, "19点"), (0x336C, "20点"),
    (0x336D, "21点"), (0x336E, "22点"), (0x336F, "23点"), (0x3370, "24点"), (0x3371, "hpa"),
    (0x3372, "da"), (0x3373, "au"), (0x3374, "bar"), (0x3375, "ov"), (0x3376, "pc"), (0x3377, "dm"),
    (0x3378, "dm2"), (0x3379, "dm3"), (0x337A, "iu"), (0x3380, "pa"), (0x3381, "na"),
    (0x3382, "μa"), (0x3383, "ma"), (0x3384, "ka"), (0x3385, "kb"), (0x3386, "mb"), (0x3387, "gb"),
    (0x3388, "cal"), (0x3389, "kcal"), (0x338A, "pf"), (0x338B, "nf"), (0x338C, "μf"),
    (0x338D, "μg"), (0x338E, "mg"), (0x338F, "kg"), (0x3390, "hz"), (0x3391, "khz"),
    (0x3392, "mhz"), (0x3393, "ghz"), (0x3394, "thz"), (0x3395, "μl"), (0x3396, "ml"),
    (0x3397, "dl"), (0x3398, "kl"), (0x3399, "fm"), (0x339A, "nm"), (0x339B, "μm"), (0x339C, "mm"),
    (0x339D, "cm"), (0x339E, "km"), (0x339F, "mm2"), (0x33A0, "cm2"), (0x33A1, "m2"),
    (0x33A2, "km2"), (0x33A3, "mm3"), (0x33A4, "cm3"), (0x33A5, "m3"), (0x33A6, "km3"),
    (0x33A7, "m∕s"), (0x33A8, "m∕s2"), (0x33A9, "pa"), (0x33AA, "kpa"), (0x33AB, "mpa"),
    (0x33AC, "gpa"), (0x33AD, "rad"), (0x33AE, "rad∕s"), (0x33AF, "rad∕s2"), (0x33B0, "ps"),
    (0x33B1, "ns"), (0x33B2, "μs"), (0x33B3, "ms"), (0x33B4, "pv"), (0x33B5, "nv"), (0x33B6, "μv"),
    (0x33B7, "mv"), (0x33B8, "kv"), (0x33B9, "mv"), (0x33BA, "pw"), (0x33BB, "nw"), (0x33BC, "μw"),
    (0x33BD, "mw"), (0x33BE, "kw"), (0x33BF, "mw"), (0x33C0, "kω"), (0x33C1, "mω"), (0x33C3, "bq"),
    (0x33C4, "cc"), (0x33C5, "cd"), (0x33C6, "c∕kg"), (0x33C8, "db"), (0x33C9, "gy"),
    (0x33CA, "ha"), (0x33CB, "hp"), (0x33CC, "in"), (0x33CD, "kk"), (0x33CE, "km"), (0x33CF, "kt"),
    (0x33D0, "lm"), (0x33D1, "ln"), (0x33D2, "log"), (0x33D3, "lx"), (0x33D4, "mb"),
    (0x33D5, "mil"), (0x33D6, "mol"), (0x33D7, "ph"), (0x33D9, "ppm"), (0x33DA, "pr"),
    (0x33DB, "sr"), (0x33DC, "sv"), (0x33DD, "wb"), (0x33DE, "v∕m"), (0x33DF, "a∕m"),
    (0x33E0, "1日"), (0x33E1, "2日"), (0x33E2, "3日"), (0x33E3, "4日"), (0x33E4, "5日"), (0x33E5, "6日"),
    (0x33E6, "7日"), (0x33E7, "8日"), (0x33E8, "9日"), (0x33E9, "10日"), (0x33EA, "11日"),
    (0x33EB, "12日"), (0x33EC, "13日"), (0x33ED, "14日"), (0x33EE, "15日"), (0x33EF, "16日"),
    (0x33F0, "17日"), (0x33F1, "18日"), (0x33F2, "19日"), (0x33F3, "20日"), (0x33F4, "21日"),
    (0x33F5, "22日"), (0x33F6, "23日"), (0x33F7, "24日"), (0x33F8, "25日"), (0x33F9, "26日"),
    (0x33FA, "27日"), (0x33FB, "28日"), (0x33FC, "29日"), (0x33FD, "30日"), (0x33FE, "31日"),
    (0x33FF, "gal"), (0xFB00, "ff"), (0xFB01, "fi"), (0xFB02, "fl"), (0xFB03, "ffi"),
    (0xFB04, "ffl"), (0xFB05, "st"), (0xFB06, "st"), (0x1F101, "0,"), (0x1F102, "1,"),
    (0x1F103, "2,"), (0x1F104, "3,"), (0x1F105, "4,"), (0x1F106, "5,"), (0x1F107, "6,"),
    (0x1F108, "7,"), (0x1F109, "8,"), (0x1F10A, "9,"), (0x1F110, "(a)"), (0x1F111, "(b)"),
    (0x1F112, "(c)"), (0x1F113, "(d)"), (0x1F114, "(e)"), (0x1F115, "(f)"), (0x1F116, "(g)"),
    (0x1F117, "(h)"), (0x1F118, "(i)"), (0x1F119, "(j)"), (0x1F11A, "(k)"), (0x1F11B, "(l)"),
    (0x1F11C, "(m)"), (0x1F11D, "(n)"), (0x1F11E, "(o)"), (0x1F11F, "(p)"), (0x1F120, "(q)"),
    (0x1F121, "(r)"), (0x1F122, "(s)"), (0x1F123, "(t)"), (0x1F124, "(u)"), (0x1F125, "(v)"),
    (0x1F126, "(w)"), (0x1F127, "(x)"), (0x1F128, "(y)"), (0x1F129, "(z)"), (0x1F12A, "〔s〕"),
    (0x1F12D, "cd"), (0x1F12E, "wz"), (0x1F14A, "hv"), (0x1F14B, "mv"), (0x1F14C, "sd"),
    (0x1F14D, "ss"), (0x1F14E, "ppv"), (0x1F14F, "wc"), (0x1F16A, "mc"), (0x1F16B, "md"),
    (0x1F16C, "mr"), (0x1F190, "dj"), (0x1F240, "〔本〕"), (0x1F241, "〔三〕"), (0x1F242, "〔二〕"),
    (0x1F243, "〔安〕"), (0x1F244, "〔点〕"), (0x1F245, "〔打〕"), (0x1F246, "〔盗〕"), (0x1F247, "〔勝〕"),
    (0x1F248, "〔敗〕")]

/-- Ranges of characters that are read as others outside ASCII: the first, the last,
and the distance from each to the next. -/
def otherForms : List (Nat × Nat × Nat) :=
  [(0xB5, 0xB5, 1), (0xC0, 0xD6, 1), (0xD8, 0xDE, 1), (0x100, 0x12E, 2), (0x134, 0x136, 2),
    (0x139, 0x13D, 2), (0x141, 0x147, 2), (0x14A, 0x178, 2), (0x179, 0x17D, 2), (0x181, 0x182, 1),
    (0x184, 0x186, 2), (0x187, 0x18B, 2), (0x18A, 0x18A, 1), (0x18E, 0x191, 1), (0x193, 0x194, 1),
    (0x196, 0x198, 1), (0x19C, 0x19D, 1), (0x19F, 0x1A0, 1), (0x1A2, 0x1A6, 2), (0x1A7, 0x1A9, 2),
    (0x1AC, 0x1AE, 2), (0x1AF, 0x1B7, 2), (0x1B2, 0x1B2, 1), (0x1B8, 0x1B8, 1), (0x1BC, 0x1BC, 1),
    (0x1CD, 0x1DB, 2), (0x1DE, 0x1EE, 2), (0x1F4, 0x232, 2), (0x1F7, 0x1F7, 1), (0x23A, 0x23B, 1),
    (0x23D, 0x23E, 1), (0x241, 0x245, 2), (0x244, 0x24E, 2), (0x2B1, 0x2B1, 1), (0x2B4, 0x2B6, 1),
    (0x2E0, 0x2E0, 1), (0x2E4, 0x2E4, 1), (0x340, 0x341, 1), (0x343, 0x345, 1), (0x370, 0x376, 2),
    (0x37F, 0x37F, 1), (0x386, 0x38A, 1), (0x38C, 0x38E, 2), (0x38F, 0x3AB, 2), (0x392, 0x3A0, 2),
    (0x3A4, 0x3AA, 2), (0x3CF, 0x3D6, 1), (0x3D8, 0x3F4, 2), (0x3F1, 0x3F1, 1), (0x3F5, 0x3F9, 2),
    (0x3FA, 0x3FA, 1), (0x3FD, 0x42F, 1), (0x460, 0x480, 2), (0x48A, 0x4C0, 2), (0x4C1, 0x4CD, 2),
    (0x4D0, 0x52E, 2), (0x531, 0x556, 1), (0x587, 0x587, 1), (0x675, 0x678, 1), (0x958, 0x95F, 1),
    (0x9DC, 0x9DD, 1), (0x9DF, 0x9DF, 1), (0xA33, 0xA33, 1), (0xA36, 0xA36, 1), (0xA59, 0xA5B, 1),
    (0xA5E, 0xA5E, 1), (0xB5C, 0xB5D, 1), (0xE33, 0xE33, 1), (0xEB3, 0xEB3, 1), (0xEDC, 0xEDD, 1),
    (0xF0C, 0xF0C, 1), (0xF43, 0xF43, 1), (0xF4D, 0xF4D, 1), (0xF52, 0xF52, 1), (0xF57, 0xF57, 1),
    (0xF5C, 0xF5C, 1), (0xF69, 0xF69, 1), (0xF73, 0xF79, 2), (0xF76, 0xF78, 2), (0xF81, 0xF81, 1),
    (0xF93, 0xF93, 1), (0xF9D, 0xF9D, 1), (0xFA2, 0xFA2, 1), (0xFA7, 0xFA7, 1), (0xFAC, 0xFAC, 1),
    (0xFB9, 0xFB9, 1), (0x10A0, 0x10C5, 1), (0x10C7, 0x10C7, 1), (0x10CD, 0x10CD, 1),
    (0x10FC, 0x10FC, 1), (0x13F8, 0x13FD, 1), (0x1C80, 0x1C89, 1), (0x1C90, 0x1CBA, 1),
    (0x1CBD, 0x1CBF, 1), (0x1D2D, 0x1D2D, 1), (0x1D32, 0x1D32, 1), (0x1D3D, 0x1D3D, 1),
    (0x1D44, 0x1D46, 1), (0x1D4A, 0x1D4C, 1), (0x1D51, 0x1D55, 2), (0x1D54, 0x1D54, 1),
    (0x1D59, 0x1D5A, 1), (0x1D5C, 0x1D61, 1), (0x1D66, 0x1D6A, 1), (0x1D78, 0x1D78, 1),
    (0x1D9B, 0x1DB9, 2), (0x1D9E, 0x1D9E, 1), (0x1DA2, 0x1DBE, 2), (0x1DBD, 0x1DBF, 2),
    (0x1E00, 0x1E94, 2), (0x1E9B, 0x1E9B, 1), (0x1E9E, 0x1EFE, 2), (0x1F08, 0x1F0F, 1),
    (0x1F18, 0x1F1D, 1), (0x1F28, 0x1F2F, 1), (0x1F38, 0x1F3F, 1), (0x1F48, 0x1F4D, 1),
    (0x1F59, 0x1F5F, 2), (0x1F68, 0x1F6F, 1), (0x1F71, 0x1F7D, 2), (0x1F80, 0x1FAF, 1),
    (0x1FB2, 0x1FB4, 1), (0x1FB7, 0x1FBC, 1), (0x1FBE, 0x1FBE, 1), (0x1FC2, 0x1FC4, 1),
    (0x1FC7, 0x1FCC, 1), (0x1FD3, 0x1FD3, 1), (0x1FD8, 0x1FDB, 1), (0x1FE3, 0x1FE3, 1),
    (0x1FE8, 0x1FEC, 1), (0x1FF2, 0x1FF4, 1), (0x1FF7, 0x1FFC, 1), (0x2011, 0x2011, 1),
    (0x2033, 0x2034, 1), (0x2036, 0x2037, 1), (0x2057, 0x2057, 1), (0x207B, 0x207B, 1),
    (0x208B, 0x208B, 1), (0x2094, 0x2094, 1), (0x2107, 0x2107, 1), (0x210F, 0x210F, 1),
    (0x2126, 0x2126, 1), (0x212B, 0x212B, 1), (0x2132, 0x2132, 1), (0x2135, 0x2138, 1),
    (0x213C, 0x2140, 1), (0x2183, 0x2183, 1), (0x222C, 0x222D, 1), (0x222F, 0x2230, 1),
    (0x2329, 0x232A, 1), (0x2A0C, 0x2A0C, 1), (0x2ADC, 0x2ADC, 1), (0x2C00, 0x2C2F, 1),
    (0x2C60, 0x2C64, 2), (0x2C63, 0x2C63, 1), (0x2C67, 0x2C6F, 2), (0x2C6E, 0x2C72, 2),
    (0x2C75, 0x2C75, 1), (0x2C7E, 0x2CE2, 2), (0x2C7F, 0x2C7F, 1), (0x2CEB, 0x2CED, 2),
    (0x2CF2, 0x2CF2, 1), (0x2D6F, 0x2D6F, 1), (0x2E9F, 0x2E9F, 1), (0x2EF3, 0x2EF3, 1),
    (0x2F00, 0x2FD5, 1), (0x3036, 0x303A, 2), (0x3039, 0x3039, 1), (0x309F, 0x309F, 1),
    (0x30FF, 0x30FF, 1), (0x3131, 0x3163, 1), (0x3165, 0x318E, 1), (0x3192, 0x319F, 1),
    (0x3244, 0x3247, 1), (0x3260, 0x32B0, 2), (0x3261, 0x327D, 2), (0x3281, 0x32AF, 2),
    (0x32D0, 0x3357, 1), (0x337B, 0x337F, 1), (0xA640, 0xA66C, 2), (0xA680, 0xA69C, 2),
    (0xA69D, 0xA69D, 1), (0xA722, 0xA72E, 2), (0xA732, 0xA770, 2), (0xA779, 0xA77D, 2),
    (0xA77E, 0xA786, 2), (0xA78B, 0xA78D, 2), (0xA790, 0xA792, 2), (0xA796, 0xA7C6, 2),
    (0xA7AB, 0xA7AD, 2), (0xA7B1, 0xA7B3, 2), (0xA7C5, 0xA7CB, 2), (0xA7CC, 0xA7CC, 1),
    (0xA7D0, 0xA7D0, 1), (0xA7D6, 0xA7DC, 2), (0xA7F5, 0xA7F5, 1), (0xA7F8, 0xA7F9, 1),
    (0xAB5C, 0xAB5F, 1), (0xAB69, 0xAB69, 1), (0xAB70, 0xABBF, 1), (0xF900, 0xFA0D, 1),
    (0xFA10, 0xFA12, 2), (0xFA15, 0xFA1E, 1), (0xFA20, 0xFA22, 2), (0xFA25, 0xFA26, 1),
    (0xFA2A, 0xFA6D, 1), (0xFA70, 0xFAD9, 1), (0xFB13, 0xFB17, 1), (0xFB1D, 0xFB27, 2),
    (0xFB20, 0xFB40, 2), (0xFB2B, 0xFB35, 2), (0xFB39, 0xFB3B, 2), (0xFB41, 0xFB43, 2),
    (0xFB44, 0xFBB0, 2), (0xFB47, 0xFBB1, 2), (0xFBD3, 0xFC5D, 1), (0xFC64, 0xFD3D, 1),
    (0xFD50, 0xFD8F, 1), (0xFD92, 0xFDC7, 1), (0xFDF0, 0xFDF9, 1), (0xFDFC, 0xFDFC, 1),
    (0xFE11, 0xFE11, 1), (0xFE17, 0xFE18, 1), (0xFE31, 0xFE32, 1), (0xFE39, 0xFE44, 1),
    (0xFE51, 0xFE51, 1), (0xFE58, 0xFE58, 1), (0xFE5D, 0xFE5E, 1), (0xFE71, 0xFE71, 1),
    (0xFE77, 0xFEFB, 2), (0xFE80, 0xFEFC, 2), (0xFF5F, 0xFF60, 1), (0xFF62, 0xFF9F, 1),
    (0xFFA1, 0xFFBE, 1), (0xFFC2, 0xFFC7, 1), (0xFFCA, 0xFFCF, 1), (0xFFD2, 0xFFD7, 1),
    (0xFFDA, 0xFFDC, 1), (0xFFE0, 0xFFEE, 2), (0xFFE1, 0xFFE1, 1), (0xFFE5, 0xFFE5, 1),
    (0xFFE9, 0xFFED, 2), (0x10400, 0x10427, 1), (0x104B0, 0x104D3, 1), (0x10570, 0x10594, 2),
    (0x10571, 0x10579, 2), (0x1057D, 0x10589, 2), (0x1058D, 0x10591, 2), (0x10595, 0x10595, 1),
    (0x10781, 0x107A3, 2), (0x10782, 0x10784, 2), (0x10788, 0x107BA, 2), (0x107A7, 0x107AF, 2),
    (0x107B3, 0x107B9, 2), (0x10C80, 0x10CB2, 1), (0x10D50, 0x10D65, 1), (0x118A0, 0x118BF, 1),
    (0x16E40, 0x16E5F, 1), (0x1D15E, 0x1D164, 1), (0x1D1BB, 0x1D1C0, 1), (0x1D6A4, 0x1D6A5, 1),
    (0x1D6A8, 0x1D7CB, 1), (0x1E030, 0x1E06D, 1), (0x1E900, 0x1E921, 1), (0x1EE00, 0x1EE03, 1),
    (0x1EE05, 0x1EE1F, 1), (0x1EE21, 0x1EE22, 1), (0x1EE24, 0x1EE24, 1), (0x1EE27, 0x1EE31, 2),
    (0x1EE2A, 0x1EE36, 2), (0x1EE35, 0x1EE3B, 2), (0x1EE42, 0x1EE42, 1), (0x1EE47, 0x1EE51, 2),
    (0x1EE4E, 0x1EE4E, 1), (0x1EE52, 0x1EE54, 2), (0x1EE57, 0x1EE61, 2), (0x1EE62, 0x1EE64, 2),
    (0x1EE67, 0x1EE6A, 1), (0x1EE6C, 0x1EE72, 1), (0x1EE74, 0x1EE77, 1), (0x1EE79, 0x1EE7C, 1),
    (0x1EE7E, 0x1EE88, 2), (0x1EE81, 0x1EE9B, 2), (0x1EE8C, 0x1EE9A, 2), (0x1EEA1, 0x1EEBB, 2),
    (0x1EEA2, 0x1EEA2, 1), (0x1EEA6, 0x1EEA8, 2), (0x1EEAC, 0x1EEBA, 2), (0x1F200, 0x1F202, 1),
    (0x1F210, 0x1F23B, 1), (0x1F250, 0x1F251, 1), (0x2F800, 0x2FA1D, 1)]

/-- The marks for and against joining two letters, which have no form of their own but
count. -/
def isJoiner (c : Char) : Bool := c == '\u200C' || c == '\u200D'

/-- The single character that a character is read as. -/
def singleForm? (c : Char) : Option Char :=
  (singleForms.find? fun run => run.1 ≤ c.toNat && c.toNat ≤ run.2.1).map fun run =>
    Char.ofNat (run.2.2 + (c.toNat - run.1))

/-- The longer text that a character is read as. -/
def longForm? (c : Char) : Option String :=
  (longForms.find? fun entry => entry.1 = c.toNat).map Prod.snd

/-- A character that is read as others outside ASCII. -/
def hasOtherForm (c : Char) : Bool :=
  otherForms.any fun (first, last, step) =>
    first ≤ c.toNat && c.toNat ≤ last && (c.toNat - first) % step == 0

/-- What a character is read as; `none` when it may not occur.  A character that is
read as others outside ASCII stands for them. -/
def readAs? (c : Char) : Option (List Char) :=
  if c.toNat < 0x80 then some [c.toLower]
  else if isJoiner c then some [c]
  else if inRanges ignoredRanges c then some []
  else if inRanges unprintableRanges c || inRanges refusedRanges c then none
  else
    match singleForm? c, longForm? c with
    | some single, _ => some [single]
    | none, some text => some text.toList
    | none, none => some [c]

/-- A character that is read as itself. -/
def isPlain (c : Char) : Bool :=
  readAs? c == some [c] && !hasOtherForm c

end RegistryClient.Http.Host
