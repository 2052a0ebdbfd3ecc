import Tablewright.Text.Ranges

/-! Characters that names spell in another way, drop or refuse.
-/

namespace Tablewright.Text

/-- Runs of code points that stand for neighbouring ASCII characters: the first one, the last one
and the code point that the first one stands for.
-/
def asciiRuns : List (Nat × Nat × Nat) :=
  [
    (0xaa, 0xaa, 0x61), (0xb2, 0xb3, 0x32), (0xb9, 0xb9, 0x31), (0xba, 0xba, 0x6f),
    (0x17f, 0x17f, 0x73), (0x2b0, 0x2b0, 0x68), (0x2b2, 0x2b2, 0x6a), (0x2b3, 0x2b3, 0x72),
    (0x2b7, 0x2b7, 0x77), (0x2b8, 0x2b8, 0x79), (0x2e1, 0x2e1, 0x6c), (0x2e2, 0x2e2, 0x73),
    (0x2e3, 0x2e3, 0x78), (0x37e, 0x37e, 0x3b), (0x1d2c, 0x1d2c, 0x61), (0x1d2e, 0x1d2e, 0x62),
    (0x1d30, 0x1d31, 0x64), (0x1d33, 0x1d3a, 0x67), (0x1d3c, 0x1d3c, 0x6f), (0x1d3e, 0x1d3e, 0x70),
    (0x1d3f, 0x1d3f, 0x72), (0x1d40, 0x1d41, 0x74), (0x1d42, 0x1d42, 0x77), (0x1d43, 0x1d43, 0x61),
    (0x1d47, 0x1d47, 0x62), (0x1d48, 0x1d49, 0x64), (0x1d4d, 0x1d4d, 0x67), (0x1d4f, 0x1d4f, 0x6b),
    (0x1d50, 0x1d50, 0x6d), (0x1d52, 0x1d52, 0x6f), (0x1d56, 0x1d56, 0x70), (0x1d57, 0x1d58, 0x74),
    (0x1d5b, 0x1d5b, 0x76), (0x1d62, 0x1d62, 0x69), (0x1d63, 0x1d63, 0x72), (0x1d64, 0x1d65, 0x75),
    (0x1d9c, 0x1d9c, 0x63), (0x1da0, 0x1da0, 0x66), (0x1dbb, 0x1dbb, 0x7a), (0x1fef, 0x1fef, 0x60),
    (0x2070, 0x2070, 0x30), (0x2071, 0x2071, 0x69), (0x2074, 0x2079, 0x34), (0x207a, 0x207a, 0x2b),
    (0x207c, 0x207c, 0x3d), (0x207d, 0x207e, 0x28), (0x207f, 0x207f, 0x6e), (0x2080, 0x2089, 0x30),
    (0x208a, 0x208a, 0x2b), (0x208c, 0x208c, 0x3d), (0x208d, 0x208e, 0x28), (0x2090, 0x2090, 0x61),
    (0x2091, 0x2091, 0x65), (0x2092, 0x2092, 0x6f), (0x2093, 0x2093, 0x78), (0x2095, 0x2095, 0x68),
    (0x2096, 0x2099, 0x6b), (0x209a, 0x209a, 0x70), (0x209b, 0x209c, 0x73), (0x2102, 0x2102, 0x63),
    (0x210a, 0x210b, 0x67), (0x210c, 0x210c, 0x68), (0x210d, 0x210d, 0x68), (0x210e, 0x210e, 0x68),
    (0x2110, 0x2110, 0x69), (0x2111, 0x2111, 0x69), (0x2112, 0x2112, 0x6c), (0x2113, 0x2113, 0x6c),
    (0x2115, 0x2115, 0x6e), (0x2119, 0x211b, 0x70), (0x211c, 0x211c, 0x72), (0x211d, 0x211d, 0x72),
    (0x2124, 0x2124, 0x7a), (0x2128, 0x2128, 0x7a), (0x212a, 0x212a, 0x6b), (0x212c, 0x212d, 0x62),
    (0x212f, 0x212f, 0x65), (0x2130, 0x2131, 0x65), (0x2133, 0x2133, 0x6d), (0x2134, 0x2134, 0x6f),
    (0x2139, 0x2139, 0x69), (0x2145, 0x2145, 0x64), (0x2146, 0x2147, 0x64), (0x2148, 0x2149, 0x69),
    (0x2160, 0x2160, 0x69), (0x2164, 0x2164, 0x76), (0x2169, 0x2169, 0x78), (0x216c, 0x216c, 0x6c),
    (0x216d, 0x216e, 0x63), (0x216f, 0x216f, 0x6d), (0x2170, 0x2170, 0x69), (0x2174, 0x2174, 0x76),
    (0x2179, 0x2179, 0x78), (0x217c, 0x217c, 0x6c), (0x217d, 0x217e, 0x63), (0x217f, 0x217f, 0x6d),
    (0x2460, 0x2468, 0x31), (0x24b6, 0x24cf, 0x61), (0x24d0, 0x24e9, 0x61), (0x24ea, 0x24ea, 0x30),
    (0x2c7c, 0x2c7c, 0x6a), (0x2c7d, 0x2c7d, 0x76), (0x3002, 0x3002, 0x2e), (0xa7f2, 0xa7f2, 0x63),
    (0xa7f3, 0xa7f3, 0x66), (0xa7f4, 0xa7f4, 0x71), (0xfb29, 0xfb29, 0x2b), (0xfe10, 0xfe10, 0x2c),
    (0xfe14, 0xfe14, 0x3b), (0xfe15, 0xfe15, 0x21), (0xfe33, 0xfe33, 0x5f), (0xfe34, 0xfe34, 0x5f),
    (0xfe35, 0xfe36, 0x28), (0xfe37, 0xfe37, 0x7b), (0xfe38, 0xfe38, 0x7d), (0xfe4d, 0xfe4d, 0x5f),
    (0xfe4e, 0xfe4e, 0x5f), (0xfe4f, 0xfe4f, 0x5f), (0xfe50, 0xfe50, 0x2c), (0xfe54, 0xfe54, 0x3b),
    (0xfe57, 0xfe57, 0x21), (0xfe59, 0xfe5a, 0x28), (0xfe5b, 0xfe5b, 0x7b), (0xfe5c, 0xfe5c, 0x7d),
    (0xfe60, 0xfe60, 0x26), (0xfe61, 0xfe62, 0x2a), (0xfe63, 0xfe63, 0x2d), (0xfe66, 0xfe66, 0x3d),
    (0xfe69, 0xfe69, 0x24), (0xff01, 0xff02, 0x21), (0xff04, 0xff04, 0x24), (0xff06, 0xff0e, 0x26),
    (0xff10, 0xff19, 0x30), (0xff1b, 0xff1b, 0x3b), (0xff1d, 0xff1d, 0x3d), (0xff21, 0xff3a, 0x61),
    (0xff3f, 0xff5b, 0x5f), (0xff5d, 0xff5e, 0x7d), (0xff61, 0xff61, 0x2e),
    (0x107a5, 0x107a5, 0x71), (0x1d400, 0x1d419, 0x61), (0x1d41a, 0x1d433, 0x61),
    (0x1d434, 0x1d44d, 0x61), (0x1d44e, 0x1d454, 0x61), (0x1d456, 0x1d467, 0x69),
    (0x1d468, 0x1d481, 0x61), (0x1d482, 0x1d49b, 0x61), (0x1d49c, 0x1d49c, 0x61),
    (0x1d49e, 0x1d49f, 0x63), (0x1d4a2, 0x1d4a2, 0x67), (0x1d4a5, 0x1d4a6, 0x6a),
    (0x1d4a9, 0x1d4ac, 0x6e), (0x1d4ae, 0x1d4b5, 0x73), (0x1d4b6, 0x1d4b9, 0x61),
    (0x1d4bb, 0x1d4bb, 0x66), (0x1d4bd, 0x1d4c3, 0x68), (0x1d4c5, 0x1d4cf, 0x70),
    (0x1d4d0, 0x1d4e9, 0x61), (0x1d4ea, 0x1d503, 0x61), (0x1d504, 0x1d505, 0x61),
    (0x1d507, 0x1d50a, 0x64), (0x1d50d, 0x1d514, 0x6a), (0x1d516, 0x1d51c, 0x73),
    (0x1d51e, 0x1d537, 0x61), (0x1d538, 0x1d539, 0x61), (0x1d53b, 0x1d53e, 0x64),
    (0x1d540, 0x1d544, 0x69), (0x1d546, 0x1d546, 0x6f), (0x1d54a, 0x1d550, 0x73),
    (0x1d552, 0x1d56b, 0x61), (0x1d56c, 0x1d585, 0x61), (0x1d586, 0x1d59f, 0x61),
    (0x1d5a0, 0x1d5b9, 0x61), (0x1d5ba, 0x1d5d3, 0x61), (0x1d5d4, 0x1d5ed, 0x61),
    (0x1d5ee, 0x1d607, 0x61), (0x1d608, 0x1d621, 0x61), (0x1d622, 0x1d63b, 0x61),
    (0x1d63c, 0x1d655, 0x61), (0x1d656, 0x1d66f, 0x61), (0x1d670, 0x1d689, 0x61),
    (0x1d68a, 0x1d6a3, 0x61), (0x1d7ce, 0x1d7d7, 0x30), (0x1d7d8, 0x1d7e1, 0x30),
    (0x1d7e2, 0x1d7eb, 0x30), (0x1d7ec, 0x1d7f5, 0x30), (0x1d7f6, 0x1d7ff, 0x30),
    (0x1f12b, 0x1f12b, 0x63), (0x1f12c, 0x1f12c, 0x72), (0x1f130, 0x1f149, 0x61),
    (0x1fbf0, 0x1fbf9, 0x30)
  ]

/-- Code points that stand for several ASCII characters.
-/
def asciiSpellings : List (Nat × String) :=
  [
    (0x132, "ij"), (0x133, "ij"), (0x1c7, "lj"), (0x1c8, "lj"), (0x1c9, "lj"), (0x1ca, "nj"),
    (0x1cb, "nj"), (0x1cc, "nj"), (0x1f1, "dz"), (0x1f2, "dz"), (0x1f3, "dz"), (0x1e9e, "ss"),
    (0x203c, "!!"), (0x20a8, "rs"), (0x2116, "no"), (0x2120, "sm"), (0x2121, "tel"), (0x2122, "tm"),
    (0x213b, "fax"), (0x2161, "ii"), (0x2162, "iii"), (0x2163, "iv"), (0x2165, "vi"),
    (0x2166, "vii"), (0x2167, "viii"), (0x2168, "ix"), (0x216a, "xi"), (0x216b, "xii"),
    (0x2171, "ii"), (0x2172, "iii"), (0x2173, "iv"), (0x2175, "vi"), (0x2176, "vii"),
    (0x2177, "viii"), (0x2178, "ix"), (0x217a, "xi"), (0x217b, "xii"), (0x2469, "10"),
    (0x246a, "11"), (0x246b, "12"), (0x246c, "13"), (0x246d, "14"), (0x246e, "15"), (0x246f, "16"),
    (0x2470, "17"), (0x2471, "18"), (0x2472, "19"), (0x2473, "20"), (0x2474, "(1)"),
    (0x2475, "(2)"), (0x2476, "(3)"), (0x2477, "(4)"), (0x2478, "(5)"), (0x2479, "(6)"),
    (0x247a, "(7)"), (0x247b, "(8)"), (0x247c, "(9)"), (0x247d, "(10)"), (0x247e, "(11)"),
    (0x247f, "(12)"), (0x2480, "(13)"), (0x2481, "(14)"), (0x2482, "(15)"), (0x2483, "(16)"),
    (0x2484, "(17)"), (0x2485, "(18)"), (0x2486, "(19)"), (0x2487, "(20)"), (0x249c, "(a)"),
    (0x249d, "(b)"), (0x249e, "(c)"), (0x249f, "(d)"), (0x24a0, "(e)"), (0x24a1, "(f)"),
    (0x24a2, "(g)"), (0x24a3, "(h)"), (0x24a4, "(i)"), (0x24a5, "(j)"), (0x24a6, "(k)"),
    (0x24a7, "(l)"), (0x24a8, "(m)"), (0x24a9, "(n)"), (0x24aa, "(o)"), (0x24ab, "(p)"),
    (0x24ac, "(q)"), (0x24ad, "(r)"), (0x24ae, "(s)"), (0x24af, "(t)"), (0x24b0, "(u)"),
    (0x24b1, "(v)"), (0x24b2, "(w)"), (0x24b3, "(x)"), (0x24b4, "(y)"), (0x24b5, "(z)"),
    (0x2a75, "=="), (0x2a76, "==="), (0x3250, "pte"), (0x3251, "21"), (0x3252, "22"),
    (0x3253, "23"), (0x3254, "24"), (0x3255, "25"), (0x3256, "26"), (0x3257, "27"), (0x3258, "28"),
    (0x3259, "29"), (0x325a, "30"), (0x325b, "31"), (0x325c, "32"), (0x325d, "33"), (0x325e, "34"),
    (0x325f, "35"), (0x32b1, "36"), (0x32b2, "37"), (0x32b3, "38"), (0x32b4, "39"), (0x32b5, "40"),
    (0x32b6, "41"), (0x32b7, "42"), (0x32b8, "43"), (0x32b9, "44"), (0x32ba, "45"), (0x32bb, "46"),
    (0x32bc, "47"), (0x32bd, "48"), (0x32be, "49"), (0x32bf, "50"), (0x32cc, "hg"), (0x32cd, "erg"),
    (0x32ce, "ev"), (0x32cf, "ltd"), (0x3371, "hpa"), (0x3372, "da"), (0x3373, "au"),
    (0x3374, "bar"), (0x3375, "ov"), (0x3376, "pc"), (0x3377, "dm"), (0x3378, "dm2"),
    (0x3379, "dm3"), (0x337a, "iu"), (0x3380, "pa"), (0x3381, "na"), (0x3383, "ma"), (0x3384, "ka"),
    (0x3385, "kb"), (0x3386, "mb"), (0x3387, "gb"), (0x3388, "cal"), (0x3389, "kcal"),
    (0x338a, "pf"), (0x338b, "nf"), (0x338e, "mg"), (0x338f, "kg"), (0x3390, "hz"), (0x3391, "khz"),
    (0x3392, "mhz"), (0x3393, "ghz"), (0x3394, "thz"), (0x3396, "ml"), (0x3397, "dl"),
    (0x3398, "kl"), (0x3399, "fm"), (0x339a, "nm"), (0x339c, "mm"), (0x339d, "cm"), (0x339e, "km"),
    (0x339f, "mm2"), (0x33a0, "cm2"), (0x33a1, "m2"), (0x33a2, "km2"), (0x33a3, "mm3"),
    (0x33a4, "cm3"), (0x33a5, "m3"), (0x33a6, "km3"), (0x33a9, "pa"), (0x33aa, "kpa"),
    (0x33ab, "mpa"), (0x33ac, "gpa"), (0x33ad, "rad"), (0x33b0, "ps"), (0x33b1, "ns"),
    (0x33b3, "ms"), (0x33b4, "pv"), (0x33b5, "nv"), (0x33b7, "mv"), (0x33b8, "kv"), (0x33b9, "mv"),
    (0x33ba, "pw"), (0x33bb, "nw"), (0x33bd, "mw"), (0x33be, "kw"), (0x33bf, "mw"), (0x33c3, "bq"),
    (0x33c4, "cc"), (0x33c5, "cd"), (0x33c8, "db"), (0x33c9, "gy"), (0x33ca, "ha"), (0x33cb, "hp"),
    (0x33cc, "in"), (0x33cd, "kk"), (0x33ce, "km"), (0x33cf, "kt"), (0x33d0, "lm"), (0x33d1, "ln"),
    (0x33d2, "log"), (0x33d3, "lx"), (0x33d4, "mb"), (0x33d5, "mil"), (0x33d6, "mol"),
    (0x33d7, "ph"), (0x33d9, "ppm"), (0x33da, "pr"), (0x33db, "sr"), (0x33dc, "sv"), (0x33dd, "wb"),
    (0x33ff, "gal"), (0xfb00, "ff"), (0xfb01, "fi"), (0xfb02, "fl"), (0xfb03, "ffi"),
    (0xfb04, "ffl"), (0xfb05, "st"), (0xfb06, "st"), (0x1f101, "0,"), (0x1f102, "1,"),
    (0x1f103, "2,"), (0x1f104, "3,"), (0x1f105, "4,"), (0x1f106, "5,"), (0x1f107, "6,"),
    (0x1f108, "7,"), (0x1f109, "8,"), (0x1f10a, "9,"), (0x1f110, "(a)"), (0x1f111, "(b)"),
    (0x1f112, "(c)"), (0x1f113, "(d)"), (0x1f114, "(e)"), (0x1f115, "(f)"), (0x1f116, "(g)"),
    (0x1f117, "(h)"), (0x1f118, "(i)"), (0x1f119, "(j)"), (0x1f11a, "(k)"), (0x1f11b, "(l)"),
    (0x1f11c, "(m)"), (0x1f11d, "(n)"), (0x1f11e, "(o)"), (0x1f11f, "(p)"), (0x1f120, "(q)"),
    (0x1f121, "(r)"), (0x1f122, "(s)"), (0x1f123, "(t)"), (0x1f124, "(u)"), (0x1f125, "(v)"),
    (0x1f126, "(w)"), (0x1f127, "(x)"), (0x1f128, "(y)"), (0x1f129, "(z)"), (0x1f12d, "cd"),
    (0x1f12e, "wz"), (0x1f14a, "hv"), (0x1f14b, "mv"), (0x1f14c, "sd"), (0x1f14d, "ss"),
    (0x1f14e, "ppv"), (0x1f14f, "wc"), (0x1f16a, "mc"), (0x1f16b, "md"), (0x1f16c, "mr"),
    (0x1f190, "dj")
  ]

/-- Code points that names drop.
-/
def droppedRanges : Ranges :=
  [
    (0xad, 0xad), (0x34f, 0x34f), (0x180b, 0x180d), (0x180f, 0x180f), (0x200b, 0x200b),
    (0x2060, 0x2060), (0x2064, 0x2064), (0xfe00, 0xfe0f), (0xfeff, 0xfeff), (0x1bca0, 0x1bca3),
    (0xe0100, 0xe01ef)
  ]

/-- Code points that names spell with other characters beyond ASCII, apart from capital letters.
-/
def respelledRanges : Ranges :=
  [
    (0xb5, 0xb5), (0xbc, 0xbe), (0x140, 0x140), (0x149, 0x149), (0x1c6, 0x1c6), (0x2b1, 0x2b1),
    (0x2b4, 0x2b6), (0x2e0, 0x2e0), (0x2e4, 0x2e4), (0x300, 0x304), (0x306, 0x30a), (0x30c, 0x30c),
    (0x30f, 0x30f), (0x311, 0x311), (0x323, 0x323), (0x325, 0x325), (0x328, 0x328), (0x340, 0x341),
    (0x343, 0x345), (0x374, 0x374), (0x387, 0x387), (0x3d0, 0x3d6), (0x3f0, 0x3f2), (0x3f5, 0x3f5),
    (0x587, 0x587), (0x675, 0x678), (0x958, 0x95f), (0x9dc, 0x9dd), (0x9df, 0x9df), (0xa33, 0xa33),
    (0xa36, 0xa36), (0xa59, 0xa5b), (0xa5e, 0xa5e), (0xb5c, 0xb5d), (0xe33, 0xe33), (0xeb3, 0xeb3),
    (0xedc, 0xedd), (0xf0c, 0xf0c), (0xf43, 0xf43), (0xf4d, 0xf4d), (0xf52, 0xf52), (0xf57, 0xf57),
    (0xf5c, 0xf5c), (0xf69, 0xf69), (0xf73, 0xf73), (0xf75, 0xf79), (0xf81, 0xf81), (0xf93, 0xf93),
    (0xf9d, 0xf9d), (0xfa2, 0xfa2), (0xfa7, 0xfa7), (0xfac, 0xfac), (0xfb9, 0xfb9),
    (0x10fc, 0x10fc), (0x13f8, 0x13fd), (0x1c80, 0x1c88), (0x1d2d, 0x1d2d), (0x1d32, 0x1d32),
    (0x1d3d, 0x1d3d), (0x1d44, 0x1d46), (0x1d4a, 0x1d4c), (0x1d51, 0x1d51), (0x1d53, 0x1d55),
    (0x1d59, 0x1d5a), (0x1d5c, 0x1d61), (0x1d66, 0x1d6a), (0x1d78, 0x1d78), (0x1d9b, 0x1d9b),
    (0x1d9d, 0x1d9f), (0x1da1, 0x1dba), (0x1dbc, 0x1dbf), (0x1e9a, 0x1e9b), (0x1f71, 0x1f71),
    (0x1f73, 0x1f73), (0x1f75, 0x1f75), (0x1f77, 0x1f77), (0x1f79, 0x1f79), (0x1f7b, 0x1f7b),
    (0x1f7d, 0x1f7d), (0x1f80, 0x1f87), (0x1f90, 0x1f97), (0x1fa0, 0x1fa7), (0x1fb2, 0x1fb4),
    (0x1fb7, 0x1fb7), (0x1fbe, 0x1fbe), (0x1fc2, 0x1fc4), (0x1fc7, 0x1fc7), (0x1fd3, 0x1fd3),
    (0x1fe3, 0x1fe3), (0x1ff2, 0x1ff4), (0x1ff7, 0x1ff7), (0x2011, 0x2011), (0x2033, 0x2034),
    (0x2036, 0x2037), (0x2057, 0x2057), (0x207b, 0x207b), (0x208b, 0x208b), (0x2094, 0x2094),
    (0x2103, 0x2103), (0x2107, 0x2107), (0x2109, 0x2109), (0x210f, 0x210f), (0x2135, 0x2138),
    (0x213c, 0x2140), (0x2150, 0x215f), (0x2189, 0x2189), (0x222c, 0x222d), (0x222f, 0x2230),
    (0x2329, 0x232a), (0x2a0c, 0x2a0c), (0x2adc, 0x2adc), (0x2d6f, 0x2d6f), (0x2e9f, 0x2e9f),
    (0x2ef3, 0x2ef3), (0x2f00, 0x2fd5), (0x3036, 0x3036), (0x3038, 0x303a), (0x309f, 0x309f),
    (0x30ff, 0x30ff), (0x3131, 0x3163), (0x3165, 0x318e), (0x3192, 0x319f), (0x3200, 0x321e),
    (0x3220, 0x3247), (0x3260, 0x327e), (0x3280, 0x32b0), (0x32c0, 0x32cb), (0x32d0, 0x3370),
    (0x337b, 0x337f), (0x3382, 0x3382), (0x338c, 0x338d), (0x3395, 0x3395), (0x339b, 0x339b),
    (0x33a7, 0x33a8), (0x33ae, 0x33af), (0x33b2, 0x33b2), (0x33b6, 0x33b6), (0x33bc, 0x33bc),
    (0x33c0, 0x33c1), (0x33c6, 0x33c6), (0x33de, 0x33fe), (0xa69c, 0xa69d), (0xa770, 0xa770),
    (0xa7f8, 0xa7f9), (0xab5c, 0xab5f), (0xab69, 0xab69), (0xab70, 0xabbf), (0xf900, 0xfa0d),
    (0xfa10, 0xfa10), (0xfa12, 0xfa12), (0xfa15, 0xfa1e), (0xfa20, 0xfa20), (0xfa22, 0xfa22),
    (0xfa25, 0xfa26), (0xfa2a, 0xfa6d), (0xfa70, 0xfad9), (0xfb13, 0xfb17), (0xfb1d, 0xfb1d),
    (0xfb1f, 0xfb28), (0xfb2a, 0xfb36), (0xfb38, 0xfb3c), (0xfb3e, 0xfb3e), (0xfb40, 0xfb41),
    (0xfb43, 0xfb44), (0xfb46, 0xfbb1), (0xfbd3, 0xfc5d), (0xfc64, 0xfd3d), (0xfd50, 0xfd8f),
    (0xfd92, 0xfdc7), (0xfdf0, 0xfdf9), (0xfdfc, 0xfdfc), (0xfe11, 0xfe11), (0xfe17, 0xfe18),
    (0xfe31, 0xfe32), (0xfe39, 0xfe44), (0xfe51, 0xfe51), (0xfe58, 0xfe58), (0xfe5d, 0xfe5e),
    (0xfe71, 0xfe71), (0xfe77, 0xfe77), (0xfe79, 0xfe79), (0xfe7b, 0xfe7b), (0xfe7d, 0xfe7d),
    (0xfe7f, 0xfefc), (0xff5f, 0xff60), (0xff62, 0xff9f), (0xffa1, 0xffbe), (0xffc2, 0xffc7),
    (0xffca, 0xffcf), (0xffd2, 0xffd7), (0xffda, 0xffdc), (0xffe0, 0xffe2), (0xffe4, 0xffe6),
    (0xffe8, 0xffee), (0x10781, 0x10785), (0x10787, 0x107a4), (0x107a6, 0x107b0),
    (0x107b2, 0x107ba), (0x1d15e, 0x1d164), (0x1d1bb, 0x1d1c0), (0x1d6a4, 0x1d6a5),
    (0x1d6a8, 0x1d7cb), (0x1e030, 0x1e06d), (0x1ee00, 0x1ee03), (0x1ee05, 0x1ee1f),
    (0x1ee21, 0x1ee22), (0x1ee24, 0x1ee24), (0x1ee27, 0x1ee27), (0x1ee29, 0x1ee32),
    (0x1ee34, 0x1ee37), (0x1ee39, 0x1ee39), (0x1ee3b, 0x1ee3b), (0x1ee42, 0x1ee42),
    (0x1ee47, 0x1ee47), (0x1ee49, 0x1ee49), (0x1ee4b, 0x1ee4b), (0x1ee4d, 0x1ee4f),
    (0x1ee51, 0x1ee52), (0x1ee54, 0x1ee54), (0x1ee57, 0x1ee57), (0x1ee59, 0x1ee59),
    (0x1ee5b, 0x1ee5b), (0x1ee5d, 0x1ee5d), (0x1ee5f, 0x1ee5f), (0x1ee61, 0x1ee62),
    (0x1ee64, 0x1ee64), (0x1ee67, 0x1ee6a), (0x1ee6c, 0x1ee72), (0x1ee74, 0x1ee77),
    (0x1ee79, 0x1ee7c), (0x1ee7e, 0x1ee7e), (0x1ee80, 0x1ee89), (0x1ee8b, 0x1ee9b),
    (0x1eea1, 0x1eea3), (0x1eea5, 0x1eea9), (0x1eeab, 0x1eebb), (0x1f12a, 0x1f12a),
    (0x1f200, 0x1f202), (0x1f210, 0x1f23b), (0x1f240, 0x1f248), (0x1f250, 0x1f251),
    (0x2f800, 0x2f867), (0x2f869, 0x2f873), (0x2f875, 0x2f91e), (0x2f920, 0x2f95e),
    (0x2f960, 0x2f9be), (0x2f9c0, 0x2fa1d)
  ]

/-- Code points that show something and that names refuse.
-/
def refusedRanges : Ranges :=
  [
    (0xa8, 0xa8), (0xaf, 0xaf), (0xb4, 0xb4), (0xb8, 0xb8), (0x2d8, 0x2dd), (0x37a, 0x37a),
    (0x384, 0x385), (0x115f, 0x1160), (0x17b4, 0x17b5), (0x1806, 0x1806), (0x1fbd, 0x1fbd),
    (0x1fbf, 0x1fc1), (0x1fcd, 0x1fcf), (0x1fdd, 0x1fdf), (0x1fed, 0x1fee), (0x1ffd, 0x1ffe),
    (0x2017, 0x2017), (0x2024, 0x2026), (0x203e, 0x203e), (0x2047, 0x2049), (0x2100, 0x2101),
    (0x2105, 0x2106), (0x2488, 0x249b), (0x2a74, 0x2a74), (0x2ff0, 0x2fff), (0x309b, 0x309c),
    (0x3164, 0x3164), (0x31ef, 0x31ef), (0x33c2, 0x33c2), (0x33c7, 0x33c7), (0x33d8, 0x33d8),
    (0xfc5e, 0xfc63), (0xfdfa, 0xfdfb), (0xfe12, 0xfe13), (0xfe16, 0xfe16), (0xfe19, 0xfe19),
    (0xfe30, 0xfe30), (0xfe47, 0xfe4c), (0xfe52, 0xfe52), (0xfe55, 0xfe56), (0xfe5f, 0xfe5f),
    (0xfe64, 0xfe65), (0xfe68, 0xfe68), (0xfe6a, 0xfe6b), (0xfe70, 0xfe70), (0xfe72, 0xfe72),
    (0xfe74, 0xfe74), (0xfe76, 0xfe76), (0xfe78, 0xfe78), (0xfe7a, 0xfe7a), (0xfe7c, 0xfe7c),
    (0xfe7e, 0xfe7e), (0xff03, 0xff03), (0xff05, 0xff05), (0xff0f, 0xff0f), (0xff1a, 0xff1a),
    (0xff1c, 0xff1c), (0xff1e, 0xff20), (0xff3b, 0xff3e), (0xff5c, 0xff5c), (0xffa0, 0xffa0),
    (0xffe3, 0xffe3), (0xfffc, 0xfffd), (0x1f100, 0x1f100)
  ]

end Tablewright.Text
