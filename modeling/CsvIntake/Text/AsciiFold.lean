import CsvIntake.Text.Basic

/-! The ASCII part of a text: every character is replaced by the ASCII characters of its
compatibility decomposition (Unicode 14), so `é` becomes `e`, `㎏` becomes `kg`, and a character
without an ASCII part is dropped. -/
namespace CsvIntake.Text

/-- Runs of consecutive characters with one ASCII character each: the character at offset `i` from
the first has the `i`-th one. -/
def foldLetters : List (Nat × String) :=
  [(0xA0, " "), (0xA8, " "), (0xAA, "a"), (0xAF, " "), (0xB2, "23 "), (0xB8, " 1o"),
   (0xC0, "AAAAAA"), (0xC7, "CEEEEIIII"), (0xD1, "NOOOOO"), (0xD9, "UUUUY"), (0xE0, "aaaaaa"),
   (0xE7, "ceeeeiiii"), (0xF1, "nooooo"), (0xF9, "uuuuy"), (0xFF, "yAaAaAaCcCcCcCcDd"),
   (0x112, "EeEeEeEeEeGgGgGgGgHh"), (0x128, "IiIiIiIiI"), (0x134, "JjKk"), (0x139, "LlLlLlLl"),
   (0x143, "NnNnNnn"), (0x14C, "OoOoOo"), (0x154, "RrRrRrSsSsSsSsTtTt"),
   (0x168, "UuUuUuUuUuUuWwYyYZzZzZzs"), (0x1A0, "Oo"), (0x1AF, "Uu"), (0x1CD, "AaIiOoUuUuUuUuUu"),
   (0x1DE, "AaAa"), (0x1E6, "GgKkOoOo"), (0x1F0, "j"), (0x1F4, "Gg"), (0x1F8, "NnAa"),
   (0x200, "AaAaEeEeIiIiOoOoRrRrUuUuSsTt"), (0x21E, "Hh"), (0x226, "AaEeOoOoOoOoYy"),
   (0x2B0, "h"), (0x2B2, "jr"), (0x2B7, "wy"), (0x2D8, "      "), (0x2E1, "lsx"), (0x37A, " "),
   (0x37E, ";"), (0x384, "  "), (0x1D2C, "A"), (0x1D2E, "B"), (0x1D30, "DE"),
   (0x1D33, "GHIJKLMN"), (0x1D3C, "O"), (0x1D3E, "PRTUWa"), (0x1D47, "bde"), (0x1D4D, "g"),
   (0x1D4F, "km"), (0x1D52, "o"), (0x1D56, "ptu"), (0x1D5B, "v"), (0x1D62, "iruv"), (0x1D9C, "c"),
   (0x1DA0, "f"), (0x1DBB, "z"),
   (0x1E00, "AaBbBbBbCcDdDdDdDdDdEeEeEeEeEeFfGgHhHhHhHhHhIiIiKkKkKkLlLlLl"),
   (0x1E3C, "LlMmMmMmNnNnNnNnOoOoOoOoPpPpRrRrRrRrSsSsSsSsSsTtTtTtTtUuUuUu"),
   (0x1E78, "UuUuVvVvWwWwWwWwWwXxXxYyZzZzZzhtwyas"),
   (0x1EA0, "AaAaAaAaAaAaAaAaAaAaAaAaEeEeEeEeEeEeEeEeIiIiOoOoOoOoOoOoOoOo"),
   (0x1EDC, "OoOoOoOoUuUuUuUuUuUuUuYyYyYyYy"), (0x1FBD, " "), (0x1FBF, "   "), (0x1FCD, "   "),
   (0x1FDD, "   "), (0x1FED, "  `"), (0x1FFD, "  "), (0x2000, "           "), (0x2017, " "),
   (0x2024, "."), (0x202F, " "), (0x203E, " "), (0x205F, " "), (0x2070, "0i"),
   (0x2074, "456789+"), (0x207C, "=()n0123456789+"), (0x208C, "=()"), (0x2090, "aeox"),
   (0x2095, "hklmnpst"), (0x2102, "CC"), (0x2109, "FgHHHh"), (0x2110, "IILl"), (0x2115, "N"),
   (0x2119, "PQRRR"), (0x2124, "Z"), (0x2128, "Z"), (0x212A, "KABC"), (0x212F, "eEF"),
   (0x2133, "Mo"), (0x2139, "i"), (0x2145, "Ddeij"), (0x215F, "1I"), (0x2164, "V"), (0x2169, "X"),
   (0x216C, "LCDMi"), (0x2174, "v"), (0x2179, "x"), (0x217C, "lcdm"), (0x2260, "="),
   (0x226E, "<>"), (0x2460, "123456789"),
   (0x24B6, "ABCDEFGHIJKLMNOPQRSTUVWXYZabcdefghijklmnopqrstuvwxyz0"), (0x2C7C, "jV"),
   (0x3000, " "), (0x309B, "  "), (0x32C0, "123456789"), (0x3358, "0123456789"), (0x3382, "A"),
   (0x338C, "Fg"), (0x3395, "l"), (0x339B, "m"), (0x33B2, "s"), (0x33B6, "V"), (0x33BC, "W"),
   (0x33C0, "kM"), (0x33E0, "123456789"), (0xA7F2, "CFQ"), (0xFB29, "+"), (0xFC5E, "      "),
   (0xFDFB, " "), (0xFE10, ","), (0xFE13, ":;!?"), (0xFE33, "__()\x7b\x7d"),
   (0xFE47, "[]    ___,"), (0xFE52, "."), (0xFE54, ";:?!"), (0xFE59, "()\x7b\x7d"),
   (0xFE5F, "#&*+-<>="), (0xFE68, "\\$%@"), (0xFE70, " "), (0xFE72, " "), (0xFE74, " "),
   (0xFE76, " "), (0xFE78, " "), (0xFE7A, " "), (0xFE7C, " "), (0xFE7E, " "),
   (0xFF01, "!\"#$%&'()*+,-./0123456789:;<=>?@ABCDEFGHIJKLMNOPQRSTUVWXYZ[\\"),
   (0xFF3D, "]^_`abcdefghijklmnopqrstuvwxyz\x7b|\x7d~"), (0xFFE3, " "), (0x107A5, "q"),
   (0x1D400, "ABCDEFGHIJKLMNOPQRSTUVWXYZabcdefghijklmnopqrstuvwxyzABCDEFGH"),
   (0x1D43C, "IJKLMNOPQRSTUVWXYZabcdefg"),
   (0x1D456, "ijklmnopqrstuvwxyzABCDEFGHIJKLMNOPQRSTUVWXYZabcdefghijklmnop"),
   (0x1D492, "qrstuvwxyzA"), (0x1D49E, "CD"), (0x1D4A2, "G"), (0x1D4A5, "JK"), (0x1D4A9, "NOPQ"),
   (0x1D4AE, "STUVWXYZabcd"), (0x1D4BB, "f"), (0x1D4BD, "hijklmn"),
   (0x1D4C5, "pqrstuvwxyzABCDEFGHIJKLMNOPQRSTUVWXYZabcdefghijklmnopqrstuvw"), (0x1D501, "xyzAB"),
   (0x1D507, "DEFG"), (0x1D50D, "JKLMNOPQ"), (0x1D516, "STUVWXY"),
   (0x1D51E, "abcdefghijklmnopqrstuvwxyzAB"), (0x1D53B, "DEFG"), (0x1D540, "IJKLM"),
   (0x1D546, "O"), (0x1D54A, "STUVWXY"),
   (0x1D552, "abcdefghijklmnopqrstuvwxyzABCDEFGHIJKLMNOPQRSTUVWXYZabcdefgh"),
   (0x1D58E, "ijklmnopqrstuvwxyzABCDEFGHIJKLMNOPQRSTUVWXYZabcdefghijklmnop"),
   (0x1D5CA, "qrstuvwxyzABCDEFGHIJKLMNOPQRSTUVWXYZabcdefghijklmnopqrstuvwx"),
   (0x1D606, "yzABCDEFGHIJKLMNOPQRSTUVWXYZabcdefghijklmnopqrstuvwxyzABCDEF"),
   (0x1D642, "GHIJKLMNOPQRSTUVWXYZabcdefghijklmnopqrstuvwxyzABCDEFGHIJKLMN"),
   (0x1D67E, "OPQRSTUVWXYZabcdefghijklmnopqrstuvwxyz"),
   (0x1D7CE, "01234567890123456789012345678901234567890123456789"), (0x1F12A, "SCR"),
   (0x1F130, "ABCDEFGHIJKLMNOPQRSTUVWXYZ"), (0x1FBF0, "0123456789")]

/-- Runs of consecutive characters with several ASCII characters each. -/
def foldSequences : List (Nat × List String) :=
  [(0xBC, ["14", "12", "34"]), (0x132, ["IJ", "ij"]),
   (0x1C4, ["DZ", "Dz", "dz", "LJ", "Lj", "lj", "NJ", "Nj"]), (0x1CC, ["nj"]),
   (0x1F1, ["DZ", "Dz", "dz"]), (0x2025, ["..", "..."]), (0x203C, ["!!"]),
   (0x2047, ["??", "?!", "!?"]), (0x20A8, ["Rs"]), (0x2100, ["a/c", "a/s"]),
   (0x2105, ["c/o", "c/u"]), (0x2116, ["No"]), (0x2120, ["SM", "TEL", "TM"]), (0x213B, ["FAX"]),
   (0x2150, ["17", "19", "110", "13", "23", "15", "25", "35"]),
   (0x2158, ["45", "16", "56", "18", "38", "58", "78"]), (0x2161, ["II", "III", "IV"]),
   (0x2165, ["VI", "VII", "VIII", "IX"]), (0x216A, ["XI", "XII"]), (0x2171, ["ii", "iii", "iv"]),
   (0x2175, ["vi", "vii", "viii", "ix"]), (0x217A, ["xi", "xii"]), (0x2189, ["03"]),
   (0x2469, ["10", "11", "12", "13", "14", "15", "16", "17"]),
   (0x2471, ["18", "19", "20", "(1)", "(2)", "(3)", "(4)", "(5)"]),
   (0x2479, ["(6)", "(7)", "(8)", "(9)", "(10)", "(11)", "(12)", "(13)"]),
   (0x2481, ["(14)", "(15)", "(16)", "(17)", "(18)", "(19)", "(20)", "1."]),
   (0x2489, ["2.", "3.", "4.", "5.", "6.", "7.", "8.", "9."]),
   (0x2491, ["10.", "11.", "12.", "13.", "14.", "15.", "16.", "17."]),
   (0x2499, ["18.", "19.", "20.", "(a)", "(b)", "(c)", "(d)", "(e)"]),
   (0x24A1, ["(f)", "(g)", "(h)", "(i)", "(j)", "(k)", "(l)", "(m)"]),
   (0x24A9, ["(n)", "(o)", "(p)", "(q)", "(r)", "(s)", "(t)", "(u)"]),
   (0x24B1, ["(v)", "(w)", "(x)", "(y)", "(z)"]), (0x2A74, ["::=", "==", "==="]),
   (0x3200, ["()", "()", "()", "()", "()", "()", "()", "()"]),
   (0x3208, ["()", "()", "()", "()", "()", "()", "()", "()"]),
   (0x3210, ["()", "()", "()", "()", "()", "()", "()", "()"]),
   (0x3218, ["()", "()", "()", "()", "()", "()", "()"]),
   (0x3220, ["()", "()", "()", "()", "()", "()", "()", "()"]),
   (0x3228, ["()", "()", "()", "()", "()", "()", "()", "()"]),
   (0x3230, ["()", "()", "()", "()", "()", "()", "()", "()"]),
   (0x3238, ["()", "()", "()", "()", "()", "()", "()", "()"]), (0x3240, ["()", "()", "()", "()"]),
   (0x3250, ["PTE", "21", "22", "23", "24", "25", "26", "27"]),
   (0x3258, ["28", "29", "30", "31", "32", "33", "34", "35"]),
   (0x32B1, ["36", "37", "38", "39", "40", "41", "42", "43"]),
   (0x32B9, ["44", "45", "46", "47", "48", "49", "50"]),
   (0x32C9, ["10", "11", "12", "Hg", "erg", "eV", "LTD"]),
   (0x3362, ["10", "11", "12", "13", "14", "15", "16", "17"]),
   (0x336A, ["18", "19", "20", "21", "22", "23", "24", "hPa"]),
   (0x3372, ["da", "AU", "bar", "oV", "pc", "dm", "dm2", "dm3"]), (0x337A, ["IU"]),
   (0x3380, ["pA", "nA"]), (0x3383, ["mA", "kA", "KB", "MB", "GB", "cal", "kcal", "pF"]),
   (0x338B, ["nF"]), (0x338E, ["mg", "kg", "Hz", "kHz", "MHz", "GHz", "THz"]),
   (0x3396, ["ml", "dl", "kl", "fm", "nm"]),
   (0x339C, ["mm", "cm", "km", "mm2", "cm2", "m2", "km2", "mm3"]),
   (0x33A4, ["cm3", "m3", "km3", "ms", "ms2", "Pa", "kPa", "MPa"]),
   (0x33AC, ["GPa", "rad", "rads", "rads2", "ps", "ns"]), (0x33B3, ["ms", "pV", "nV"]),
   (0x33B7, ["mV", "kV", "MV", "pW", "nW"]), (0x33BD, ["mW", "kW", "MW"]),
   (0x33C2, ["a.m.", "Bq", "cc", "cd", "Ckg", "Co.", "dB", "Gy"]),
   (0x33CA, ["ha", "HP", "in", "KK", "KM", "kt", "lm", "ln"]),
   (0x33D2, ["log", "lx", "mb", "mil", "mol", "PH", "p.m.", "PPM"]),
   (0x33DA, ["PR", "sr", "Sv", "Wb", "Vm", "Am"]),
   (0x33E9, ["10", "11", "12", "13", "14", "15", "16", "17"]),
   (0x33F1, ["18", "19", "20", "21", "22", "23", "24", "25"]),
   (0x33F9, ["26", "27", "28", "29", "30", "31", "gal"]),
   (0xFB00, ["ff", "fi", "fl", "ffi", "ffl", "st", "st"]), (0xFDFA, ["   "]), (0xFE19, ["..."]),
   (0xFE30, [".."]), (0x1F100, ["0.", "0,", "1,", "2,", "3,", "4,", "5,", "6,"]),
   (0x1F108, ["7,", "8,", "9,"]),
   (0x1F110, ["(A)", "(B)", "(C)", "(D)", "(E)", "(F)", "(G)", "(H)"]),
   (0x1F118, ["(I)", "(J)", "(K)", "(L)", "(M)", "(N)", "(O)", "(P)"]),
   (0x1F120, ["(Q)", "(R)", "(S)", "(T)", "(U)", "(V)", "(W)", "(X)"]), (0x1F128, ["(Y)", "(Z)"]),
   (0x1F12D, ["CD", "WZ"]), (0x1F14A, ["HV", "MV", "SD", "SS", "PPV", "WC"]),
   (0x1F16A, ["MC", "MD", "MR"]), (0x1F190, ["DJ"])]

/-- The ASCII part of a character outside ASCII. -/
def foldByTable (c : Char) : Text :=
  match foldLetters.findSome? fun run =>
      if run.1 ≤ c.toNat then run.2.toList[c.toNat - run.1]? else none with
  | some letter => [letter]
  | none =>
    match foldSequences.findSome? fun run =>
        if run.1 ≤ c.toNat then run.2[c.toNat - run.1]? else none with
    | some letters => letters.toList
    | none => []

/-- The ASCII part of a character. -/
def foldChar (c : Char) : Text :=
  if c.toNat < 128 then [c] else (foldByTable c).filter fun d => decide (d.toNat < 128)

/-- The ASCII part of a text. -/
def asciiFold (s : Text) : Text := s.flatMap foldChar

end CsvIntake.Text
