/-!
# Signs that stand for texts

The characters that are read as several others in the name of a domain: ligatures, fractions, and
letters and numbers in brackets, circles and squares.
-/

namespace ApiAtlas.Domain

/-- Rows of characters, every one or every other one from the first on, with what each is read
as. -/
def signRows : List (Nat × Nat × List String) := [
  (0xa8, 1, [" \u0308"]), (0xaf, 1, [" \u0304"]), (0xb4, 1, [" \u0301"]), (0xb8, 1, [" \u0327"]),
  (0xbc, 1, ["1⁄4", "1⁄2", "3⁄4"]), (0x130, 2, ["i\u0307", "ij"]), (0x133, 1, ["ij"]),
  (0x13f, 1, ["l·", "l·"]), (0x149, 1, ["\u02bcn"]),
  (0x1c4, 1, ["dž", "dž", "dž", "lj", "lj", "lj", "nj", "nj", "nj"]),
  (0x1f1, 1, ["dz", "dz", "dz"]),
  (0x2d8, 1, [" \u0306", " \u0307", " \u030a", " \u0328", " \u0303", " \u030b"]),
  (0x344, 1, ["\u0308\u0301"]), (0x37a, 1, [" ι"]), (0x384, 1, [" \u0301", " \u0308\u0301"]),
  (0x587, 1, ["եւ"]), (0x675, 1, ["\u0627\u0674", "\u0648\u0674", "\u06c7\u0674", "\u064a\u0674"]),
  (0x958, 1, ["क\u093c", "ख\u093c", "ग\u093c", "ज\u093c", "ड\u093c", "ढ\u093c", "फ\u093c"]),
  (0x95f, 1, ["य\u093c"]), (0x9dc, 1, ["ড\u09bc", "ঢ\u09bc"]), (0x9df, 1, ["য\u09bc"]),
  (0xa33, 1, ["ਲ\u0a3c"]), (0xa36, 1, ["ਸ\u0a3c"]), (0xa59, 1, ["ਖ\u0a3c", "ਗ\u0a3c", "ਜ\u0a3c"]),
  (0xa5e, 1, ["ਫ\u0a3c"]), (0xb5c, 1, ["ଡ\u0b3c", "ଢ\u0b3c"]), (0xe33, 1, ["\u0e4dา"]),
  (0xeb3, 1, ["\u0ecdາ"]), (0xedc, 1, ["ຫນ", "ຫມ"]), (0xf43, 1, ["ག\u0fb7"]),
  (0xf4d, 1, ["ཌ\u0fb7"]), (0xf52, 1, ["ད\u0fb7"]), (0xf57, 1, ["བ\u0fb7"]),
  (0xf5c, 1, ["ཛ\u0fb7"]), (0xf69, 1, ["ཀ\u0fb5"]), (0xf73, 2, ["\u0f71\u0f72", "\u0f71\u0f74"]),
  (0xf76, 1, ["\u0fb2\u0f80", "\u0fb2\u0f71\u0f80", "\u0fb3\u0f80", "\u0fb3\u0f71\u0f80"]),
  (0xf81, 1, ["\u0f71\u0f80"]), (0xf93, 1, ["\u0f92\u0fb7"]), (0xf9d, 1, ["\u0f9c\u0fb7"]),
  (0xfa2, 1, ["\u0fa1\u0fb7"]), (0xfa7, 1, ["\u0fa6\u0fb7"]), (0xfac, 1, ["\u0fab\u0fb7"]),
  (0xfb9, 1, ["\u0f90\u0fb5"]), (0x1e9a, 1, ["a\u02be"]),
  (0x1f80, 1, ["ἀι", "ἁι", "ἂι", "ἃι", "ἄι", "ἅι", "ἆι", "ἇι", "ἀι", "ἁι", "ἂι", "ἃι", "ἄι"]),
  (0x1f8d, 1, ["ἅι", "ἆι", "ἇι", "ἠι", "ἡι", "ἢι", "ἣι", "ἤι", "ἥι", "ἦι", "ἧι", "ἠι", "ἡι"]),
  (0x1f9a, 1, ["ἢι", "ἣι", "ἤι", "ἥι", "ἦι", "ἧι", "ὠι", "ὡι", "ὢι", "ὣι", "ὤι", "ὥι", "ὦι"]),
  (0x1fa7, 1, ["ὧι", "ὠι", "ὡι", "ὢι", "ὣι", "ὤι", "ὥι", "ὦι", "ὧι"]),
  (0x1fb2, 1, ["ὰι", "αι", "άι"]), (0x1fb7, 1, ["ᾶι"]), (0x1fbc, 1, ["αι", " \u0313"]),
  (0x1fbf, 1, [" \u0313", " \u0342", " \u0308\u0342", "ὴι", "ηι", "ήι"]), (0x1fc7, 1, ["ῆι"]),
  (0x1fcc, 1, ["ηι", " \u0313\u0300", " \u0313\u0301", " \u0313\u0342"]),
  (0x1fdd, 1, [" \u0314\u0300", " \u0314\u0301", " \u0314\u0342"]),
  (0x1fed, 1, [" \u0308\u0300", " \u0308\u0301"]), (0x1ff2, 1, ["ὼι", "ωι", "ώι"]),
  (0x1ff7, 1, ["ῶι"]), (0x1ffc, 1, ["ωι", " \u0301", " \u0314"]), (0x2017, 1, [" \u0333"]),
  (0x2033, 1, ["′′", "′′′"]), (0x2036, 1, ["‵‵", "‵‵‵"]), (0x203c, 2, ["!!", " \u0305"]),
  (0x2047, 1, ["??", "?!", "!?"]), (0x2057, 1, ["′′′′"]), (0x20a8, 1, ["rs"]),
  (0x2100, 1, ["a/c", "a/s"]), (0x2103, 2, ["°c", "c/o"]), (0x2106, 1, ["c/u"]),
  (0x2109, 1, ["°f"]), (0x2116, 1, ["no"]), (0x2120, 1, ["sm", "tel", "tm"]), (0x213b, 1, ["fax"]),
  (0x2150, 1, ["1⁄7", "1⁄9", "1⁄10", "1⁄3", "2⁄3", "1⁄5", "2⁄5", "3⁄5", "4⁄5", "1⁄6", "5⁄6"]),
  (0x215b, 1, ["1⁄8", "3⁄8", "5⁄8", "7⁄8", "1⁄"]), (0x2161, 1, ["ii", "iii", "iv"]),
  (0x2165, 1, ["vi", "vii", "viii", "ix"]), (0x216a, 1, ["xi", "xii"]),
  (0x2171, 1, ["ii", "iii", "iv"]), (0x2175, 1, ["vi", "vii", "viii", "ix"]),
  (0x217a, 1, ["xi", "xii"]), (0x2189, 1, ["0⁄3"]), (0x222c, 1, ["∫∫", "∫∫∫"]),
  (0x222f, 1, ["∮∮", "∮∮∮"]),
  (0x2469, 1, ["10", "11", "12", "13", "14", "15", "16", "17", "18", "19", "20", "(1)", "(2)"]),
  (0x2476, 1, ["(3)", "(4)", "(5)", "(6)", "(7)", "(8)", "(9)", "(10)", "(11)", "(12)"]),
  (0x2480, 1, ["(13)", "(14)", "(15)", "(16)", "(17)", "(18)", "(19)", "(20)"]),
  (0x249c, 1, ["(a)", "(b)", "(c)", "(d)", "(e)", "(f)", "(g)", "(h)", "(i)", "(j)", "(k)"]),
  (0x24a7, 1, ["(l)", "(m)", "(n)", "(o)", "(p)", "(q)", "(r)", "(s)", "(t)", "(u)", "(v)"]),
  (0x24b2, 1, ["(w)", "(x)", "(y)", "(z)"]), (0x2a0c, 1, ["∫∫∫∫"]),
  (0x2a74, 1, ["::=", "==", "==="]), (0x2adc, 1, ["⫝\u0338"]), (0x309b, 1, [" \u3099", " \u309a"]),
  (0x309f, 1, ["より"]), (0x30ff, 1, ["コト"]),
  (0x3200, 1, ["(ᄀ)", "(ᄂ)", "(ᄃ)", "(ᄅ)", "(ᄆ)", "(ᄇ)", "(ᄉ)", "(ᄋ)", "(ᄌ)", "(ᄎ)", "(ᄏ)"]),
  (0x320b, 1, ["(ᄐ)", "(ᄑ)", "(ᄒ)", "(가)", "(나)", "(다)", "(라)", "(마)", "(바)", "(사)", "(아)"]),
  (0x3216, 1, ["(자)", "(차)", "(카)", "(타)", "(파)", "(하)", "(주)", "(오전)", "(오후)"]),
  (0x3220, 1, ["(一)", "(二)", "(三)", "(四)", "(五)", "(六)", "(七)", "(八)", "(九)", "(十)", "(月)"]),
  (0x322b, 1, ["(火)", "(水)", "(木)", "(金)", "(土)", "(日)", "(株)", "(有)", "(社)", "(名)", "(特)"]),
  (0x3236, 1, ["(財)", "(祝)", "(労)", "(代)", "(呼)", "(学)", "(監)", "(企)", "(資)", "(協)", "(祭)"]),
  (0x3241, 1, ["(休)", "(自)", "(至)"]),
  (0x3250, 1, ["pte", "21", "22", "23", "24", "25", "26", "27", "28", "29", "30", "31", "32"]),
  (0x325d, 1, ["33", "34", "35"]), (0x327c, 1, ["참고", "주의"]),
  (0x32b1, 1, ["36", "37", "38", "39", "40", "41", "42", "43", "44", "45", "46", "47", "48"]),
  (0x32be, 1, ["49", "50", "1月", "2月", "3月", "4月", "5月", "6月", "7月", "8月", "9月", "10月", "11月"]),
  (0x32cb, 1, ["12月", "hg", "erg", "ev", "ltd"]),
  (0x32ff, 1, ["令和", "アパ\u30fcト", "アルファ", "アンペア", "ア\u30fcル", "イニング", "インチ", "ウォン"]),
  (0x3307, 1, ["エスク\u30fcド", "エ\u30fcカ\u30fc", "オンス", "オ\u30fcム", "カイリ", "カラット", "カロリ\u30fc"]),
  (0x330e, 1, ["ガロン", "ガンマ", "ギガ", "ギニ\u30fc", "キュリ\u30fc", "ギルダ\u30fc", "キロ", "キログラム"]),
  (0x3316, 1, ["キロメ\u30fcトル", "キロワット", "グラム", "グラムトン", "クルゼイロ", "クロ\u30fcネ", "ケ\u30fcス"]),
  (0x331d, 1, ["コルナ", "コ\u30fcポ", "サイクル", "サンチ\u30fcム", "シリング", "センチ", "セント", "ダ\u30fcス"]),
  (0x3325, 1, ["デシ", "ドル", "トン", "ナノ", "ノット", "ハイツ", "パ\u30fcセント", "パ\u30fcツ", "バ\u30fcレル"]),
  (0x332e, 1, ["ピアストル", "ピクル", "ピコ", "ビル", "ファラッド", "フィ\u30fcト", "ブッシェル", "フラン", "ヘクタ\u30fcル"]),
  (0x3337, 1, ["ペソ", "ペニヒ", "ヘルツ", "ペンス", "ペ\u30fcジ", "ベ\u30fcタ", "ポイント", "ボルト", "ホン", "ポンド"]),
  (0x3341, 1, ["ホ\u30fcル", "ホ\u30fcン", "マイクロ", "マイル", "マッハ", "マルク", "マンション", "ミクロン", "ミリ"]),
  (0x334a, 1, ["ミリバ\u30fcル", "メガ", "メガトン", "メ\u30fcトル", "ヤ\u30fcド", "ヤ\u30fcル", "ユアン", "リットル"]),
  (0x3352, 1, ["リラ", "ルピ\u30fc", "ル\u30fcブル", "レム", "レントゲン", "ワット", "0点", "1点", "2点", "3点"]),
  (0x335c, 1, ["4点", "5点", "6点", "7点", "8点", "9点", "10点", "11点", "12点", "13点", "14点", "15点"]),
  (0x3368, 1, ["16点", "17点", "18点", "19点", "20点", "21点", "22点", "23点", "24点", "hpa", "da"]),
  (0x3373, 1, ["au", "bar", "ov", "pc", "dm", "dm2", "dm3", "iu", "平成", "昭和", "大正", "明治"]),
  (0x337f, 1, ["株式会社", "pa", "na", "μa", "ma", "ka", "kb", "mb", "gb", "cal", "kcal", "pf"]),
  (0x338b, 1, ["nf", "μf", "μg", "mg", "kg", "hz", "khz", "mhz", "ghz", "thz", "μl", "ml"]),
  (0x3397, 1, ["dl", "kl", "fm", "nm", "μm", "mm", "cm", "km", "mm2", "cm2", "m2", "km2"]),
  (0x33a3, 1, ["mm3", "cm3", "m3", "km3", "m∕s", "m∕s2", "pa", "kpa", "mpa", "gpa", "rad"]),
  (0x33ae, 1, ["rad∕s", "rad∕s2", "ps", "ns", "μs", "ms", "pv", "nv", "μv", "mv", "kv", "mv"]),
  (0x33ba, 1, ["pw", "nw", "μw", "mw", "kw", "mw", "kω", "mω"]),
  (0x33c3, 1, ["bq", "cc", "cd", "c∕kg"]),
  (0x33c8, 1, ["db", "gy", "ha", "hp", "in", "kk", "km", "kt", "lm", "ln", "log", "lx", "mb"]),
  (0x33d5, 1, ["mil", "mol", "ph"]),
  (0x33d9, 1, ["ppm", "pr", "sr", "sv", "wb", "v∕m", "a∕m", "1日", "2日", "3日", "4日", "5日"]),
  (0x33e5, 1, ["6日", "7日", "8日", "9日", "10日", "11日", "12日", "13日", "14日", "15日", "16日", "17日"]),
  (0x33f1, 1, ["18日", "19日", "20日", "21日", "22日", "23日", "24日", "25日", "26日", "27日", "28日"]),
  (0x33fc, 1, ["29日", "30日", "31日", "gal"]),
  (0xfb00, 1, ["ff", "fi", "fl", "ffi", "ffl", "st", "st"]),
  (0xfb13, 1, ["մն", "մե", "մի", "վն", "մխ"]), (0xfb1d, 2, ["\u05d9\u05b4", "\u05f2\u05b7"]),
  (0xfb2a, 1, ["\u05e9\u05c1", "\u05e9\u05c2", "\u05e9\u05bc\u05c1", "\u05e9\u05bc\u05c2"]),
  (0xfb2e, 1, ["\u05d0\u05b7", "\u05d0\u05b8", "\u05d0\u05bc", "\u05d1\u05bc", "\u05d2\u05bc"]),
  (0xfb33, 1, ["\u05d3\u05bc", "\u05d4\u05bc", "\u05d5\u05bc", "\u05d6\u05bc"]),
  (0xfb38, 1, ["\u05d8\u05bc", "\u05d9\u05bc", "\u05da\u05bc", "\u05db\u05bc", "\u05dc\u05bc"]),
  (0xfb3e, 2, ["\u05de\u05bc", "\u05e0\u05bc"]), (0xfb41, 2, ["\u05e1\u05bc", "\u05e3\u05bc"]),
  (0xfb44, 2, ["\u05e4\u05bc", "\u05e6\u05bc"]),
  (0xfb47, 1, ["\u05e7\u05bc", "\u05e8\u05bc", "\u05e9\u05bc", "\u05ea\u05bc", "\u05d5\u05b9"]),
  (0xfb4c, 1, ["\u05d1\u05bf", "\u05db\u05bf", "\u05e4\u05bf", "\u05d0\u05dc"]),
  (0xfbdd, 1, ["\u06c7\u0674"]),
  (0xfbea, 1, ["\u0626\u0627", "\u0626\u0627", "\u0626\u06d5", "\u0626\u06d5", "\u0626\u0648"]),
  (0xfbef, 1, ["\u0626\u0648", "\u0626\u06c7", "\u0626\u06c7", "\u0626\u06c6", "\u0626\u06c6"]),
  (0xfbf4, 1, ["\u0626\u06c8", "\u0626\u06c8", "\u0626\u06d0", "\u0626\u06d0", "\u0626\u06d0"]),
  (0xfbf9, 1, ["\u0626\u0649", "\u0626\u0649", "\u0626\u0649"]),
  (0xfc00, 1, ["\u0626\u062c", "\u0626\u062d", "\u0626\u0645", "\u0626\u0649", "\u0626\u064a"]),
  (0xfc05, 1, ["\u0628\u062c", "\u0628\u062d", "\u0628\u062e", "\u0628\u0645", "\u0628\u0649"]),
  (0xfc0a, 1, ["\u0628\u064a", "\u062a\u062c", "\u062a\u062d", "\u062a\u062e", "\u062a\u0645"]),
  (0xfc0f, 1, ["\u062a\u0649", "\u062a\u064a", "\u062b\u062c", "\u062b\u0645", "\u062b\u0649"]),
  (0xfc14, 1, ["\u062b\u064a", "\u062c\u062d", "\u062c\u0645", "\u062d\u062c", "\u062d\u0645"]),
  (0xfc19, 1, ["\u062e\u062c", "\u062e\u062d", "\u062e\u0645", "\u0633\u062c", "\u0633\u062d"]),
  (0xfc1e, 1, ["\u0633\u062e", "\u0633\u0645", "\u0635\u062d", "\u0635\u0645", "\u0636\u062c"]),
  (0xfc23, 1, ["\u0636\u062d", "\u0636\u062e", "\u0636\u0645", "\u0637\u062d", "\u0637\u0645"]),
  (0xfc28, 1, ["\u0638\u0645", "\u0639\u062c", "\u0639\u0645", "\u063a\u062c", "\u063a\u0645"]),
  (0xfc2d, 1, ["\u0641\u062c", "\u0641\u062d", "\u0641\u062e", "\u0641\u0645", "\u0641\u0649"]),
  (0xfc32, 1, ["\u0641\u064a", "\u0642\u062d", "\u0642\u0645", "\u0642\u0649", "\u0642\u064a"]),
  (0xfc37, 1, ["\u0643\u0627", "\u0643\u062c", "\u0643\u062d", "\u0643\u062e", "\u0643\u0644"]),
  (0xfc3c, 1, ["\u0643\u0645", "\u0643\u0649", "\u0643\u064a", "\u0644\u062c", "\u0644\u062d"]),
  (0xfc41, 1, ["\u0644\u062e", "\u0644\u0645", "\u0644\u0649", "\u0644\u064a", "\u0645\u062c"]),
  (0xfc46, 1, ["\u0645\u062d", "\u0645\u062e", "\u0645\u0645", "\u0645\u0649", "\u0645\u064a"]),
  (0xfc4b, 1, ["\u0646\u062c", "\u0646\u062d", "\u0646\u062e", "\u0646\u0645", "\u0646\u0649"]),
  (0xfc50, 1, ["\u0646\u064a", "\u0647\u062c", "\u0647\u0645", "\u0647\u0649", "\u0647\u064a"]),
  (0xfc55, 1, ["\u064a\u062c", "\u064a\u062d", "\u064a\u062e", "\u064a\u0645", "\u064a\u0649"]),
  (0xfc5a, 1, ["\u064a\u064a", "\u0630\u0670", "\u0631\u0670", "\u0649\u0670"]),
  (0xfc5e, 1, [" \u064c\u0651", " \u064d\u0651", " \u064e\u0651", " \u064f\u0651"]),
  (0xfc62, 1, [" \u0650\u0651", " \u0651\u0670", "\u0626\u0631", "\u0626\u0632"]),
  (0xfc66, 1, ["\u0626\u0645", "\u0626\u0646", "\u0626\u0649", "\u0626\u064a", "\u0628\u0631"]),
  (0xfc6b, 1, ["\u0628\u0632", "\u0628\u0645", "\u0628\u0646", "\u0628\u0649", "\u0628\u064a"]),
  (0xfc70, 1, ["\u062a\u0631", "\u062a\u0632", "\u062a\u0645", "\u062a\u0646", "\u062a\u0649"]),
  (0xfc75, 1, ["\u062a\u064a", "\u062b\u0631", "\u062b\u0632", "\u062b\u0645", "\u062b\u0646"]),
  (0xfc7a, 1, ["\u062b\u0649", "\u062b\u064a", "\u0641\u0649", "\u0641\u064a", "\u0642\u0649"]),
  (0xfc7f, 1, ["\u0642\u064a", "\u0643\u0627", "\u0643\u0644", "\u0643\u0645", "\u0643\u0649"]),
  (0xfc84, 1, ["\u0643\u064a", "\u0644\u0645", "\u0644\u0649", "\u0644\u064a", "\u0645\u0627"]),
  (0xfc89, 1, ["\u0645\u0645", "\u0646\u0631", "\u0646\u0632", "\u0646\u0645", "\u0646\u0646"]),
  (0xfc8e, 1, ["\u0646\u0649", "\u0646\u064a", "\u0649\u0670", "\u064a\u0631", "\u064a\u0632"]),
  (0xfc93, 1, ["\u064a\u0645", "\u064a\u0646", "\u064a\u0649", "\u064a\u064a", "\u0626\u062c"]),
  (0xfc98, 1, ["\u0626\u062d", "\u0626\u062e", "\u0626\u0645", "\u0626\u0647", "\u0628\u062c"]),
  (0xfc9d, 1, ["\u0628\u062d", "\u0628\u062e", "\u0628\u0645", "\u0628\u0647", "\u062a\u062c"]),
  (0xfca2, 1, ["\u062a\u062d", "\u062a\u062e", "\u062a\u0645", "\u062a\u0647", "\u062b\u0645"]),
  (0xfca7, 1, ["\u062c\u062d", "\u062c\u0645", "\u062d\u062c", "\u062d\u0645", "\u062e\u062c"]),
  (0xfcac, 1, ["\u062e\u0645", "\u0633\u062c", "\u0633\u062d", "\u0633\u062e", "\u0633\u0645"]),
  (0xfcb1, 1, ["\u0635\u062d", "\u0635\u062e", "\u0635\u0645", "\u0636\u062c", "\u0636\u062d"]),
  (0xfcb6, 1, ["\u0636\u062e", "\u0636\u0645", "\u0637\u062d", "\u0638\u0645", "\u0639\u062c"]),
  (0xfcbb, 1, ["\u0639\u0645", "\u063a\u062c", "\u063a\u0645", "\u0641\u062c", "\u0641\u062d"]),
  (0xfcc0, 1, ["\u0641\u062e", "\u0641\u0645", "\u0642\u062d", "\u0642\u0645", "\u0643\u062c"]),
  (0xfcc5, 1, ["\u0643\u062d", "\u0643\u062e", "\u0643\u0644", "\u0643\u0645", "\u0644\u062c"]),
  (0xfcca, 1, ["\u0644\u062d", "\u0644\u062e", "\u0644\u0645", "\u0644\u0647", "\u0645\u062c"]),
  (0xfccf, 1, ["\u0645\u062d", "\u0645\u062e", "\u0645\u0645", "\u0646\u062c", "\u0646\u062d"]),
  (0xfcd4, 1, ["\u0646\u062e", "\u0646\u0645", "\u0646\u0647", "\u0647\u062c", "\u0647\u0645"]),
  (0xfcd9, 1, ["\u0647\u0670", "\u064a\u062c", "\u064a\u062d", "\u064a\u062e", "\u064a\u0645"]),
  (0xfcde, 1, ["\u064a\u0647", "\u0626\u0645", "\u0626\u0647", "\u0628\u0645", "\u0628\u0647"]),
  (0xfce3, 1, ["\u062a\u0645", "\u062a\u0647", "\u062b\u0645", "\u062b\u0647", "\u0633\u0645"]),
  (0xfce8, 1, ["\u0633\u0647", "\u0634\u0645", "\u0634\u0647", "\u0643\u0644", "\u0643\u0645"]),
  (0xfced, 1, ["\u0644\u0645", "\u0646\u0645", "\u0646\u0647", "\u064a\u0645", "\u064a\u0647"]),
  (0xfcf2, 1, ["\u0640\u064e\u0651", "\u0640\u064f\u0651", "\u0640\u0650\u0651"]),
  (0xfcf5, 1, ["\u0637\u0649", "\u0637\u064a", "\u0639\u0649", "\u0639\u064a", "\u063a\u0649"]),
  (0xfcfa, 1, ["\u063a\u064a", "\u0633\u0649", "\u0633\u064a", "\u0634\u0649", "\u0634\u064a"]),
  (0xfcff, 1, ["\u062d\u0649", "\u062d\u064a", "\u062c\u0649", "\u062c\u064a", "\u062e\u0649"]),
  (0xfd04, 1, ["\u062e\u064a", "\u0635\u0649", "\u0635\u064a", "\u0636\u0649", "\u0636\u064a"]),
  (0xfd09, 1, ["\u0634\u062c", "\u0634\u062d", "\u0634\u062e", "\u0634\u0645", "\u0634\u0631"]),
  (0xfd0e, 1, ["\u0633\u0631", "\u0635\u0631", "\u0636\u0631", "\u0637\u0649", "\u0637\u064a"]),
  (0xfd13, 1, ["\u0639\u0649", "\u0639\u064a", "\u063a\u0649", "\u063a\u064a", "\u0633\u0649"]),
  (0xfd18, 1, ["\u0633\u064a", "\u0634\u0649", "\u0634\u064a", "\u062d\u0649", "\u062d\u064a"]),
  (0xfd1d, 1, ["\u062c\u0649", "\u062c\u064a", "\u062e\u0649", "\u062e\u064a", "\u0635\u0649"]),
  (0xfd22, 1, ["\u0635\u064a", "\u0636\u0649", "\u0636\u064a", "\u0634\u062c", "\u0634\u062d"]),
  (0xfd27, 1, ["\u0634\u062e", "\u0634\u0645", "\u0634\u0631", "\u0633\u0631", "\u0635\u0631"]),
  (0xfd2c, 1, ["\u0636\u0631", "\u0634\u062c", "\u0634\u062d", "\u0634\u062e", "\u0634\u0645"]),
  (0xfd31, 1, ["\u0633\u0647", "\u0634\u0647", "\u0637\u0645", "\u0633\u062c", "\u0633\u062d"]),
  (0xfd36, 1, ["\u0633\u062e", "\u0634\u062c", "\u0634\u062d", "\u0634\u062e", "\u0637\u0645"]),
  (0xfd3b, 1, ["\u0638\u0645", "\u0627\u064b", "\u0627\u064b"]),
  (0xfd50, 1, ["\u062a\u062c\u0645", "\u062a\u062d\u062c", "\u062a\u062d\u062c"]),
  (0xfd53, 1, ["\u062a\u062d\u0645", "\u062a\u062e\u0645", "\u062a\u0645\u062c"]),
  (0xfd56, 1, ["\u062a\u0645\u062d", "\u062a\u0645\u062e", "\u062c\u0645\u062d"]),
  (0xfd59, 1, ["\u062c\u0645\u062d", "\u062d\u0645\u064a", "\u062d\u0645\u0649"]),
  (0xfd5c, 1, ["\u0633\u062d\u062c", "\u0633\u062c\u062d", "\u0633\u062c\u0649"]),
  (0xfd5f, 1, ["\u0633\u0645\u062d", "\u0633\u0645\u062d", "\u0633\u0645\u062c"]),
  (0xfd62, 1, ["\u0633\u0645\u0645", "\u0633\u0645\u0645", "\u0635\u062d\u062d"]),
  (0xfd65, 1, ["\u0635\u062d\u062d", "\u0635\u0645\u0645", "\u0634\u062d\u0645"]),
  (0xfd68, 1, ["\u0634\u062d\u0645", "\u0634\u062c\u064a", "\u0634\u0645\u062e"]),
  (0xfd6b, 1, ["\u0634\u0645\u062e", "\u0634\u0645\u0645", "\u0634\u0645\u0645"]),
  (0xfd6e, 1, ["\u0636\u062d\u0649", "\u0636\u062e\u0645", "\u0636\u062e\u0645"]),
  (0xfd71, 1, ["\u0637\u0645\u062d", "\u0637\u0645\u062d", "\u0637\u0645\u0645"]),
  (0xfd74, 1, ["\u0637\u0645\u064a", "\u0639\u062c\u0645", "\u0639\u0645\u0645"]),
  (0xfd77, 1, ["\u0639\u0645\u0645", "\u0639\u0645\u0649", "\u063a\u0645\u0645"]),
  (0xfd7a, 1, ["\u063a\u0645\u064a", "\u063a\u0645\u0649", "\u0641\u062e\u0645"]),
  (0xfd7d, 1, ["\u0641\u062e\u0645", "\u0642\u0645\u062d", "\u0642\u0645\u0645"]),
  (0xfd80, 1, ["\u0644\u062d\u0645", "\u0644\u062d\u064a", "\u0644\u062d\u0649"]),
  (0xfd83, 1, ["\u0644\u062c\u062c", "\u0644\u062c\u062c", "\u0644\u062e\u0645"]),
  (0xfd86, 1, ["\u0644\u062e\u0645", "\u0644\u0645\u062d", "\u0644\u0645\u062d"]),
  (0xfd89, 1, ["\u0645\u062d\u062c", "\u0645\u062d\u0645", "\u0645\u062d\u064a"]),
  (0xfd8c, 1, ["\u0645\u062c\u062d", "\u0645\u062c\u0645", "\u0645\u062e\u062c"]),
  (0xfd8f, 1, ["\u0645\u062e\u0645"]),
  (0xfd92, 1, ["\u0645\u062c\u062e", "\u0647\u0645\u062c", "\u0647\u0645\u0645"]),
  (0xfd95, 1, ["\u0646\u062d\u0645", "\u0646\u062d\u0649", "\u0646\u062c\u0645"]),
  (0xfd98, 1, ["\u0646\u062c\u0645", "\u0646\u062c\u0649", "\u0646\u0645\u064a"]),
  (0xfd9b, 1, ["\u0646\u0645\u0649", "\u064a\u0645\u0645", "\u064a\u0645\u0645"]),
  (0xfd9e, 1, ["\u0628\u062e\u064a", "\u062a\u062c\u064a", "\u062a\u062c\u0649"]),
  (0xfda1, 1, ["\u062a\u062e\u064a", "\u062a\u062e\u0649", "\u062a\u0645\u064a"]),
  (0xfda4, 1, ["\u062a\u0645\u0649", "\u062c\u0645\u064a", "\u062c\u062d\u0649"]),
  (0xfda7, 1, ["\u062c\u0645\u0649", "\u0633\u062e\u0649", "\u0635\u062d\u064a"]),
  (0xfdaa, 1, ["\u0634\u062d\u064a", "\u0636\u062d\u064a", "\u0644\u062c\u064a"]),
  (0xfdad, 1, ["\u0644\u0645\u064a", "\u064a\u062d\u064a", "\u064a\u062c\u064a"]),
  (0xfdb0, 1, ["\u064a\u0645\u064a", "\u0645\u0645\u064a", "\u0642\u0645\u064a"]),
  (0xfdb3, 1, ["\u0646\u062d\u064a", "\u0642\u0645\u062d", "\u0644\u062d\u0645"]),
  (0xfdb6, 1, ["\u0639\u0645\u064a", "\u0643\u0645\u064a", "\u0646\u062c\u062d"]),
  (0xfdb9, 1, ["\u0645\u062e\u064a", "\u0644\u062c\u0645", "\u0643\u0645\u0645"]),
  (0xfdbc, 1, ["\u0644\u062c\u0645", "\u0646\u062c\u062d", "\u062c\u062d\u064a"]),
  (0xfdbf, 1, ["\u062d\u062c\u064a", "\u0645\u062c\u064a", "\u0641\u0645\u064a"]),
  (0xfdc2, 1, ["\u0628\u062d\u064a", "\u0643\u0645\u0645", "\u0639\u062c\u0645"]),
  (0xfdc5, 1, ["\u0635\u0645\u0645", "\u0633\u062e\u064a", "\u0646\u062c\u064a"]),
  (0xfdf0, 1, ["\u0635\u0644\u06d2", "\u0642\u0644\u06d2", "\u0627\u0644\u0644\u0647"]),
  (0xfdf3, 1, ["\u0627\u0643\u0628\u0631", "\u0645\u062d\u0645\u062f"]),
  (0xfdf5, 1, ["\u0635\u0644\u0639\u0645", "\u0631\u0633\u0648\u0644"]),
  (0xfdf7, 1, ["\u0639\u0644\u064a\u0647", "\u0648\u0633\u0644\u0645", "\u0635\u0644\u0649"]),
  (0xfdfa, 1, [
    "\u0635\u0644\u0649 \u0627\u0644\u0644\u0647 " ++
      "\u0639\u0644\u064a\u0647 \u0648\u0633\u0644\u0645"]),
  (0xfdfb, 1, ["\u062c\u0644 \u062c\u0644\u0627\u0644\u0647", "\u0631\u06cc\u0627\u0644"]),
  (0xfe49, 1, [" \u0305", " \u0305", " \u0305", " \u0305"]),
  (0xfe70, 1, [" \u064b", "\u0640\u064b", " \u064c"]), (0xfe74, 2, [" \u064d", " \u064e"]),
  (0xfe77, 1, ["\u0640\u064e", " \u064f", "\u0640\u064f", " \u0650", "\u0640\u0650"]),
  (0xfe7c, 1, [" \u0651", "\u0640\u0651", " \u0652", "\u0640\u0652"]),
  (0xfef5, 1, ["\u0644\u0622", "\u0644\u0622", "\u0644\u0623", "\u0644\u0623", "\u0644\u0625"]),
  (0xfefa, 1, ["\u0644\u0625", "\u0644\u0627", "\u0644\u0627"]), (0xffe3, 1, [" \u0304"]),
  (0x1d15e, 1, ["𝅗𝅥", "𝅘𝅥", "𝅘𝅥𝅮", "𝅘𝅥𝅯", "𝅘𝅥𝅰", "𝅘𝅥𝅱", "𝅘𝅥𝅲"]),
  (0x1d1bb, 1, ["𝆹𝅥", "𝆺𝅥", "𝆹𝅥𝅮", "𝆺𝅥𝅮", "𝆹𝅥𝅯", "𝆺𝅥𝅯"]),
  (0x1f101, 1, ["0,", "1,", "2,", "3,", "4,", "5,", "6,", "7,", "8,", "9,"]),
  (0x1f110, 1, ["(a)", "(b)", "(c)", "(d)", "(e)", "(f)", "(g)", "(h)", "(i)", "(j)", "(k)"]),
  (0x1f11b, 1, ["(l)", "(m)", "(n)", "(o)", "(p)", "(q)", "(r)", "(s)", "(t)", "(u)", "(v)"]),
  (0x1f126, 1, ["(w)", "(x)", "(y)", "(z)", "〔s〕"]), (0x1f12d, 1, ["cd", "wz"]),
  (0x1f14a, 1, ["hv", "mv", "sd", "ss", "ppv", "wc"]), (0x1f16a, 1, ["mc", "md", "mr"]),
  (0x1f190, 1, ["dj"]), (0x1f200, 1, ["ほか", "ココ"]),
  (0x1f240, 1, ["〔本〕", "〔三〕", "〔二〕", "〔安〕", "〔点〕", "〔打〕", "〔盗〕", "〔勝〕", "〔敗〕"])]

end ApiAtlas.Domain
