import ApiAtlas.Unicode.Combining

/-!
# Composition

A letter with marks can be one character or a letter and its marks, in any order of those that do
not meet. The composed form of a text takes the fewest characters: texts that are written the same
have the same form, apart from characters that stand for others altogether.
-/

namespace ApiAtlas.Unicode

/-- Rows of characters, every one or every other one from the first on, with the two characters that
each is made of. -/
def compositeRows : List (Nat × Nat × String) := [
  (0xc0, 1, "A\u0300A\u0301A\u0302A\u0303A\u0308A\u030a"),
  (0xc7, 1, "C\u0327E\u0300E\u0301E\u0302E\u0308I\u0300I\u0301I\u0302I\u0308"),
  (0xd1, 1, "N\u0303O\u0300O\u0301O\u0302O\u0303O\u0308"),
  (0xd9, 1, "U\u0300U\u0301U\u0302U\u0308Y\u0301"),
  (0xe0, 1, "a\u0300a\u0301a\u0302a\u0303a\u0308a\u030a"),
  (0xe7, 1, "c\u0327e\u0300e\u0301e\u0302e\u0308i\u0300i\u0301i\u0302i\u0308"),
  (0xf1, 1, "n\u0303o\u0300o\u0301o\u0302o\u0303o\u0308"),
  (0xf9, 1, "u\u0300u\u0301u\u0302u\u0308y\u0301"),
  (0xff, 1, "y\u0308A\u0304a\u0304A\u0306a\u0306A\u0328a\u0328C\u0301c\u0301C\u0302c\u0302"),
  (0x10a, 1, "C\u0307c\u0307C\u030cc\u030cD\u030cd\u030c"),
  (0x112, 1, "E\u0304e\u0304E\u0306e\u0306E\u0307e\u0307E\u0328e\u0328E\u030ce\u030cG\u0302"),
  (0x11d, 1, "g\u0302G\u0306g\u0306G\u0307g\u0307G\u0327g\u0327H\u0302h\u0302"),
  (0x128, 1, "I\u0303i\u0303I\u0304i\u0304I\u0306i\u0306I\u0328i\u0328I\u0307"),
  (0x134, 1, "J\u0302j\u0302K\u0327k\u0327"),
  (0x139, 1, "L\u0301l\u0301L\u0327l\u0327L\u030cl\u030c"),
  (0x143, 1, "N\u0301n\u0301N\u0327n\u0327N\u030cn\u030c"),
  (0x14c, 1, "O\u0304o\u0304O\u0306o\u0306O\u030bo\u030b"),
  (0x154, 1, "R\u0301r\u0301R\u0327r\u0327R\u030cr\u030cS\u0301s\u0301S\u0302s\u0302S\u0327"),
  (0x15f, 1, "s\u0327S\u030cs\u030cT\u0327t\u0327T\u030ct\u030c"),
  (0x168, 1, "U\u0303u\u0303U\u0304u\u0304U\u0306u\u0306U\u030au\u030aU\u030bu\u030bU\u0328"),
  (0x173, 1, "u\u0328W\u0302w\u0302Y\u0302y\u0302Y\u0308Z\u0301z\u0301Z\u0307z\u0307Z\u030c"),
  (0x17e, 1, "z\u030c"), (0x1a0, 1, "O\u031bo\u031b"), (0x1af, 1, "U\u031bu\u031b"),
  (0x1cd, 1, "A\u030ca\u030cI\u030ci\u030cO\u030co\u030cU\u030cu\u030cÜ\u0304ü\u0304Ü\u0301"),
  (0x1d8, 1, "ü\u0301Ü\u030cü\u030cÜ\u0300ü\u0300"),
  (0x1de, 1, "Ä\u0304ä\u0304Ȧ\u0304ȧ\u0304Æ\u0304æ\u0304"),
  (0x1e6, 1, "G\u030cg\u030cK\u030ck\u030cO\u0328o\u0328Ǫ\u0304ǫ\u0304Ʒ\u030cʒ\u030cj\u030c"),
  (0x1f4, 1, "G\u0301g\u0301"),
  (0x1f8, 1, "N\u0300n\u0300Å\u0301å\u0301Æ\u0301æ\u0301Ø\u0301ø\u0301A\u030fa\u030fA\u0311"),
  (0x203, 1, "a\u0311E\u030fe\u030fE\u0311e\u0311I\u030fi\u030fI\u0311i\u0311O\u030fo\u030f"),
  (0x20e, 1, "O\u0311o\u0311R\u030fr\u030fR\u0311r\u0311U\u030fu\u030fU\u0311u\u0311S\u0326"),
  (0x219, 1, "s\u0326T\u0326t\u0326"), (0x21e, 1, "H\u030ch\u030c"),
  (0x226, 1, "A\u0307a\u0307E\u0327e\u0327Ö\u0304ö\u0304Õ\u0304õ\u0304O\u0307o\u0307Ȯ\u0304"),
  (0x231, 1, "ȯ\u0304Y\u0304y\u0304"), (0x385, 1, "\u00a8\u0301Α\u0301"),
  (0x388, 1, "Ε\u0301Η\u0301Ι\u0301"), (0x38c, 2, "Ο\u0301Υ\u0301"), (0x38f, 1, "Ω\u0301ϊ\u0301"),
  (0x3aa, 1, "Ι\u0308Υ\u0308α\u0301ε\u0301η\u0301ι\u0301ϋ\u0301"),
  (0x3ca, 1, "ι\u0308υ\u0308ο\u0301υ\u0301ω\u0301"), (0x3d3, 1, "ϒ\u0301ϒ\u0308"),
  (0x400, 1, "Е\u0300Е\u0308"), (0x403, 1, "Г\u0301"), (0x407, 1, "І\u0308"),
  (0x40c, 1, "К\u0301И\u0300У\u0306"), (0x419, 1, "И\u0306"), (0x439, 1, "и\u0306"),
  (0x450, 1, "е\u0300е\u0308"), (0x453, 1, "г\u0301"), (0x457, 1, "і\u0308"),
  (0x45c, 1, "к\u0301и\u0300у\u0306"), (0x476, 1, "Ѵ\u030fѵ\u030f"), (0x4c1, 1, "Ж\u0306ж\u0306"),
  (0x4d0, 1, "А\u0306а\u0306А\u0308а\u0308"), (0x4d6, 1, "Е\u0306е\u0306"),
  (0x4da, 1, "Ә\u0308ә\u0308Ж\u0308ж\u0308З\u0308з\u0308"),
  (0x4e2, 1, "И\u0304и\u0304И\u0308и\u0308О\u0308о\u0308"),
  (0x4ea, 1, "Ө\u0308ө\u0308Э\u0308э\u0308У\u0304у\u0304У\u0308у\u0308У\u030bу\u030bЧ\u0308"),
  (0x4f5, 1, "ч\u0308"), (0x4f8, 1, "Ы\u0308ы\u0308"),
  (0x622, 1, "\u0627\u0653\u0627\u0654\u0648\u0654\u0627\u0655\u064a\u0654"),
  (0x6c0, 2, "\u06d5\u0654\u06c1\u0654"), (0x6d3, 1, "\u06d2\u0654"), (0x929, 1, "न\u093c"),
  (0x931, 1, "र\u093c"), (0x934, 1, "ळ\u093c"), (0x9cb, 1, "\u09c7\u09be\u09c7\u09d7"),
  (0xb48, 1, "\u0b47\u0b56"), (0xb4b, 1, "\u0b47\u0b3e\u0b47\u0b57"), (0xb94, 1, "ஒ\u0bd7"),
  (0xbca, 1, "\u0bc6\u0bbe\u0bc7\u0bbe\u0bc6\u0bd7"), (0xc48, 1, "\u0c46\u0c56"),
  (0xcc0, 1, "\u0cbf\u0cd5"), (0xcc7, 1, "\u0cc6\u0cd5\u0cc6\u0cd6"),
  (0xcca, 1, "\u0cc6\u0cc2\u0cca\u0cd5"), (0xd4a, 1, "\u0d46\u0d3e\u0d47\u0d3e\u0d46\u0d57"),
  (0xdda, 2, "\u0dd9\u0dca\u0dd9\u0dcf"), (0xddd, 1, "\u0ddc\u0dca\u0dd9\u0ddf"),
  (0x1026, 1, "ဥ\u102e"), (0x1b06, 2, "ᬅ\u1b35ᬇ\u1b35ᬉ\u1b35ᬋ\u1b35ᬍ\u1b35"),
  (0x1b12, 1, "ᬑ\u1b35"), (0x1b3b, 2, "\u1b3a\u1b35\u1b3c\u1b35"),
  (0x1b40, 1, "\u1b3e\u1b35\u1b3f\u1b35"), (0x1b43, 1, "\u1b42\u1b35"),
  (0x1e00, 1, "A\u0325a\u0325B\u0307b\u0307B\u0323b\u0323B\u0331b\u0331Ç\u0301ç\u0301D\u0307"),
  (0x1e0b, 1, "d\u0307D\u0323d\u0323D\u0331d\u0331D\u0327d\u0327D\u032dd\u032dĒ\u0300ē\u0300"),
  (0x1e16, 1, "Ē\u0301ē\u0301E\u032de\u032dE\u0330e\u0330Ȩ\u0306ȩ\u0306F\u0307f\u0307G\u0304"),
  (0x1e21, 1, "g\u0304H\u0307h\u0307H\u0323h\u0323H\u0308h\u0308H\u0327h\u0327H\u032eh\u032e"),
  (0x1e2c, 1, "I\u0330i\u0330Ï\u0301ï\u0301K\u0301k\u0301K\u0323k\u0323K\u0331k\u0331L\u0323"),
  (0x1e37, 1, "l\u0323Ḷ\u0304ḷ\u0304L\u0331l\u0331L\u032dl\u032dM\u0301m\u0301M\u0307m\u0307"),
  (0x1e42, 1, "M\u0323m\u0323N\u0307n\u0307N\u0323n\u0323N\u0331n\u0331N\u032dn\u032dÕ\u0301"),
  (0x1e4d, 1, "õ\u0301Õ\u0308õ\u0308Ō\u0300ō\u0300Ō\u0301ō\u0301P\u0301p\u0301P\u0307p\u0307"),
  (0x1e58, 1, "R\u0307r\u0307R\u0323r\u0323Ṛ\u0304ṛ\u0304R\u0331r\u0331S\u0307s\u0307S\u0323"),
  (0x1e63, 1, "s\u0323Ś\u0307ś\u0307Š\u0307š\u0307Ṣ\u0307ṣ\u0307T\u0307t\u0307T\u0323t\u0323"),
  (0x1e6e, 1, "T\u0331t\u0331T\u032dt\u032dU\u0324u\u0324U\u0330u\u0330U\u032du\u032dŨ\u0301"),
  (0x1e79, 1, "ũ\u0301Ū\u0308ū\u0308V\u0303v\u0303V\u0323v\u0323W\u0300w\u0300W\u0301w\u0301"),
  (0x1e84, 1, "W\u0308w\u0308W\u0307w\u0307W\u0323w\u0323X\u0307x\u0307X\u0308x\u0308Y\u0307"),
  (0x1e8f, 1, "y\u0307Z\u0302z\u0302Z\u0323z\u0323Z\u0331z\u0331h\u0331t\u0308w\u030ay\u030a"),
  (0x1e9b, 1, "ſ\u0307"),
  (0x1ea0, 1, "A\u0323a\u0323A\u0309a\u0309Â\u0301â\u0301Â\u0300â\u0300Â\u0309â\u0309Â\u0303"),
  (0x1eab, 1, "â\u0303Ạ\u0302ạ\u0302Ă\u0301ă\u0301Ă\u0300ă\u0300Ă\u0309ă\u0309Ă\u0303ă\u0303"),
  (0x1eb6, 1, "Ạ\u0306ạ\u0306E\u0323e\u0323E\u0309e\u0309E\u0303e\u0303Ê\u0301ê\u0301Ê\u0300"),
  (0x1ec1, 1, "ê\u0300Ê\u0309ê\u0309Ê\u0303ê\u0303Ẹ\u0302ẹ\u0302I\u0309i\u0309I\u0323i\u0323"),
  (0x1ecc, 1, "O\u0323o\u0323O\u0309o\u0309Ô\u0301ô\u0301Ô\u0300ô\u0300Ô\u0309ô\u0309Ô\u0303"),
  (0x1ed7, 1, "ô\u0303Ọ\u0302ọ\u0302Ơ\u0301ơ\u0301Ơ\u0300ơ\u0300Ơ\u0309ơ\u0309Ơ\u0303ơ\u0303"),
  (0x1ee2, 1, "Ơ\u0323ơ\u0323U\u0323u\u0323U\u0309u\u0309Ư\u0301ư\u0301Ư\u0300ư\u0300Ư\u0309"),
  (0x1eed, 1, "ư\u0309Ư\u0303ư\u0303Ư\u0323ư\u0323Y\u0300y\u0300Y\u0323y\u0323Y\u0309y\u0309"),
  (0x1ef8, 1, "Y\u0303y\u0303"),
  (0x1f00, 1, "α\u0313α\u0314ἀ\u0300ἁ\u0300ἀ\u0301ἁ\u0301ἀ\u0342ἁ\u0342Α\u0313Α\u0314Ἀ\u0300"),
  (0x1f0b, 1, "Ἁ\u0300Ἀ\u0301Ἁ\u0301Ἀ\u0342Ἁ\u0342ε\u0313ε\u0314ἐ\u0300ἑ\u0300ἐ\u0301ἑ\u0301"),
  (0x1f18, 1, "Ε\u0313Ε\u0314Ἐ\u0300Ἑ\u0300Ἐ\u0301Ἑ\u0301"),
  (0x1f20, 1, "η\u0313η\u0314ἠ\u0300ἡ\u0300ἠ\u0301ἡ\u0301ἠ\u0342ἡ\u0342Η\u0313Η\u0314Ἠ\u0300"),
  (0x1f2b, 1, "Ἡ\u0300Ἠ\u0301Ἡ\u0301Ἠ\u0342Ἡ\u0342ι\u0313ι\u0314ἰ\u0300ἱ\u0300ἰ\u0301ἱ\u0301"),
  (0x1f36, 1, "ἰ\u0342ἱ\u0342Ι\u0313Ι\u0314Ἰ\u0300Ἱ\u0300Ἰ\u0301Ἱ\u0301Ἰ\u0342Ἱ\u0342ο\u0313"),
  (0x1f41, 1, "ο\u0314ὀ\u0300ὁ\u0300ὀ\u0301ὁ\u0301"),
  (0x1f48, 1, "Ο\u0313Ο\u0314Ὀ\u0300Ὁ\u0300Ὀ\u0301Ὁ\u0301"),
  (0x1f50, 1, "υ\u0313υ\u0314ὐ\u0300ὑ\u0300ὐ\u0301ὑ\u0301ὐ\u0342ὑ\u0342"),
  (0x1f59, 2, "Υ\u0314Ὑ\u0300Ὑ\u0301Ὑ\u0342"),
  (0x1f60, 1, "ω\u0313ω\u0314ὠ\u0300ὡ\u0300ὠ\u0301ὡ\u0301ὠ\u0342ὡ\u0342Ω\u0313Ω\u0314Ὠ\u0300"),
  (0x1f6b, 1, "Ὡ\u0300Ὠ\u0301Ὡ\u0301Ὠ\u0342Ὡ\u0342α\u0300"),
  (0x1f72, 2, "ε\u0300η\u0300ι\u0300ο\u0300υ\u0300ω\u0300"),
  (0x1f80, 1, "ἀ\u0345ἁ\u0345ἂ\u0345ἃ\u0345ἄ\u0345ἅ\u0345ἆ\u0345ἇ\u0345Ἀ\u0345Ἁ\u0345Ἂ\u0345"),
  (0x1f8b, 1, "Ἃ\u0345Ἄ\u0345Ἅ\u0345Ἆ\u0345Ἇ\u0345ἠ\u0345ἡ\u0345ἢ\u0345ἣ\u0345ἤ\u0345ἥ\u0345"),
  (0x1f96, 1, "ἦ\u0345ἧ\u0345Ἠ\u0345Ἡ\u0345Ἢ\u0345Ἣ\u0345Ἤ\u0345Ἥ\u0345Ἦ\u0345Ἧ\u0345ὠ\u0345"),
  (0x1fa1, 1, "ὡ\u0345ὢ\u0345ὣ\u0345ὤ\u0345ὥ\u0345ὦ\u0345ὧ\u0345Ὠ\u0345Ὡ\u0345Ὢ\u0345Ὣ\u0345"),
  (0x1fac, 1, "Ὤ\u0345Ὥ\u0345Ὦ\u0345Ὧ\u0345α\u0306α\u0304ὰ\u0345α\u0345ά\u0345"),
  (0x1fb6, 1, "α\u0342ᾶ\u0345Α\u0306Α\u0304Α\u0300"), (0x1fbc, 1, "Α\u0345"),
  (0x1fc1, 1, "\u00a8\u0342ὴ\u0345η\u0345ή\u0345"), (0x1fc6, 1, "η\u0342ῆ\u0345Ε\u0300"),
  (0x1fca, 2, "Η\u0300Η\u0345"),
  (0x1fcd, 1, "\u1fbf\u0300\u1fbf\u0301\u1fbf\u0342ι\u0306ι\u0304ϊ\u0300"),
  (0x1fd6, 1, "ι\u0342ϊ\u0342Ι\u0306Ι\u0304Ι\u0300"),
  (0x1fdd, 1, "\u1ffe\u0300\u1ffe\u0301\u1ffe\u0342υ\u0306υ\u0304ϋ\u0300"),
  (0x1fe4, 1, "ρ\u0313ρ\u0314υ\u0342ϋ\u0342Υ\u0306Υ\u0304Υ\u0300"),
  (0x1fec, 1, "Ρ\u0314\u00a8\u0300"), (0x1ff2, 1, "ὼ\u0345ω\u0345ώ\u0345"),
  (0x1ff6, 1, "ω\u0342ῶ\u0345Ο\u0300"), (0x1ffa, 2, "Ω\u0300Ω\u0345"),
  (0x219a, 1, "←\u0338→\u0338"), (0x21ae, 1, "↔\u0338"), (0x21cd, 1, "⇐\u0338⇔\u0338⇒\u0338"),
  (0x2204, 1, "∃\u0338"), (0x2209, 1, "∈\u0338"), (0x220c, 1, "∋\u0338"),
  (0x2224, 2, "∣\u0338∥\u0338"), (0x2241, 1, "∼\u0338"), (0x2244, 1, "≃\u0338"),
  (0x2247, 2, "≅\u0338≈\u0338"), (0x2260, 2, "=\u0338≡\u0338"),
  (0x226d, 1, "≍\u0338<\u0338>\u0338≤\u0338≥\u0338"), (0x2274, 1, "≲\u0338≳\u0338"),
  (0x2278, 1, "≶\u0338≷\u0338"), (0x2280, 1, "≺\u0338≻\u0338"), (0x2284, 1, "⊂\u0338⊃\u0338"),
  (0x2288, 1, "⊆\u0338⊇\u0338"), (0x22ac, 1, "⊢\u0338⊨\u0338⊩\u0338⊫\u0338"),
  (0x22e0, 1, "≼\u0338≽\u0338⊑\u0338⊒\u0338"), (0x22ea, 1, "⊲\u0338⊳\u0338⊴\u0338⊵\u0338"),
  (0x304c, 2, "か\u3099き\u3099く\u3099け\u3099こ\u3099さ\u3099し\u3099す\u3099せ\u3099"),
  (0x305e, 2, "そ\u3099た\u3099ち\u3099"), (0x3065, 2, "つ\u3099て\u3099と\u3099"),
  (0x3070, 1, "は\u3099は\u309a"), (0x3073, 1, "ひ\u3099ひ\u309a"), (0x3076, 1, "ふ\u3099ふ\u309a"),
  (0x3079, 1, "へ\u3099へ\u309a"), (0x307c, 1, "ほ\u3099ほ\u309a"), (0x3094, 1, "う\u3099"),
  (0x309e, 1, "\u309d\u3099"),
  (0x30ac, 2, "カ\u3099キ\u3099ク\u3099ケ\u3099コ\u3099サ\u3099シ\u3099ス\u3099セ\u3099"),
  (0x30be, 2, "ソ\u3099タ\u3099チ\u3099"), (0x30c5, 2, "ツ\u3099テ\u3099ト\u3099"),
  (0x30d0, 1, "ハ\u3099ハ\u309a"), (0x30d3, 1, "ヒ\u3099ヒ\u309a"), (0x30d6, 1, "フ\u3099フ\u309a"),
  (0x30d9, 1, "ヘ\u3099ヘ\u309a"), (0x30dc, 1, "ホ\u3099ホ\u309a"), (0x30f4, 1, "ウ\u3099"),
  (0x30f7, 1, "ワ\u3099ヰ\u3099ヱ\u3099ヲ\u3099"), (0x30fe, 1, "\u30fd\u3099"),
  (0x105c9, 1, "𐗒\u0307"), (0x105e4, 1, "𐗚\u0307"), (0x1109a, 2, "𑂚𑂜"), (0x110ab, 1, "𑂫"),
  (0x1112e, 1, "𑄮𑄯"), (0x1134b, 1, "𑍋𑍌"), (0x11383, 2, "𑎃𑎅"), (0x1138e, 1, "𑎎"),
  (0x11391, 1, "𑎑"), (0x113c5, 2, "𑏅𑏇"), (0x113c8, 1, "𑏈"), (0x114bb, 1, "𑒻𑒼"),
  (0x114be, 1, "𑒾"), (0x115ba, 1, "𑖺𑖻"), (0x11938, 1, "𑤸"), (0x16121, 1, "𖄡𖄢𖄣𖄤𖄥𖄦𖄧𖄨"),
  (0x16d68, 1, "𖵨𖵩𖵪")]

def pairs {α : Type} : List α → List (α × α)
  | a :: b :: rest => (a, b) :: pairs rest
  | _ => []

/-- The characters made of two, with these, apart from the syllables of Hangul. -/
def composites : List (Char × Char × Char) :=
  compositeRows.flatMap fun (first, step, text) =>
    (pairs text.toList).zipIdx.map fun (parts, i) => (Char.ofNat (first + step * i), parts)

/-! ## Syllables of Hangul -/

/-- The two characters that a syllable is made of: a syllable without an end and the end, or the
first two letters. -/
def syllableParts? (c : Char) : Option (Char × Char) :=
  let n := c.toNat - 0xac00
  if c.toNat < 0xac00 || 11172 ≤ n then none
  else if n % 28 = 0 then
    some (Char.ofNat (0x1100 + n / 588), Char.ofNat (0x1161 + n % 588 / 28))
  else some (Char.ofNat (c.toNat - n % 28), Char.ofNat (0x11a7 + n % 28))

def syllable? (a b : Char) : Option Char :=
  let n := a.toNat
  let m := b.toNat
  if 0x1100 ≤ n && n < 0x1113 && 0x1161 ≤ m && m < 0x1176 then
    some (Char.ofNat (0xac00 + ((n - 0x1100) * 21 + (m - 0x1161)) * 28))
  else if 0xac00 ≤ n && n < 0xd7a4 && (n - 0xac00) % 28 = 0 && 0x11a8 ≤ m && m < 0x11c3 then
    some (Char.ofNat (n + (m - 0x11a7)))
  else none

/-! ## Taking apart -/

/-- The two characters that a character is made of. -/
def parts? (c : Char) : Option (Char × Char) := (composites.lookup c).or (syllableParts? c)

/-- Takes a character apart a number of times. -/
def takeApart : Nat → Char → List Char
  | 0, c => [c]
  | n + 1, c =>
    match parts? c with
    | some (a, b) => takeApart n a ++ [b]
    | none => [c]

/-- The characters that a character is made of in the end. None takes more than three marks. -/
def allParts (c : Char) : List Char := if c.toNat < 0x80 then [c] else takeApart 3 c

/-- Adds a character to a text that comes last first, in front of the marks of higher classes. -/
def settle (c : Char) : List Char → List Char
  | [] => [c]
  | d :: rest =>
    if 0 < combiningClass c && combiningClass c < combiningClass d then d :: settle c rest
    else c :: d :: rest

/-- A text with marks that do not meet in the order of their classes. -/
def settled (cs : List Char) : List Char := (cs.foldl (fun done c => settle c done) []).reverse

theorem settle_perm (c : Char) (done : List Char) : (settle c done).Perm (c :: done) := by
  induction done with
  | nil => exact .refl _
  | cons d rest ih =>
    unfold settle
    split
    · exact (ih.cons d).trans (.swap c d rest)
    · exact .refl _

/-- Only the order of a text is settled. -/
theorem settled_perm (cs : List Char) : (settled cs).Perm cs := by
  suffices h : ∀ done, (cs.foldl (fun done c => settle c done) done).Perm (cs ++ done) by
    simpa [settled] using (List.reverse_perm _).trans (h [])
  induction cs with
  | nil => exact fun done => .refl done
  | cons c cs ih =>
    exact fun done => ((ih _).trans ((settle_perm c done).append_left cs)).trans List.perm_middle

/-! ## Putting together -/

def join? (a b : Char) : Option Char :=
  ((composites.find? (·.2 == (a, b))).map (·.1)).or (syllable? a b)

/-- Puts characters together with the letter in front of them. The marks that stand between already
come last first; a mark gets past those of lower classes. -/
def joinFrom (letter : Char) (marks : List Char) : List Char → List Char
  | [] => letter :: marks.reverse
  | c :: cs =>
    let reaches := marks.head?.all fun mark => combiningClass mark < combiningClass c
    match if reaches then join? letter c else none with
    | some joined => joinFrom joined marks cs
    | none =>
      if combiningClass c = 0 then letter :: marks.reverse ++ joinFrom c [] cs
      else joinFrom letter (c :: marks) cs

def joined : List Char → List Char
  | [] => []
  | c :: cs => if combiningClass c = 0 then joinFrom c [] cs else c :: joined cs

def composed (cs : List Char) : List Char := joined (settled (cs.flatMap allParts))

end ApiAtlas.Unicode
