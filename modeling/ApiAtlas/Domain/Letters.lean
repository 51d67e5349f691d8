/-!
# Letters that stand for letters

The characters beyond ASCII that are read as one other character in the name of a domain: capitals
as small letters, and letters of another width, style or place as the plain ones.
-/

namespace ApiAtlas.Domain

/-- Rows of characters, every one or every other one from the first on, with what each is read
as. -/
def letterRows : List (Nat × Nat × String) := [
  (0xa0, 1, " "), (0xaa, 1, "a"), (0xb2, 1, "23"), (0xb5, 1, "μ"), (0xb9, 1, "1o"),
  (0xc0, 1, "àáâãäåæçèéêëìíîïðñòóôõö"), (0xd8, 1, "øùúûüýþ"),
  (0x100, 2, "āăąćĉċčďđēĕėęěĝğġģĥħĩīĭį"), (0x134, 2, "ĵķ"), (0x139, 2, "ĺļľ"), (0x141, 2, "łńņň"),
  (0x14a, 2, "ŋōŏőœŕŗřśŝşšţťŧũūŭůűųŵŷÿ"), (0x179, 2, "źżžsɓ"), (0x182, 2, "ƃƅɔ"), (0x187, 2, "ƈɖ"),
  (0x18a, 1, "ɗƌ"), (0x18e, 1, "ǝəɛƒ"), (0x193, 1, "ɠɣ"), (0x196, 1, "ɩɨƙ"), (0x19c, 1, "ɯɲ"),
  (0x19f, 1, "ɵơ"), (0x1a2, 2, "ƣƥʀ"), (0x1a7, 2, "ƨʃ"), (0x1ac, 2, "ƭʈ"), (0x1af, 2, "ưʊ"),
  (0x1b2, 1, "ʋƴ"), (0x1b5, 2, "ƶʒ"), (0x1b8, 1, "ƹ"), (0x1bc, 1, "ƽ"), (0x1cd, 2, "ǎǐǒǔǖǘǚǜ"),
  (0x1de, 2, "ǟǡǣǥǧǩǫǭǯ"), (0x1f4, 2, "ǵƕ"), (0x1f7, 1, "ƿǹ"),
  (0x1fa, 2, "ǻǽǿȁȃȅȇȉȋȍȏȑȓȕȗșțȝȟƞȣȥȧȩȫȭȯȱȳ"), (0x23a, 1, "ⱥȼ"), (0x23d, 1, "ƚⱦ"),
  (0x241, 2, "ɂƀ"), (0x244, 1, "ʉʌɇ"), (0x248, 2, "ɉɋɍɏ"), (0x2b0, 1, "hɦjrɹɻʁwy"),
  (0x2e0, 1, "ɣlsxʕ"), (0x340, 1, "\u0300\u0301"), (0x343, 2, "\u0313ι"), (0x370, 2, "ͱͳ\u02b9ͷ"),
  (0x37e, 1, ";ϳ"), (0x386, 1, "ά·έήί"), (0x38c, 2, "όύ"), (0x38f, 2, "ώα"),
  (0x392, 1, "βγδεζηθικλμνξοπρ"), (0x3a3, 1, "στυφχψωϊϋ"), (0x3cf, 1, "ϗβθυύϋφπ"),
  (0x3d8, 2, "ϙϛϝϟϡϣϥϧϩϫϭϯκ"), (0x3f1, 1, "ρσ"), (0x3f4, 1, "θε"), (0x3f7, 2, "ϸσ"),
  (0x3fa, 1, "ϻ"), (0x3fd, 1, "ͻͼͽѐёђѓєѕіїјљњћќѝўџабвгдежзийклмнопрстуфхцчшщъыьэюя"),
  (0x460, 2, "ѡѣѥѧѩѫѭѯѱѳѵѷѹѻѽѿҁ"), (0x48a, 2, "ҋҍҏґғҕҗҙқҝҟҡңҥҧҩҫҭүұҳҵҷҹһҽҿӏ"),
  (0x4c1, 2, "ӂӄӆӈӊӌӎ"), (0x4d0, 2, "ӑӓӕӗәӛӝӟӡӣӥӧөӫӭӯӱӳӵӷӹӻӽӿԁԃԅԇԉԋԍԏԑԓԕԗԙԛԝԟԡԣԥԧԩԫԭԯ"),
  (0x531, 1, "աբգդեզէըթժիլխծկհձղճմյնշոչպջռսվտրցւփքօֆ"), (0xf0c, 1, "་"),
  (0x10a0, 1, "ⴀⴁⴂⴃⴄⴅⴆⴇⴈⴉⴊⴋⴌⴍⴎⴏⴐⴑⴒⴓⴔⴕⴖⴗⴘⴙⴚⴛⴜⴝⴞⴟⴠⴡⴢⴣⴤⴥ"), (0x10c7, 1, "ⴧ"), (0x10cd, 1, "ⴭ"),
  (0x10fc, 1, "ნ"), (0x13f8, 1, "ᏰᏱᏲᏳᏴᏵ"), (0x1c80, 1, "вдосттъѣꙋᲊ"),
  (0x1c90, 1, "აბგდევზთიკლმნოპჟრსტუფქღყშჩცძწჭხჯჰჱჲჳჴჵჶჷჸჹჺ"), (0x1cbd, 1, "ჽჾჿ"),
  (0x1d2c, 1, "aæb"), (0x1d30, 1, "deǝghijklmn"), (0x1d3c, 1, "oȣprtuwaɐɑᴂbdeəɛɜg"),
  (0x1d4f, 1, "kmŋoɔᴖᴗptuᴝɯvᴥβγδφχiruvβγρφχ"), (0x1d78, 1, "н"),
  (0x1d9b, 1, "ɒcɕðɜfɟɡɥɨɩɪᵻʝɭᶅʟɱɰɲɳɴɵɸʂʃƫʉʊᴜʋʌzʐʑʒθ"),
  (0x1e00, 2, "ḁḃḅḇḉḋḍḏḑḓḕḗḙḛḝḟḡḣḥḧḩḫḭḯḱḳḵḷḹḻḽḿṁṃṅṇṉṋṍṏṑṓṕṗṙṛṝṟṡṣṥṧṩṫṭṯṱṳṵṷṹṻṽṿ"),
  (0x1e80, 2, "ẁẃẅẇẉẋẍẏẑẓẕ"), (0x1e9b, 1, "ṡ"),
  (0x1e9e, 2, "ßạảấầẩẫậắằẳẵặẹẻẽếềểễệỉịọỏốồổỗộớờởỡợụủứừửữựỳỵỷỹỻỽỿ"), (0x1f08, 1, "ἀἁἂἃἄἅἆἇ"),
  (0x1f18, 1, "ἐἑἒἓἔἕ"), (0x1f28, 1, "ἠἡἢἣἤἥἦἧ"), (0x1f38, 1, "ἰἱἲἳἴἵἶἷ"), (0x1f48, 1, "ὀὁὂὃὄὅ"),
  (0x1f59, 2, "ὑὓὕὗ"), (0x1f68, 1, "ὠὡὢὣὤὥὦὧ"), (0x1f71, 2, "άέήίόύώ"), (0x1fb8, 1, "ᾰᾱὰά"),
  (0x1fbe, 1, "ι"), (0x1fc8, 1, "ὲέὴή"), (0x1fd3, 1, "ΐ"), (0x1fd8, 1, "ῐῑὶί"), (0x1fe3, 1, "ΰ"),
  (0x1fe8, 1, "ῠῡὺύῥ"), (0x1fef, 1, "\x60"), (0x1ff8, 1, "ὸόὼώ"), (0x2000, 1, "           "),
  (0x2011, 1, "‐"), (0x202f, 1, " "), (0x205f, 1, " "), (0x2070, 1, "0i"),
  (0x2074, 1, "456789+−=()n0123456789+−=()"), (0x2090, 1, "aeoxəhklmnpst"), (0x2102, 1, "c"),
  (0x2107, 1, "ɛ"), (0x210a, 1, "ghhhhħiill"), (0x2115, 1, "n"), (0x2119, 1, "pqrrr"),
  (0x2124, 2, "zωzk"), (0x212b, 1, "åbc"), (0x212f, 1, "eefⅎmo\u05d0\u05d1\u05d2\u05d3i"),
  (0x213c, 1, "πγγπ∑"), (0x2145, 1, "ddeij"), (0x2160, 1, "i"), (0x2164, 1, "v"), (0x2169, 1, "x"),
  (0x216c, 1, "lcdmi"), (0x2174, 1, "v"), (0x2179, 1, "x"), (0x217c, 1, "lcdm"), (0x2183, 1, "ↄ"),
  (0x2329, 1, "〈〉"), (0x2460, 1, "123456789"),
  (0x24b6, 1, "abcdefghijklmnopqrstuvwxyzabcdefghijklmnopqrstuvwxyz0"),
  (0x2c00, 1, "ⰰⰱⰲⰳⰴⰵⰶⰷⰸⰹⰺⰻⰼⰽⰾⰿⱀⱁⱂⱃⱄⱅⱆⱇⱈⱉⱊⱋⱌⱍⱎⱏⱐⱑⱒⱓⱔⱕⱖⱗⱘⱙⱚⱛⱜⱝⱞⱟ"), (0x2c60, 2, "ⱡɫ"),
  (0x2c63, 1, "ᵽɽ"), (0x2c67, 2, "ⱨⱪⱬɑ"), (0x2c6e, 1, "ɱɐɒ"), (0x2c72, 1, "ⱳ"), (0x2c75, 1, "ⱶ"),
  (0x2c7c, 1, "jvȿɀⲁ"), (0x2c82, 2, "ⲃⲅⲇⲉⲋⲍⲏⲑⲓⲕⲗⲙⲛⲝⲟⲡⲣⲥⲧⲩⲫⲭⲯⲱⲳⲵⲷⲹⲻⲽⲿⳁⳃⳅⳇⳉⳋⳍⳏⳑⳓⳕⳗⳙⳛⳝⳟⳡⳣ"),
  (0x2ceb, 2, "ⳬⳮ"), (0x2cf2, 1, "ⳳ"), (0x2d6f, 1, "ⵡ"), (0x2e9f, 1, "母"), (0x2ef3, 1, "龟"),
  (0x2f00, 1, "一丨丶丿乙亅二亠人儿入八冂冖冫几凵刀力勹匕匚匸十卜卩厂厶又口囗土士夂夊夕大女"),
  (0x2f26, 1, "子宀寸小尢尸屮山巛工己巾干幺广廴廾弋弓彐彡彳心戈戶手支攴文斗斤方无日曰月木欠"),
  (0x2f4c, 1, "止歹殳毋比毛氏气水火爪父爻爿片牙牛犬玄玉瓜瓦甘生用田疋疒癶白皮皿目矛矢石示禸"),
  (0x2f72, 1, "禾穴立竹米糸缶网羊羽老而耒耳聿肉臣自至臼舌舛舟艮色艸虍虫血行衣襾見角言谷豆豕"),
  (0x2f98, 1, "豸貝赤走足身車辛辰辵邑酉釆里金長門阜隶隹雨靑非面革韋韭音頁風飛食首香馬骨高髟"), (0x2fbe, 1, "鬥鬯鬲鬼魚鳥鹵鹿麥麻黃黍黑黹黽鼎鼓鼠鼻齊齒龍龜龠"),
  (0x3000, 2, " ."), (0x3036, 2, "〒十"), (0x3039, 1, "卄卅"),
  (0x3131, 1, "ᄀᄁᆪᄂᆬᆭᄃᄄᄅᆰᆱᆲᆳᆴᆵᄚᄆᄇᄈᄡᄉᄊᄋᄌᄍᄎᄏᄐᄑ하ᅢᅣᅤᅥᅦᅧᅨᅩᅪᅫᅬᅭᅮᅯᅰᅱᅲᅳᅴᅵ"),
  (0x3165, 1, "ᄔᄕᇇᇈᇌᇎᇓᇗᇙᄜᇝᇟᄝᄞᄠᄢᄣᄧᄩᄫᄬᄭᄮᄯᄲᄶᅀᅇᅌᇱᇲᅗᅘᅙᆄᆅᆈᆑᆒᆔᆞᆡ"), (0x3192, 1, "一二三四上中下甲乙丙丁天地人"),
  (0x3244, 1, "問幼文箏"), (0x3260, 1, "ᄀᄂᄃᄅᄆᄇᄉᄋᄌᄎᄏᄐᄑᄒ가나다라마바사아자차카타파하"), (0x327e, 2, "우一"),
  (0x3281, 1, "二三四五六七八九十月火水木金土日株有社名特財祝労秘男女適優印注項休写正上中下"), (0x32a7, 1, "左右医宗学監企資協夜"),
  (0x32d0, 1, "アイウエオカキクケコサシスセソタチツテトナニヌネノハヒフヘホマミムメモヤユヨ"), (0x32f6, 1, "ラリルレロワヰヱヲ"),
  (0xa640, 2, "ꙁꙃꙅꙇꙉꙋꙍꙏꙑꙓꙕꙗꙙꙛꙝꙟꙡꙣꙥꙧꙩꙫꙭ"), (0xa680, 2, "ꚁꚃꚅꚇꚉꚋꚍꚏꚑꚓꚕꚗꚙꚛъ"), (0xa69d, 1, "ь"),
  (0xa722, 2, "ꜣꜥꜧꜩꜫꜭꜯ"), (0xa732, 2, "ꜳꜵꜷꜹꜻꜽꜿꝁꝃꝅꝇꝉꝋꝍꝏꝑꝓꝕꝗꝙꝛꝝꝟꝡꝣꝥꝧꝩꝫꝭꝯꝯ"), (0xa779, 2, "ꝺꝼᵹ"),
  (0xa77e, 2, "ꝿꞁꞃꞅꞇ"), (0xa78b, 2, "ꞌɥ"), (0xa790, 2, "ꞑꞓ"), (0xa796, 2, "ꞗꞙꞛꞝꞟꞡꞣꞥꞧꞩɦ"),
  (0xa7ab, 1, "ɜɡɬɪ"), (0xa7b0, 1, "ʞʇʝꭓꞵ"), (0xa7b6, 2, "ꞷꞹꞻꞽꞿꟁꟃꞔ"), (0xa7c5, 1, "ʂᶎꟈ"),
  (0xa7c9, 2, "ꟊɤ"), (0xa7cc, 2, "ꟍ꟏ꟑꟓꟕꟗꟙꟛƛ"), (0xa7f1, 1, "scfqꟶ"), (0xa7f8, 1, "ħœ"),
  (0xab5c, 1, "ꜧꬷɫꭒ"), (0xab69, 1, "ʍ"),
  (0xab70, 1, "ᎠᎡᎢᎣᎤᎥᎦᎧᎨᎩᎪᎫᎬᎭᎮᎯᎰᎱᎲᎳᎴᎵᎶᎷᎸᎹᎺᎻᎼᎽᎾᎿᏀᏁᏂᏃᏄᏅᏆᏇᏈᏉᏊᏋᏌᏍᏎᏏᏐᏑᏒᏓᏔᏕᏖᏗᏘᏙᏚᏛᏜᏝᏞᏟ"),
  (0xabb0, 1, "ᏠᏡᏢᏣᏤᏥᏦᏧᏨᏩᏪᏫᏬᏭᏮᏯ"), (0xf900, 1, "豈更車賈滑串句龜龜契金喇奈懶癩羅蘿螺裸邏樂洛烙珞落酪駱亂卵欄爛蘭鸞嵐濫藍襤拉"),
  (0xf926, 1, "臘蠟廊朗浪狼郎來冷勞擄櫓爐盧老蘆虜路露魯鷺碌祿綠菉錄鹿論壟弄籠聾牢磊賂雷壘屢"),
  (0xf94c, 1, "樓淚漏累縷陋勒肋凜凌稜綾菱陵讀拏樂諾丹寧怒率異北磻便復不泌數索參塞省葉說殺辰"),
  (0xf972, 1, "沈拾若掠略亮兩凉梁糧良諒量勵呂女廬旅濾礪閭驪麗黎力曆歷轢年憐戀撚漣煉璉秊練聯"),
  (0xf998, 1, "輦蓮連鍊列劣咽烈裂說廉念捻殮簾獵令囹寧嶺怜玲瑩羚聆鈴零靈領例禮醴隸惡了僚寮尿"),
  (0xf9be, 1, "料樂燎療蓼遼龍暈阮劉杻柳流溜琉留硫紐類六戮陸倫崙淪輪律慄栗率隆利吏履易李梨泥"),
  (0xf9e4, 1, "理痢罹裏裡里離匿溺吝燐璘藺隣鱗麟林淋臨立笠粒狀炙識什茶刺切度拓糖宅洞暴輻行降"), (0xfa0a, 1, "見廓兀嗀"), (0xfa10, 2, "塚晴"),
  (0xfa15, 1, "凞猪益礼神祥福靖精羽"), (0xfa20, 2, "蘒諸"), (0xfa25, 1, "逸都"),
  (0xfa2a, 1, "飯飼館鶴郞隷侮僧免勉勤卑喝嘆器塀墨層屮悔慨憎懲敏既暑梅海渚漢煮爫琢碑社祉祈祐"),
  (0xfa50, 1, "祖祝禍禎穀突節練縉繁署者臭艹艹著褐視謁謹賓贈辶逸難響頻恵𤋮舘"),
  (0xfa70, 1, "並况全侀充冀勇勺喝啕喙嗢塚墳奄奔婢嬨廒廙彩徭惘慎愈憎慠懲戴揄搜摒敖晴朗望杖歹"),
  (0xfa96, 1, "殺流滛滋漢瀞煮瞧爵犯猪瑱甆画瘝瘟益盛直睊着磌窱節类絛練缾者荒華蝹襁覆視調諸請"),
  (0xfabc, 1, "謁諾諭謹變贈輸遲醙鉶陼難靖韛響頋頻鬒龜𢡊𢡄𣏕㮝䀘䀹𥉉𥳐𧻓齃龎"),
  (0xfb20, 1, "\u05e2\u05d0\u05d3\u05d4\u05db\u05dc\u05dd\u05e8\u05ea+"),
  (0xfb50, 1, "\u0671\u0671\u067b\u067b\u067b\u067b\u067e\u067e\u067e\u067e\u0680\u0680"),
  (0xfb5c, 1, "\u0680\u0680\u067a\u067a\u067a\u067a\u067f\u067f\u067f\u067f\u0679\u0679"),
  (0xfb68, 1, "\u0679\u0679\u06a4\u06a4\u06a4\u06a4\u06a6\u06a6\u06a6\u06a6\u0684\u0684"),
  (0xfb74, 1, "\u0684\u0684\u0683\u0683\u0683\u0683\u0686\u0686\u0686\u0686\u0687\u0687"),
  (0xfb80, 1, "\u0687\u0687\u068d\u068d\u068c\u068c\u068e\u068e\u0688\u0688\u0698\u0698"),
  (0xfb8c, 1, "\u0691\u0691\u06a9\u06a9\u06a9\u06a9\u06af\u06af\u06af\u06af\u06b3\u06b3"),
  (0xfb98, 1, "\u06b3\u06b3\u06b1\u06b1\u06b1\u06b1\u06ba\u06ba\u06bb\u06bb\u06bb\u06bb"),
  (0xfba4, 1, "\u06c0\u06c0\u06c1\u06c1\u06c1\u06c1\u06be\u06be\u06be\u06be\u06d2\u06d2"),
  (0xfbb0, 1, "\u06d3\u06d3"),
  (0xfbd3, 1, "\u06ad\u06ad\u06ad\u06ad\u06c7\u06c7\u06c6\u06c6\u06c8\u06c8"),
  (0xfbde, 1, "\u06cb\u06cb\u06c5\u06c5\u06c9\u06c9\u06d0\u06d0\u06d0\u06d0\u0649\u0649"),
  (0xfbfc, 1, "\u06cc\u06cc\u06cc\u06cc"), (0xfe10, 1, ",、"), (0xfe13, 1, ":;!?〖〗"),
  (0xfe31, 1, "—–__()\x7b\x7d〔〕【】《》〈〉「」『』"), (0xfe47, 1, "[]"), (0xfe4d, 1, "___,、"),
  (0xfe54, 1, ";:?!—()\x7b\x7d〔〕#&*+-<>="), (0xfe68, 1, "\\$%@"),
  (0xfe80, 1, "\u0621\u0622\u0622\u0623\u0623\u0624\u0624\u0625\u0625\u0626\u0626\u0626"),
  (0xfe8c, 1, "\u0626\u0627\u0627\u0628\u0628\u0628\u0628\u0629\u0629\u062a\u062a\u062a"),
  (0xfe98, 1, "\u062a\u062b\u062b\u062b\u062b\u062c\u062c\u062c\u062c\u062d\u062d\u062d"),
  (0xfea4, 1, "\u062d\u062e\u062e\u062e\u062e\u062f\u062f\u0630\u0630\u0631\u0631\u0632"),
  (0xfeb0, 1, "\u0632\u0633\u0633\u0633\u0633\u0634\u0634\u0634\u0634\u0635\u0635\u0635"),
  (0xfebc, 1, "\u0635\u0636\u0636\u0636\u0636\u0637\u0637\u0637\u0637\u0638\u0638\u0638"),
  (0xfec8, 1, "\u0638\u0639\u0639\u0639\u0639\u063a\u063a\u063a\u063a\u0641\u0641\u0641"),
  (0xfed4, 1, "\u0641\u0642\u0642\u0642\u0642\u0643\u0643\u0643\u0643\u0644\u0644\u0644"),
  (0xfee0, 1, "\u0644\u0645\u0645\u0645\u0645\u0646\u0646\u0646\u0646\u0647\u0647\u0647"),
  (0xfeec, 1, "\u0647\u0648\u0648\u0649\u0649\u064a\u064a\u064a\u064a"),
  (0xff01, 1, "!\"#$%&'()*+,-./0123456789:;<=>?@abcdefghijklmnopqrstuvwxyz[\\]^_\x60"),
  (0xff41, 1, "abcdefghijklmnopqrstuvwxyz\x7b|\x7d~⦅⦆.「」、・ヲァィゥェォャュョッ\u30fcア"),
  (0xff72, 1, "イウエオカキクケコサシスセソタチツテトナニヌネノハヒフヘホマミムメモヤユヨラ"), (0xff98, 1, "リルレロワン\u3099\u309a"),
  (0xffa1, 1, "ᄀᄁᆪᄂᆬᆭᄃᄄᄅᆰᆱᆲᆳᆴᆵᄚᄆᄇᄈᄡᄉᄊᄋᄌᄍᄎᄏᄐᄑᄒ"), (0xffc2, 1, "ᅡᅢᅣᅤᅥᅦ"), (0xffca, 1, "ᅧᅨᅩᅪᅫᅬ"),
  (0xffd2, 1, "ᅭᅮᅯᅰᅱᅲ"), (0xffda, 1, "ᅳᅴᅵ"), (0xffe0, 1, "¢£¬"), (0xffe4, 1, "¦¥₩"),
  (0xffe8, 1, "│←↑→↓■○"), (0x10400, 1, "𐐨𐐩𐐪𐐫𐐬𐐭𐐮𐐯𐐰𐐱𐐲𐐳𐐴𐐵𐐶𐐷𐐸𐐹𐐺𐐻𐐼𐐽𐐾𐐿𐑀𐑁𐑂𐑃𐑄𐑅𐑆𐑇𐑈𐑉𐑊𐑋𐑌𐑍"),
  (0x10426, 1, "𐑎𐑏"), (0x104b0, 1, "𐓘𐓙𐓚𐓛𐓜𐓝𐓞𐓟𐓠𐓡𐓢𐓣𐓤𐓥𐓦𐓧𐓨𐓩𐓪𐓫𐓬𐓭𐓮𐓯𐓰𐓱𐓲𐓳𐓴𐓵𐓶𐓷𐓸𐓹𐓺𐓻"),
  (0x10570, 1, "𐖗𐖘𐖙𐖚𐖛𐖜𐖝𐖞𐖟𐖠𐖡"), (0x1057c, 1, "𐖣𐖤𐖥𐖦𐖧𐖨𐖩𐖪𐖫𐖬𐖭𐖮𐖯𐖰𐖱"), (0x1058c, 1, "𐖳𐖴𐖵𐖶𐖷𐖸𐖹"),
  (0x10594, 1, "𐖻𐖼"), (0x10781, 1, "\u02d0\u02d1æʙɓ"),
  (0x10787, 1, "ʣꭦʥʤɖɗᶑɘɞʩɤɢɠʛħʜɧʄʪʫɬ𝼄ꞎɮ𝼅ʎ𝼆øɶɷqɺ𝼈ɽɾʀʨʦꭧʧʈⱱ"), (0x107b2, 1, "ʏʡʢʘǀǁǂ𝼊𝼞"),
  (0x10c80, 1, "𐳀𐳁𐳂𐳃𐳄𐳅𐳆𐳇𐳈𐳉𐳊𐳋𐳌𐳍𐳎𐳏𐳐𐳑𐳒𐳓𐳔𐳕𐳖𐳗𐳘𐳙𐳚𐳛𐳜𐳝𐳞𐳟𐳠𐳡𐳢𐳣𐳤𐳥"), (0x10ca6, 1, "𐳦𐳧𐳨𐳩𐳪𐳫𐳬𐳭𐳮𐳯𐳰𐳱𐳲"),
  (0x10d50, 1, "𐵰𐵱𐵲𐵳𐵴𐵵𐵶𐵷𐵸𐵹𐵺𐵻𐵼𐵽𐵾𐵿𐶀𐶁𐶂𐶃𐶄𐶅"), (0x118a0, 1, "𑣀𑣁𑣂𑣃𑣄𑣅𑣆𑣇𑣈𑣉𑣊𑣋𑣌𑣍𑣎𑣏𑣐𑣑𑣒𑣓𑣔𑣕𑣖𑣗𑣘𑣙𑣚𑣛𑣜𑣝𑣞𑣟"),
  (0x16e40, 1, "𖹠𖹡𖹢𖹣𖹤𖹥𖹦𖹧𖹨𖹩𖹪𖹫𖹬𖹭𖹮𖹯𖹰𖹱𖹲𖹳𖹴𖹵𖹶𖹷𖹸𖹹𖹺𖹻𖹼𖹽𖹾𖹿"), (0x16ea0, 1, "𖺻𖺼𖺽𖺾𖺿𖻀𖻁𖻂𖻃𖻄𖻅𖻆𖻇𖻈𖻉𖻊𖻋𖻌𖻍𖻎𖻏𖻐𖻑𖻒𖻓"),
  (0x1ccd6, 1, "abcdefghijklmnopqrstuvwxyz0123456789"),
  (0x1d400, 1, "abcdefghijklmnopqrstuvwxyzabcdefghijklmnopqrstuvwxyzabcdefghijkl"),
  (0x1d440, 1, "mnopqrstuvwxyzabcdefg"),
  (0x1d456, 1, "ijklmnopqrstuvwxyzabcdefghijklmnopqrstuvwxyzabcdefghijklmnopqrst"),
  (0x1d496, 1, "uvwxyza"), (0x1d49e, 1, "cd"), (0x1d4a2, 1, "g"), (0x1d4a5, 1, "jk"),
  (0x1d4a9, 1, "nopq"), (0x1d4ae, 1, "stuvwxyzabcd"), (0x1d4bb, 2, "fh"), (0x1d4be, 1, "ijklmn"),
  (0x1d4c5, 1, "pqrstuvwxyzabcdefghijklmnopqrstuvwxyzabcdefghijklmnopqrstuvwxyza"),
  (0x1d505, 1, "b"), (0x1d507, 1, "defg"), (0x1d50d, 1, "jklmnopq"), (0x1d516, 1, "stuvwxy"),
  (0x1d51e, 1, "abcdefghijklmnopqrstuvwxyzab"), (0x1d53b, 1, "defg"), (0x1d540, 1, "ijklm"),
  (0x1d546, 1, "o"), (0x1d54a, 1, "stuvwxy"),
  (0x1d552, 1, "abcdefghijklmnopqrstuvwxyzabcdefghijklmnopqrstuvwxyzabcdefghijkl"),
  (0x1d592, 1, "mnopqrstuvwxyzabcdefghijklmnopqrstuvwxyzabcdefghijklmnopqrstuvwx"),
  (0x1d5d2, 1, "yzabcdefghijklmnopqrstuvwxyzabcdefghijklmnopqrstuvwxyzabcdefghij"),
  (0x1d612, 1, "klmnopqrstuvwxyzabcdefghijklmnopqrstuvwxyzabcdefghijklmnopqrstuv"),
  (0x1d652, 1, "wxyzabcdefghijklmnopqrstuvwxyzabcdefghijklmnopqrstuvwxyzabcdefgh"),
  (0x1d692, 1, "ijklmnopqrstuvwxyzıȷ"),
  (0x1d6a8, 1, "αβγδεζηθικλμνξοπρθστυφχψω∇αβγδεζηθικλμνξοπρσστυφχψω∂εθκφρπαβγδεζ"),
  (0x1d6e8, 1, "ηθικλμνξοπρθστυφχψω∇αβγδεζηθικλμνξοπρσστυφχψω∂εθκφρπαβγδεζηθικλμ"),
  (0x1d728, 1, "νξοπρθστυφχψω∇αβγδεζηθικλμνξοπρσστυφχψω∂εθκφρπαβγδεζηθικλμνξοπρθ"),
  (0x1d768, 1, "στυφχψω∇αβγδεζηθικλμνξοπρσστυφχψω∂εθκφρπαβγδεζηθικλμνξοπρθστυφχψ"),
  (0x1d7a8, 1, "ω∇αβγδεζηθικλμνξοπρσστυφχψω∂εθκφρπϝϝ"),
  (0x1d7ce, 1, "01234567890123456789012345678901234567890123456789"),
  (0x1e030, 1, "абвгдежзиклмопрстуфхцчшыэюꚉәіјөүӏабвгдежзиклопсуфхцчшъыґіѕџҫꙑұ"),
  (0x1e900, 1, "𞤢𞤣𞤤𞤥𞤦𞤧𞤨𞤩𞤪𞤫𞤬𞤭𞤮𞤯𞤰𞤱𞤲𞤳𞤴𞤵𞤶𞤷𞤸𞤹𞤺𞤻𞤼𞤽𞤾𞤿𞥀𞥁𞥂𞥃"), (0x1ee00, 1, "\u0627\u0628\u062c\u062f"),
  (0x1ee05, 1, "\u0648\u0632\u062d\u0637\u064a\u0643\u0644\u0645\u0646\u0633\u0639\u0641"),
  (0x1ee11, 1, "\u0635\u0642\u0631\u0634\u062a\u062b\u062e\u0630\u0636\u0638\u063a\u066e"),
  (0x1ee1d, 1, "\u06ba\u06a1\u066f"), (0x1ee21, 1, "\u0628\u062c"), (0x1ee24, 1, "\u0647"),
  (0x1ee27, 2, "\u062d\u064a"),
  (0x1ee2a, 1, "\u0643\u0644\u0645\u0646\u0633\u0639\u0641\u0635\u0642"),
  (0x1ee34, 1, "\u0634\u062a\u062b\u062e"), (0x1ee39, 2, "\u0636\u063a"), (0x1ee42, 1, "\u062c"),
  (0x1ee47, 2, "\u062d\u064a\u0644\u0646"), (0x1ee4e, 1, "\u0633\u0639"),
  (0x1ee51, 1, "\u0635\u0642"), (0x1ee54, 1, "\u0634"),
  (0x1ee57, 2, "\u062e\u0636\u063a\u06ba\u066f\u0628"), (0x1ee62, 2, "\u062c\u0647"),
  (0x1ee67, 1, "\u062d\u0637\u064a\u0643"),
  (0x1ee6c, 1, "\u0645\u0646\u0633\u0639\u0641\u0635\u0642"),
  (0x1ee74, 1, "\u0634\u062a\u062b\u062e"), (0x1ee79, 1, "\u0636\u0638\u063a\u066e"),
  (0x1ee7e, 2, "\u06a1\u0627"),
  (0x1ee81, 1, "\u0628\u062c\u062f\u0647\u0648\u0632\u062d\u0637\u064a"),
  (0x1ee8b, 1, "\u0644\u0645\u0646\u0633\u0639\u0641\u0635\u0642\u0631\u0634\u062a\u062b"),
  (0x1ee97, 1, "\u062e\u0630\u0636\u0638\u063a"), (0x1eea1, 1, "\u0628\u062c\u062f"),
  (0x1eea5, 1, "\u0648\u0632\u062d\u0637\u064a"),
  (0x1eeab, 1, "\u0644\u0645\u0646\u0633\u0639\u0641\u0635\u0642\u0631\u0634\u062a\u062b"),
  (0x1eeb7, 1, "\u062e\u0630\u0636\u0638\u063a"), (0x1f12b, 1, "cr"),
  (0x1f130, 1, "abcdefghijklmnopqrstuvwxyz"), (0x1f202, 1, "サ"),
  (0x1f210, 1, "手字双デ二多解天交映無料前後再新初終生販声吹演投捕一三遊左中右指走打禁空合満"), (0x1f236, 1, "有月申割営配"),
  (0x1f250, 1, "得可"), (0x1fbf0, 1, "0123456789"),
  (0x2f800, 1, "丽丸乁𠄢你侮侻倂偺備僧像㒞𠘺免兔兤具𠔜㒹內再𠕋冗冤仌冬况𩇟凵刃㓟刻剆割剷㔕勇"),
  (0x2f826, 1, "勉勤勺包匆北卉卑博即卽卿卿卿𠨬灰及叟𠭣叫叱吆咞吸呈周咢哶唐啓啣善善喙喫喳嗂圖"),
  (0x2f84c, 1, "嘆圗噑噴切壮城埴堍型堲報墬𡓤売壷夆多夢奢𡚨𡛪姬娛娧姘婦㛮㛼嬈嬾嬾𡧈寃寘寧寳𡬘"),
  (0x2f872, 1, "寿将当尢㞁屠屮峀岍𡷤嵃𡷦嵮嵫嵼巡巢㠯巽帨帽幩㡢𢆃㡼庰庳庶廊𪎒廾𢌱𢌱舁弢弢㣇𣊸"),
  (0x2f898, 1, "𦇚形彫㣣徚忍志忹悁㤺㤜悔𢛔惇慈慌慎慌慺憎憲憤憯懞懲懶成戛扝抱拔捐𢬌挽拼捨掃揤"),
  (0x2f8be, 1, "𢯱搢揅掩㨮摩摾撝摷㩬敏敬𣀊旣書晉㬙暑㬈㫤冒冕最暜肭䏙朗望朡杞杓𣏃㭉柺枅桒梅𣑭"),
  (0x2f8e4, 1, "梎栟椔㮝楂榣槪檨𣚣櫛㰘次𣢧歔㱎歲殟殺殻𣪍𡴋𣫺汎𣲼沿泍汧洖派海流浩浸涅𣴞洴港湮"),
  (0x2f90a, 1, "㴳滋滇𣻑淹潮𣽞𣾎濆瀹瀞瀛㶖灊災灷炭𠔥煅𤉣熜𤎫爨爵牐𤘈犀犕𤜵𤠔獺王㺬玥㺸㺸瑇瑜"),
  (0x2f930, 1, "瑱璅瓊㼛甤𤰶甾𤲒異𢆟瘐𤾡𤾸𥁄㿼䀈直𥃳𥃲𥄙𥄳眞真真睊䀹瞋䁆䂖𥐝硎碌磌䃣𥘦祖𥚚𥛅"),
  (0x2f956, 1, "福秫䄯穀穊穏𥥼𥪧𥪧竮䈂𥮫篆築䈧𥲀糒䊠糨糣紀𥾆絣䌁緇縂繅䌴𦈨𦉇䍙𦋙罺𦌾羕翺者𦓚"),
  (0x2f97c, 1, "𦔣聠𦖨聰𣍟䏕育脃䐋脾媵𦞧𦞵𣎓𣎜舁舄辞䑫芑芋芝劳花芳芽苦𦬼若茝荣莭茣莽菧著荓菊"),
  (0x2f9a2, 1, "菌菜𦰶𦵫𦳕䔫蓱蓳蔖𧏊蕤𦼬䕝䕡𦾱𧃒䕫虐虜虧虩蚩蚈蜎蛢蝹蜨蝫螆䗗蟡蠁䗹衠衣𧙧裗裞"),
  (0x2f9c8, 1, "䘵裺㒻𧢮𧥦䚾䛇誠諭變豕𧲨貫賁贛起𧼯𠠄跋趼跰𠣞軔輸𨗒𨗭邔郱鄑𨜮鄛鈸鋗鋘鉼鏹鐕𨯺"),
  (0x2f9ee, 1, "開䦕閷𨵷䧦雃嶲霣𩅅𩈚䩮䩶韠𩐊䪲𩒖頋頋頩𩖶飢䬳餩馧駂駾䯎𩬰鬒鱀鳽䳎䳭鵧𪃎䳸𪄅𪈎"), (0x2fa14, 1, "𪊑麻䵖黹黾鼅鼏鼖鼻𪘀")]

end ApiAtlas.Domain
