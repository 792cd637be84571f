/-
What characters of a domain name stand for.

Names that look or sound alike lead to one place: capital letters stand for small ones, wide and
stylised letters for plain ones, ligatures and enclosed characters for what they spell, and some
characters for nothing. The mapping is the one that the Unicode standard gives for this purpose.
Most letters lie at a fixed distance from what they stand for; the others are listed with the
character or the text they stand for.
-/
import WorkflowNav.Text.Class

set_option autoImplicit false

namespace WorkflowNav.Domain

/-- Letters at a fixed distance: the first, how many, the step to the next, and what the first
stands for. -/
def shifted : List (Nat × Nat × Nat × Nat) := [
  (0x41, 26, 1, 0x61), (0xC0, 23, 1, 0xE0), (0xD8, 7, 1, 0xF8), (0x100, 24, 2, 0x101),
  (0x14A, 23, 2, 0x14B), (0x1CD, 8, 2, 0x1CE), (0x1DE, 9, 2, 0x1DF), (0x1F8, 20, 2, 0x1F9),
  (0x222, 9, 2, 0x223), (0x246, 5, 2, 0x247), (0x391, 17, 1, 0x3B1), (0x3A3, 9, 1, 0x3C3),
  (0x3D8, 12, 2, 0x3D9), (0x400, 16, 1, 0x450), (0x410, 32, 1, 0x430), (0x460, 17, 2, 0x461),
  (0x48A, 27, 2, 0x48B), (0x4C1, 7, 2, 0x4C2), (0x4D0, 48, 2, 0x4D1), (0x531, 38, 1, 0x561),
  (0x10A0, 38, 1, 0x2D00), (0x13F8, 6, 1, 0x13F0), (0x1C90, 43, 1, 0x10D0), (0x1D31, 5, 2, 0x65),
  (0x1E00, 75, 2, 0x1E01), (0x1EA0, 48, 2, 0x1EA1), (0x1F08, 8, 1, 0x1F00),
  (0x1F18, 6, 1, 0x1F10), (0x1F28, 8, 1, 0x1F20), (0x1F38, 8, 1, 0x1F30), (0x1F48, 6, 1, 0x1F40),
  (0x1F68, 8, 1, 0x1F60), (0x2074, 6, 1, 0x34), (0x2080, 10, 1, 0x30), (0x2460, 9, 1, 0x31),
  (0x24B6, 26, 1, 0x61), (0x24D0, 26, 1, 0x61), (0x2C00, 48, 1, 0x2C30), (0x2C80, 50, 2, 0x2C81),
  (0x313A, 6, 1, 0x11B0), (0x3145, 10, 1, 0x1109), (0x314F, 21, 1, 0x1161),
  (0x3178, 5, 1, 0x112B), (0x3269, 5, 1, 0x110E), (0x32E4, 6, 1, 0x30CA), (0x32EE, 5, 1, 0x30DE),
  (0x32F5, 6, 1, 0x30E8), (0xA640, 23, 2, 0xA641), (0xA680, 14, 2, 0xA681),
  (0xA722, 7, 2, 0xA723), (0xA732, 31, 2, 0xA733), (0xA77E, 5, 2, 0xA77F),
  (0xA796, 10, 2, 0xA797), (0xA7B4, 8, 2, 0xA7B5), (0xA7CC, 8, 2, 0xA7CD), (0xA7DD, 6, 1, 0x277),
  (0xAB70, 80, 1, 0x13A0), (0xFF01, 32, 1, 0x21), (0xFF21, 26, 1, 0x61), (0xFF3B, 36, 1, 0x5B),
  (0xFF85, 6, 1, 0x30CA), (0xFF8F, 5, 1, 0x30DE), (0xFF96, 6, 1, 0x30E8), (0xFFAA, 6, 1, 0x11B0),
  (0xFFB5, 10, 1, 0x1109), (0xFFC2, 6, 1, 0x1161), (0xFFCA, 6, 1, 0x1167), (0xFFD2, 6, 1, 0x116D),
  (0x10400, 40, 1, 0x10428), (0x104B0, 36, 1, 0x104D8), (0x10570, 19, 2, 0x10597),
  (0x10571, 5, 2, 0x10598), (0x1057D, 7, 2, 0x105A4), (0x10C80, 51, 1, 0x10CC0),
  (0x10D50, 22, 1, 0x10D70), (0x118A0, 32, 1, 0x118C0), (0x16E40, 32, 1, 0x16E60),
  (0x16EA0, 25, 1, 0x16EBB), (0x1CCD6, 26, 1, 0x61), (0x1CCF0, 10, 1, 0x30),
  (0x1D400, 26, 1, 0x61), (0x1D41A, 26, 1, 0x61), (0x1D434, 26, 1, 0x61), (0x1D44E, 13, 2, 0x61),
  (0x1D457, 9, 2, 0x6A), (0x1D468, 26, 1, 0x61), (0x1D482, 26, 1, 0x61), (0x1D4AA, 6, 2, 0x6F),
  (0x1D4B7, 13, 2, 0x62), (0x1D4C6, 5, 2, 0x71), (0x1D4D0, 26, 1, 0x61), (0x1D4EA, 26, 1, 0x61),
  (0x1D50D, 8, 1, 0x6A), (0x1D516, 7, 1, 0x73), (0x1D51E, 26, 1, 0x61), (0x1D53C, 6, 2, 0x65),
  (0x1D54A, 7, 1, 0x73), (0x1D552, 26, 1, 0x61), (0x1D56C, 26, 1, 0x61), (0x1D586, 26, 1, 0x61),
  (0x1D5A0, 26, 1, 0x61), (0x1D5BA, 26, 1, 0x61), (0x1D5D4, 26, 1, 0x61), (0x1D5EE, 26, 1, 0x61),
  (0x1D608, 26, 1, 0x61), (0x1D622, 26, 1, 0x61), (0x1D63C, 26, 1, 0x61), (0x1D656, 26, 1, 0x61),
  (0x1D670, 26, 1, 0x61), (0x1D68A, 26, 1, 0x61), (0x1D6A8, 17, 1, 0x3B1), (0x1D6BA, 7, 1, 0x3C3),
  (0x1D6C2, 17, 1, 0x3B1), (0x1D6D4, 7, 1, 0x3C3), (0x1D6E2, 17, 1, 0x3B1),
  (0x1D6F4, 7, 1, 0x3C3), (0x1D6FC, 17, 1, 0x3B1), (0x1D70E, 7, 1, 0x3C3),
  (0x1D71C, 17, 1, 0x3B1), (0x1D72E, 7, 1, 0x3C3), (0x1D736, 17, 1, 0x3B1),
  (0x1D748, 7, 1, 0x3C3), (0x1D756, 17, 1, 0x3B1), (0x1D768, 7, 1, 0x3C3),
  (0x1D770, 17, 1, 0x3B1), (0x1D782, 7, 1, 0x3C3), (0x1D790, 17, 1, 0x3B1),
  (0x1D7A2, 7, 1, 0x3C3), (0x1D7AA, 17, 1, 0x3B1), (0x1D7BC, 7, 1, 0x3C3), (0x1D7CE, 10, 1, 0x30),
  (0x1D7D8, 10, 1, 0x30), (0x1D7E2, 10, 1, 0x30), (0x1D7EC, 10, 1, 0x30), (0x1D7F6, 10, 1, 0x30),
  (0x1E030, 9, 1, 0x430), (0x1E03C, 11, 1, 0x43E), (0x1E051, 9, 1, 0x430), (0x1E05F, 6, 1, 0x443),
  (0x1E900, 34, 1, 0x1E922), (0x1F130, 26, 1, 0x61), (0x1FBF0, 10, 1, 0x30)]

/-- Characters that stand for one other: the first code point, and what it and those after it stand
for. -/
def respelled : List (Nat × String) := [
  (0xA0, " "), (0xAA, "a"), (0x136, "ķ"), (0x139, "ĺ"), (0x13B, "ļ"), (0x13D, "ľ"), (0x143, "ń"),
  (0x145, "ņ"), (0x147, "ň"), (0x178, "ÿź"), (0x17B, "ż"), (0x17D, "ž"), (0x17F, "s"),
  (0x181, "ɓƃ"), (0x184, "ƅ"), (0x186, "ɔƈ"), (0x189, "ɖɗƌ"), (0x18E, "ǝəɛƒ"), (0x193, "ɠɣ"),
  (0x196, "ɩɨƙ"), (0x19C, "ɯɲ"), (0x19F, "ɵơ"), (0x1A2, "ƣ"), (0x1A4, "ƥ"), (0x1A6, "ʀƨ"),
  (0x1A9, "ʃ"), (0x1AC, "ƭ"), (0x1AE, "ʈư"), (0x1B1, "ʊʋƴ"), (0x1B5, "ƶ"), (0x1B7, "ʒƹ"),
  (0x1BC, "ƽ"), (0x1F6, "ƕƿ"), (0x220, "ƞ"), (0x23A, "ⱥȼ"), (0x23D, "ƚⱦ"), (0x241, "ɂ"),
  (0x243, "ƀʉʌ"), (0x2B0, "hɦjrɹɻʁwy"), (0x2E0, "ɣlsxʕ"), (0x340, "\u0300\u0301"), (0x370, "ͱ"),
  (0x372, "ͳ"), (0x374, "ʹ"), (0x376, "ͷ"), (0x37E, ";ϳ"), (0x38C, "ό"), (0x38E, "ύώ"),
  (0x3CF, "ϗβθυύϋφπ"), (0x3F0, "κρσ"), (0x3F4, "θε"), (0x3F7, "ϸ"), (0x3F9, "σϻ"), (0x3FD, "ͻͼͽ"),
  (0x4C0, "ӏ"), (0xF0C, "་"), (0x10C7, "ⴧ"), (0x10CD, "ⴭ"), (0x10FC, "ნ"), (0x1C80, "вдосттъѣꙋᲊ"),
  (0x1CBD, "ჽჾჿ"), (0x1D2C, "aæb"), (0x1D30, "d"), (0x1D32, "ǝ"), (0x1D34, "h"), (0x1D36, "j"),
  (0x1D38, "l"), (0x1D3A, "n"), (0x1D3C, "oȣprtuwaɐɑᴂbdeəɛɜg"),
  (0x1D4F, "kmŋoɔᴖᴗptuᴝɯvᴥβγδφχiruvβγρφχ"), (0x1D78, "н"),
  (0x1D9B, "ɒcɕðɜfɟɡɥɨɩɪᵻʝɭᶅʟɱɰɲɳɴɵɸʂʃƫʉʊᴜʋʌzʐʑʒθ"), (0x1E9E, "ß"), (0x1F59, "ὑ"), (0x1F5B, "ὓ"),
  (0x1F5D, "ὕ"), (0x1F5F, "ὗ"), (0x1F71, "ά"), (0x1F73, "έ"), (0x1F75, "ή"), (0x1F77, "ί"),
  (0x1F79, "ό"), (0x1F7B, "ύ"), (0x1F7D, "ώ"), (0x1FD3, "ΐ"), (0x1FD8, "ῐῑὶί"), (0x1FE3, "ΰ"),
  (0x2000, "           "), (0x2011, "‐"), (0x202F, " "), (0x205F, " "), (0x2070, "0i"),
  (0x207A, "+−=()n"), (0x208A, "+−=()"), (0x2090, "aeoxəhklmnpstwyz"), (0x2119, "pqrrr"),
  (0x2124, "z"), (0x2126, "ω"), (0x2128, "z"), (0x212A, "kåbc"),
  (0x212F, "eefⅎmo\u05d0\u05d1\u05d2\u05d3i"), (0x2145, "ddeij"), (0x2183, "ↄ"), (0x2329, "〈〉"),
  (0x24EA, "0"), (0x2C60, "ⱡ"), (0x2C62, "ɫᵽɽ"), (0x2C67, "ⱨ"), (0x2C69, "ⱪ"), (0x2C6B, "ⱬ"),
  (0x2C6D, "ɑɱɐɒ"), (0x2C72, "ⱳ"), (0x2C75, "ⱶ"), (0x2C7C, "jvȿɀ"), (0x2CEB, "ⳬ"), (0x2CED, "ⳮ"),
  (0x2CF2, "ⳳ"), (0x2D6F, "ⵡ"), (0x2E9F, "母"), (0x2EF3, "龟"),
  (0x2F00, "一丨丶丿乙亅二亠人儿入八冂冖冫几凵刀力勹匕匚匸十卜卩厂厶又口囗土士夂夊夕大女子宀寸小尢尸屮山巛工己巾干幺广廴廾弋弓彐彡彳心戈戶手支攴文斗斤方无日曰月木欠止歹殳毋比毛氏"),
  (0x2F53, "气水火爪父爻爿片牙牛犬玄玉瓜瓦甘生用田疋疒癶白皮皿目矛矢石示禸禾穴立竹米糸缶网羊羽老而耒耳聿肉臣自至臼舌舛舟艮色艸虍虫血行衣襾見角言谷豆豕豸貝赤走足身車辛辰辵邑酉釆里"),
  (0x2FA6, "金長門阜隶隹雨靑非面革韋韭音頁風飛食首香馬骨高髟鬥鬯鬲鬼魚鳥鹵鹿麥麻黃黍黑黹黽鼎鼓鼠鼻齊齒龍龜龠"), (0x3000, " "), (0x3002, "."),
  (0x3036, "〒"), (0x3038, "十卄卅"), (0x3131, "ᄀᄁᆪᄂᆬᆭᄃᄄᄅ"), (0x3140, "ᄚᄆᄇᄈᄡ"),
  (0x3165, "ᄔᄕᇇᇈᇌᇎᇓᇗᇙᄜᇝᇟᄝᄞᄠᄢᄣᄧᄩ"), (0x317D, "ᄲᄶᅀᅇᅌᇱᇲᅗᅘᅙᆄᆅᆈᆑᆒᆔᆞᆡ"), (0x3192, "一二三四上中下甲乙丙丁天地人"),
  (0x32EA, "ヒフヘホ"), (0x32F3, "ヤユ"), (0xA69C, "ъь"), (0xA770, "ꝯ"), (0xA779, "ꝺ"), (0xA77B, "ꝼ"),
  (0xA77D, "ᵹ"), (0xA78B, "ꞌ"), (0xA78D, "ɥ"), (0xA790, "ꞑ"), (0xA792, "ꞓ"), (0xA7AA, "ɦɜɡɬɪ"),
  (0xA7B0, "ʞʇʝꭓ"), (0xA7C4, "ꞔʂᶎꟈ"), (0xA7C9, "ꟊ"), (0xA7CB, "ɤ"), (0xA7DC, "ƛ"),
  (0xA7F1, "scfqꟶ"), (0xA7F8, "ħœ"), (0xAB5C, "ꜧꬷɫꭒ"), (0xAB69, "ʍ"),
  (0xF900, "豈更車賈滑串句龜龜契金喇奈懶癩羅蘿螺裸邏樂洛烙珞落酪駱亂卵欄爛蘭鸞嵐濫藍襤拉臘蠟廊朗浪狼郎來冷勞擄櫓爐盧老蘆虜路露魯鷺碌祿綠菉錄鹿論壟弄籠聾牢磊賂雷壘屢樓淚漏累縷陋勒"),
  (0xF953, "肋凜凌稜綾菱陵讀拏樂諾丹寧怒率異北磻便復不泌數索參塞省葉說殺辰沈拾若掠略亮兩凉梁糧良諒量勵呂女廬旅濾礪閭驪麗黎力曆歷轢年憐戀撚漣煉璉秊練聯輦蓮連鍊列劣咽烈裂說廉念捻殮"),
  (0xF9A6, "簾獵令囹寧嶺怜玲瑩羚聆鈴零靈領例禮醴隸惡了僚寮尿料樂燎療蓼遼龍暈阮劉杻柳流溜琉留硫紐類六戮陸倫崙淪輪律慄栗率隆利吏履易李梨泥理痢罹裏裡里離匿溺吝燐璘藺隣鱗麟林淋臨立笠"),
  (0xF9F9, "粒狀炙識什茶刺切度拓糖宅洞暴輻行降見廓兀嗀"), (0xFA10, "塚"), (0xFA12, "晴"), (0xFA15, "凞猪益礼神祥福靖精羽"),
  (0xFA20, "蘒"), (0xFA22, "諸"), (0xFA25, "逸都"),
  (0xFA2A, "飯飼館鶴郞隷侮僧免勉勤卑喝嘆器塀墨層屮悔慨憎懲敏既暑梅海渚漢煮爫琢碑社祉祈祐祖祝禍禎穀突節練縉繁署者臭艹艹著褐視謁謹賓贈辶逸難響頻恵𤋮舘"),
  (0xFA70, "並况全侀充冀勇勺喝啕喙嗢塚墳奄奔婢嬨廒廙彩徭惘慎愈憎慠懲戴揄搜摒敖晴朗望杖歹殺流滛滋漢瀞煮瞧爵犯猪瑱甆画瘝瘟益盛直睊着磌窱節类絛練缾者荒華蝹襁覆視調諸請謁諾諭謹變贈輸"),
  (0xFAC3, "遲醙鉶陼難靖韛響頋頻鬒龜𢡊𢡄𣏕㮝䀘䀹𥉉𥳐𧻓齃龎"), (0xFE10, ",、"), (0xFE13, ":;!?〖〗"),
  (0xFE31, "—–__()\x7b\x7d〔〕【】《》〈〉「」『』"), (0xFE54, ";:?!—()\x7b\x7d〔〕#&*+-<>="),
  (0xFE68, "\\$%@"), (0xFF5F, "⦅⦆.「」、・ヲァィゥェォャュョッーアイウエオカキクケコサシスセソタチツテト"), (0xFF8B, "ヒフヘホ"),
  (0xFF94, "ヤユ"), (0xFF9C, "ワン\u3099\u309a"), (0xFFA1, "ᄀᄁᆪᄂᆬᆭᄃᄄᄅ"), (0xFFB0, "ᄚᄆᄇᄈᄡ"),
  (0xFFDA, "ᅳᅴᅵ"), (0xFFE8, "│←↑→↓■○"), (0x1058D, "𐖴"), (0x1058F, "𐖶"), (0x10591, "𐖸"),
  (0x10595, "𐖼"), (0x10781, "ːˑæʙɓ"), (0x10787, "ʣꭦʥʤɖɗᶑɘɞʩɤɢɠʛħʜɧʄʪʫɬ𝼄ꞎɮ𝼅ʎ𝼆øɶɷqɺ𝼈ɽɾʀʨʦꭧʧʈⱱ"),
  (0x107B2, "ʏʡʢʘǀǁǂ𝼊𝼞"), (0x1D44F, "b"), (0x1D451, "d"), (0x1D453, "f"), (0x1D49C, "a"),
  (0x1D49E, "cd"), (0x1D4A2, "g"), (0x1D4A5, "jk"), (0x1D4A9, "n"), (0x1D4AB, "p"),
  (0x1D4AF, "t"), (0x1D4B1, "v"), (0x1D4B3, "x"), (0x1D4B5, "za"), (0x1D4B8, "c"), (0x1D4BE, "i"),
  (0x1D4C0, "k"), (0x1D4C2, "m"), (0x1D504, "ab"), (0x1D507, "defg"), (0x1D538, "ab"),
  (0x1D53B, "d"), (0x1D53D, "f"), (0x1D541, "j"), (0x1D543, "l"), (0x1D6A4, "ıȷ"), (0x1D6B9, "θ"),
  (0x1D6C1, "∇"), (0x1D6D3, "σ"), (0x1D6DB, "∂εθκφρπ"), (0x1D6F3, "θ"), (0x1D6FB, "∇"),
  (0x1D70D, "σ"), (0x1D715, "∂εθκφρπ"), (0x1D72D, "θ"), (0x1D735, "∇"), (0x1D747, "σ"),
  (0x1D74F, "∂εθκφρπ"), (0x1D767, "θ"), (0x1D76F, "∇"), (0x1D781, "σ"), (0x1D789, "∂εθκφρπ"),
  (0x1D7A1, "θ"), (0x1D7A9, "∇"), (0x1D7BB, "σ"), (0x1D7C3, "∂εθκφρπϝϝ"), (0x1E039, "клм"),
  (0x1E047, "ыэюꚉәіјөүӏ"), (0x1E05A, "клопс"), (0x1E065, "ъыґіѕџҫꙑұ"),
  (0x1EE00, "\u0627\u0628\u062c\u062f"),
  (0x1EE05, "\u0648\u0632\u062d\u0637\u064a\u0643\u0644\u0645\u0646\u0633\u0639\u0641\u0635"),
  (0x1EE12, "\u0642\u0631\u0634\u062a\u062b\u062e\u0630\u0636\u0638\u063a\u066e\u06ba\u06a1"),
  (0x1EE1F, "\u066f"), (0x1EE21, "\u0628\u062c"), (0x1EE24, "\u0647"), (0x1EE27, "\u062d"),
  (0x1EE29, "\u064a\u0643\u0644\u0645\u0646\u0633\u0639\u0641\u0635\u0642"),
  (0x1EE34, "\u0634\u062a\u062b\u062e"), (0x1EE39, "\u0636"), (0x1EE3B, "\u063a"),
  (0x1EE42, "\u062c"), (0x1EE47, "\u062d"), (0x1EE49, "\u064a"), (0x1EE4B, "\u0644"),
  (0x1EE4D, "\u0646\u0633\u0639"), (0x1EE51, "\u0635\u0642"), (0x1EE54, "\u0634"),
  (0x1EE57, "\u062e"), (0x1EE59, "\u0636"), (0x1EE5B, "\u063a"), (0x1EE5D, "\u06ba"),
  (0x1EE5F, "\u066f"), (0x1EE61, "\u0628\u062c"), (0x1EE64, "\u0647"),
  (0x1EE67, "\u062d\u0637\u064a\u0643"), (0x1EE6C, "\u0645\u0646\u0633\u0639\u0641\u0635\u0642"),
  (0x1EE74, "\u0634\u062a\u062b\u062e"), (0x1EE79, "\u0636\u0638\u063a\u066e"),
  (0x1EE7E, "\u06a1"), (0x1EE80, "\u0627\u0628\u062c\u062f\u0647\u0648\u0632\u062d\u0637\u064a"),
  (0x1EE8B, "\u0644\u0645\u0646\u0633\u0639\u0641\u0635\u0642\u0631\u0634\u062a\u062b\u062e"),
  (0x1EE98, "\u0630\u0636\u0638\u063a"), (0x1EEA1, "\u0628\u062c\u062f"),
  (0x1EEA5, "\u0648\u0632\u062d\u0637\u064a"),
  (0x1EEAB, "\u0644\u0645\u0646\u0633\u0639\u0641\u0635\u0642\u0631\u0634\u062a\u062b\u062e"),
  (0x1EEB8, "\u0630\u0636\u0638\u063a"),
  (0x1F210, "手字双デ二多解天交映無料前後再新初終生販声吹演投捕一三遊左中右指走打禁空合満有月申割営配"), (0x1F250, "得可"),
  (0x2F800, "丽丸乁𠄢你侮侻倂偺備僧像㒞𠘺免兔兤具𠔜㒹內再𠕋冗冤仌冬况𩇟凵刃㓟刻剆割剷㔕勇勉勤勺包匆北卉卑博即卽卿卿卿𠨬灰及叟𠭣叫叱吆咞吸呈周咢哶唐啓啣善善喙喫喳嗂圖嘆圗噑噴切壮"),
  (0x2F852, "城埴堍型堲報墬𡓤売壷夆多夢奢𡚨𡛪姬娛娧姘婦㛮㛼嬈嬾嬾𡧈寃寘寧寳𡬘寿将当尢㞁屠屮峀岍𡷤嵃𡷦嵮嵫嵼巡巢㠯巽帨帽幩㡢𢆃㡼庰庳庶廊𪎒廾𢌱𢌱舁弢弢㣇𣊸𦇚形彫㣣徚忍志忹悁㤺㤜悔"),
  (0x2F8A4, "𢛔惇慈慌慎慌慺憎憲憤憯懞懲懶成戛扝抱拔捐𢬌挽拼捨掃揤𢯱搢揅掩㨮摩摾撝摷㩬敏敬𣀊旣書晉㬙暑㬈㫤冒冕最暜肭䏙朗望朡杞杓𣏃㭉柺枅桒梅𣑭梎栟椔㮝楂榣槪檨𣚣櫛㰘次𣢧歔㱎歲殟殺"),
  (0x2F8F6, "殻𣪍𡴋𣫺汎𣲼沿泍汧洖派海流浩浸涅𣴞洴港湮㴳滋滇𣻑淹潮𣽞𣾎濆瀹瀞瀛㶖灊災灷炭𠔥煅𤉣熜𤎫爨爵牐𤘈犀犕𤜵𤠔獺王㺬玥㺸㺸瑇瑜瑱璅瓊㼛甤𤰶甾𤲒異𢆟瘐𤾡𤾸𥁄㿼䀈直𥃳𥃲𥄙𥄳眞真真"),
  (0x2F948, "睊䀹瞋䁆䂖𥐝硎碌磌䃣𥘦祖𥚚𥛅福秫䄯穀穊穏𥥼𥪧𥪧竮䈂𥮫篆築䈧𥲀糒䊠糨糣紀𥾆絣䌁緇縂繅䌴𦈨𦉇䍙𦋙罺𦌾羕翺者𦓚𦔣聠𦖨聰𣍟䏕育脃䐋脾媵𦞧𦞵𣎓𣎜舁舄辞䑫芑芋芝劳花芳芽苦𦬼若茝"),
  (0x2F99A, "荣莭茣莽菧著荓菊菌菜𦰶𦵫𦳕䔫蓱蓳蔖𧏊蕤𦼬䕝䕡𦾱𧃒䕫虐虜虧虩蚩蚈蜎蛢蝹蜨蝫螆䗗蟡蠁䗹衠衣𧙧裗裞䘵裺㒻𧢮𧥦䚾䛇誠諭變豕𧲨貫賁贛起𧼯𠠄跋趼跰𠣞軔輸𨗒𨗭邔郱鄑𨜮鄛鈸鋗鋘鉼鏹"),
  (0x2F9EC, "鐕𨯺開䦕閷𨵷䧦雃嶲霣𩅅𩈚䩮䩶韠𩐊䪲𩒖頋頋頩𩖶飢䬳餩馧駂駾䯎𩬰鬒鱀鳽䳎䳭鵧𪃎䳸𪄅𪈎𪊑麻䵖黹黾鼅鼏鼖鼻𪘀")]

/-- Characters that stand for a text: the first code point, and what it and those after it stand
for, divided by bars. -/
def spelledOut : List (Nat × String) := [
  (0xA8, " \u0308"), (0xAF, " \u0304"), (0xB2, "2|3| \u0301|μ"), (0xB8, " \u0327|1|o"),
  (0xBC, "1⁄4|1⁄2|3⁄4"), (0x130, "i\u0307"), (0x132, "ij|ij|ĵ"), (0x13F, "l·|l·|ł"),
  (0x149, "ʼn"), (0x1C4, "dž|dž|dž|lj|lj|lj|nj|nj|nj"), (0x1F1, "dz|dz|dz|ǵ"),
  (0x2D8, " \u0306| \u0307| \u030a| \u0328| \u0303| \u030b"), (0x343, "\u0313|\u0308\u0301|ι"),
  (0x37A, " ι"), (0x384, " \u0301| \u0308\u0301|ά|·|έ|ή|ί"), (0x587, "եւ"),
  (0x675, "\u0627\u0674|\u0648\u0674|\u06c7\u0674|\u064a\u0674"),
  (0x958, "क\u093c|ख\u093c|ग\u093c|ज\u093c|ड\u093c|ढ\u093c|फ\u093c|य\u093c"),
  (0x9DC, "ড\u09bc|ঢ\u09bc"), (0x9DF, "য\u09bc"), (0xA33, "ਲ\u0a3c"), (0xA36, "ਸ\u0a3c"),
  (0xA59, "ਖ\u0a3c|ਗ\u0a3c|ਜ\u0a3c"), (0xA5E, "ਫ\u0a3c"), (0xB5C, "ଡ\u0b3c|ଢ\u0b3c"),
  (0xE33, "\u0e4dา"), (0xEB3, "\u0ecdາ"), (0xEDC, "ຫນ|ຫມ"), (0xF43, "ག\u0fb7"),
  (0xF4D, "ཌ\u0fb7"), (0xF52, "ད\u0fb7"), (0xF57, "བ\u0fb7"), (0xF5C, "ཛ\u0fb7"),
  (0xF69, "ཀ\u0fb5"), (0xF73, "\u0f71\u0f72"),
  (0xF75, "\u0f71\u0f74|\u0fb2\u0f80|\u0fb2\u0f71\u0f80|\u0fb3\u0f80|\u0fb3\u0f71\u0f80"),
  (0xF81, "\u0f71\u0f80"), (0xF93, "\u0f92\u0fb7"), (0xF9D, "\u0f9c\u0fb7"),
  (0xFA2, "\u0fa1\u0fb7"), (0xFA7, "\u0fa6\u0fb7"), (0xFAC, "\u0fab\u0fb7"),
  (0xFB9, "\u0f90\u0fb5"), (0x1E9A, "aʾ|ṡ"),
  (0x1F80, "ἀι|ἁι|ἂι|ἃι|ἄι|ἅι|ἆι|ἇι|ἀι|ἁι|ἂι|ἃι|ἄι|ἅι|ἆι|ἇι|ἠι|ἡι|ἢι|ἣι|ἤι|ἥι|ἦι|ἧι|ἠι|ἡι|ἢι|ἣι"),
  (0x1F9C, "ἤι|ἥι|ἦι|ἧι|ὠι|ὡι|ὢι|ὣι|ὤι|ὥι|ὦι|ὧι|ὠι|ὡι|ὢι|ὣι|ὤι|ὥι|ὦι|ὧι"), (0x1FB2, "ὰι|αι|άι"),
  (0x1FB7, "ᾶι|ᾰ|ᾱ|ὰ|ά|αι| \u0313|ι| \u0313| \u0342| \u0308\u0342|ὴι|ηι|ήι"),
  (0x1FC7, "ῆι|ὲ|έ|ὴ|ή|ηι| \u0313\u0300| \u0313\u0301| \u0313\u0342"),
  (0x1FDD, " \u0314\u0300| \u0314\u0301| \u0314\u0342"),
  (0x1FE8, "ῠ|ῡ|ὺ|ύ|ῥ| \u0308\u0300| \u0308\u0301|`"), (0x1FF2, "ὼι|ωι|ώι"),
  (0x1FF7, "ῶι|ὸ|ό|ὼ|ώ|ωι| \u0301| \u0314"), (0x2017, " \u0333"), (0x2033, "′′|′′′"),
  (0x2036, "‵‵|‵‵‵"), (0x203C, "!!"), (0x203E, " \u0305"), (0x2047, "??|?!|!?"), (0x2057, "′′′′"),
  (0x20A8, "rs"), (0x2100, "a/c|a/s|c|°c"), (0x2105, "c/o|c/u|ɛ"),
  (0x2109, "°f|g|h|h|h|h|ħ|i|i|l|l"), (0x2115, "n|no"), (0x2120, "sm|tel|tm"),
  (0x213B, "fax|π|γ|γ|π|∑"),
  (0x2150, "1⁄7|1⁄9|1⁄10|1⁄3|2⁄3|1⁄5|2⁄5|3⁄5|4⁄5|1⁄6|5⁄6|1⁄8|3⁄8|5⁄8|7⁄8|1⁄|i|ii|iii|iv|v|vi"),
  (0x2166, "vii|viii|ix|x|xi|xii|l|c|d|m|i|ii|iii|iv|v|vi|vii|viii|ix|x|xi|xii|l|c|d|m"),
  (0x2189, "0⁄3"), (0x222C, "∫∫|∫∫∫"), (0x222F, "∮∮|∮∮∮"),
  (0x2469, "10|11|12|13|14|15|16|17|18|19|20|(1)|(2)|(3)|(4)|(5)|(6)|(7)|(8)|(9)|(10)|(11)|(12)"),
  (0x2480, "(13)|(14)|(15)|(16)|(17)|(18)|(19)|(20)"),
  (0x249C, "(a)|(b)|(c)|(d)|(e)|(f)|(g)|(h)|(i)|(j)|(k)|(l)|(m)|(n)|(o)|(p)|(q)|(r)|(s)|(t)|(u)"),
  (0x24B1, "(v)|(w)|(x)|(y)|(z)"), (0x2A0C, "∫∫∫∫"), (0x2A74, "::=|==|==="), (0x2ADC, "⫝\u0338"),
  (0x309B, " \u3099| \u309a"), (0x309F, "より"), (0x30FF, "コト"),
  (0x3200, "(ᄀ)|(ᄂ)|(ᄃ)|(ᄅ)|(ᄆ)|(ᄇ)|(ᄉ)|(ᄋ)|(ᄌ)|(ᄎ)|(ᄏ)|(ᄐ)|(ᄑ)|(ᄒ)|(가)|(나)|(다)|(라)|(마)|(바)|(사)"),
  (0x3215, "(아)|(자)|(차)|(카)|(타)|(파)|(하)|(주)|(오전)|(오후)"),
  (0x3220, "(一)|(二)|(三)|(四)|(五)|(六)|(七)|(八)|(九)|(十)|(月)|(火)|(水)|(木)|(金)|(土)|(日)|(株)|(有)|(社)|(名)"),
  (0x3235, "(特)|(財)|(祝)|(労)|(代)|(呼)|(学)|(監)|(企)|(資)|(協)|(祭)|(休)|(自)|(至)|問|幼|文|箏"),
  (0x3250, "pte|21|22|23|24|25|26|27|28|29|30|31|32|33|34|35|ᄀ|ᄂ|ᄃ|ᄅ|ᄆ|ᄇ|ᄉ|ᄋ|ᄌ"),
  (0x326E, "가|나|다|라|마|바|사|아|자|차|카|타|파|하|참고|주의|우"),
  (0x3280, "一|二|三|四|五|六|七|八|九|十|月|火|水|木|金|土|日|株|有|社|名|特|財|祝|労|秘|男|女|適|優|印|注|項|休|写|正|上|中|下|左|右|医"),
  (0x32AA, "宗|学|監|企|資|協|夜|36|37|38|39|40|41|42|43|44|45|46|47|48|49|50|1月|2月|3月|4月|5月|6月|7月|8月"),
  (0x32C8, "9月|10月|11月|12月|hg|erg|ev|ltd|ア|イ|ウ|エ|オ|カ|キ|ク|ケ|コ|サ|シ|ス|セ|ソ|タ|チ|ツ|テ|ト"),
  (0x32FB, "ワ|ヰ|ヱ|ヲ|令和|アパート|アルファ|アンペア|アール|イニング|インチ|ウォン|エスクード|エーカー|オンス|オーム|カイリ|カラット|カロリー|ガロン|ガンマ"),
  (0x3310, "ギガ|ギニー|キュリー|ギルダー|キロ|キログラム|キロメートル|キロワット|グラム|グラムトン|クルゼイロ|クローネ|ケース|コルナ|コーポ|サイクル|サンチーム"),
  (0x3321, "シリング|センチ|セント|ダース|デシ|ドル|トン|ナノ|ノット|ハイツ|パーセント|パーツ|バーレル|ピアストル|ピクル|ピコ|ビル|ファラッド|フィート"),
  (0x3334, "ブッシェル|フラン|ヘクタール|ペソ|ペニヒ|ヘルツ|ペンス|ページ|ベータ|ポイント|ボルト|ホン|ポンド|ホール|ホーン|マイクロ|マイル|マッハ|マルク"),
  (0x3347, "マンション|ミクロン|ミリ|ミリバール|メガ|メガトン|メートル|ヤード|ヤール|ユアン|リットル|リラ|ルピー|ルーブル|レム|レントゲン|ワット|0点|1点|2点"),
  (0x335B, "3点|4点|5点|6点|7点|8点|9点|10点|11点|12点|13点|14点|15点|16点|17点|18点|19点|20点|21点|22点|23点|24点"),
  (0x3371, "hpa|da|au|bar|ov|pc|dm|dm2|dm3|iu|平成|昭和|大正|明治|株式会社|pa|na|μa|ma|ka|kb|mb|gb|cal|kcal"),
  (0x338A, "pf|nf|μf|μg|mg|kg|hz|khz|mhz|ghz|thz|μl|ml|dl|kl|fm|nm|μm|mm|cm|km|mm2|cm2|m2|km2"),
  (0x33A3, "mm3|cm3|m3|km3|m∕s|m∕s2|pa|kpa|mpa|gpa|rad|rad∕s|rad∕s2|ps|ns|μs|ms|pv|nv|μv|mv|kv"),
  (0x33B9, "mv|pw|nw|μw|mw|kw|mw|kω|mω"), (0x33C3, "bq|cc|cd|c∕kg"),
  (0x33C8, "db|gy|ha|hp|in|kk|km|kt|lm|ln|log|lx|mb|mil|mol|ph"),
  (0x33D9, "ppm|pr|sr|sv|wb|v∕m|a∕m|1日|2日|3日|4日|5日|6日|7日|8日|9日|10日|11日|12日|13日|14日|15日|16日|17日"),
  (0x33F1, "18日|19日|20日|21日|22日|23日|24日|25日|26日|27日|28日|29日|30日|31日|gal"),
  (0xFB00, "ff|fi|fl|ffi|ffl|st|st"), (0xFB13, "մն|մե|մի|վն|մխ"), (0xFB1D, "\u05d9\u05b4"),
  (0xFB1F, "\u05f2\u05b7|\u05e2|\u05d0|\u05d3|\u05d4|\u05db|\u05dc|\u05dd|\u05e8|\u05ea|+"),
  (0xFB2A, "\u05e9\u05c1|\u05e9\u05c2|\u05e9\u05bc\u05c1|\u05e9\u05bc\u05c2|\u05d0\u05b7"),
  (0xFB2F, "\u05d0\u05b8|\u05d0\u05bc|\u05d1\u05bc|\u05d2\u05bc|\u05d3\u05bc|\u05d4\u05bc"),
  (0xFB35, "\u05d5\u05bc|\u05d6\u05bc"),
  (0xFB38, "\u05d8\u05bc|\u05d9\u05bc|\u05da\u05bc|\u05db\u05bc|\u05dc\u05bc"),
  (0xFB3E, "\u05de\u05bc"), (0xFB40, "\u05e0\u05bc|\u05e1\u05bc"),
  (0xFB43, "\u05e3\u05bc|\u05e4\u05bc"),
  (0xFB46, "\u05e6\u05bc|\u05e7\u05bc|\u05e8\u05bc|\u05e9\u05bc|\u05ea\u05bc|\u05d5\u05b9"),
  (0xFB4C, "\u05d1\u05bf|\u05db\u05bf|\u05e4\u05bf|\u05d0\u05dc|\u0671|\u0671|\u067b|\u067b"),
  (0xFB54, "\u067b|\u067b|\u067e|\u067e|\u067e|\u067e|\u0680|\u0680|\u0680|\u0680|\u067a|\u067a"),
  (0xFB60, "\u067a|\u067a|\u067f|\u067f|\u067f|\u067f|\u0679|\u0679|\u0679|\u0679|\u06a4|\u06a4"),
  (0xFB6C, "\u06a4|\u06a4|\u06a6|\u06a6|\u06a6|\u06a6|\u0684|\u0684|\u0684|\u0684|\u0683|\u0683"),
  (0xFB78, "\u0683|\u0683|\u0686|\u0686|\u0686|\u0686|\u0687|\u0687|\u0687|\u0687|\u068d|\u068d"),
  (0xFB84, "\u068c|\u068c|\u068e|\u068e|\u0688|\u0688|\u0698|\u0698|\u0691|\u0691|\u06a9|\u06a9"),
  (0xFB90, "\u06a9|\u06a9|\u06af|\u06af|\u06af|\u06af|\u06b3|\u06b3|\u06b3|\u06b3|\u06b1|\u06b1"),
  (0xFB9C, "\u06b1|\u06b1|\u06ba|\u06ba|\u06bb|\u06bb|\u06bb|\u06bb|\u06c0|\u06c0|\u06c1|\u06c1"),
  (0xFBA8, "\u06c1|\u06c1|\u06be|\u06be|\u06be|\u06be|\u06d2|\u06d2|\u06d3|\u06d3"),
  (0xFBD3, "\u06ad|\u06ad|\u06ad|\u06ad|\u06c7|\u06c7|\u06c6|\u06c6|\u06c8|\u06c8|\u06c7\u0674"),
  (0xFBDE, "\u06cb|\u06cb|\u06c5|\u06c5|\u06c9|\u06c9|\u06d0|\u06d0|\u06d0|\u06d0|\u0649|\u0649"),
  (0xFBEA, "\u0626\u0627|\u0626\u0627|\u0626\u06d5|\u0626\u06d5|\u0626\u0648|\u0626\u0648"),
  (0xFBF0, "\u0626\u06c7|\u0626\u06c7|\u0626\u06c6|\u0626\u06c6|\u0626\u06c8|\u0626\u06c8"),
  (0xFBF6, "\u0626\u06d0|\u0626\u06d0|\u0626\u06d0|\u0626\u0649|\u0626\u0649|\u0626\u0649"),
  (0xFBFC, "\u06cc|\u06cc|\u06cc|\u06cc|\u0626\u062c|\u0626\u062d|\u0626\u0645|\u0626\u0649"),
  (0xFC04, "\u0626\u064a|\u0628\u062c|\u0628\u062d|\u0628\u062e|\u0628\u0645|\u0628\u0649"),
  (0xFC0A, "\u0628\u064a|\u062a\u062c|\u062a\u062d|\u062a\u062e|\u062a\u0645|\u062a\u0649"),
  (0xFC10, "\u062a\u064a|\u062b\u062c|\u062b\u0645|\u062b\u0649|\u062b\u064a|\u062c\u062d"),
  (0xFC16, "\u062c\u0645|\u062d\u062c|\u062d\u0645|\u062e\u062c|\u062e\u062d|\u062e\u0645"),
  (0xFC1C, "\u0633\u062c|\u0633\u062d|\u0633\u062e|\u0633\u0645|\u0635\u062d|\u0635\u0645"),
  (0xFC22, "\u0636\u062c|\u0636\u062d|\u0636\u062e|\u0636\u0645|\u0637\u062d|\u0637\u0645"),
  (0xFC28, "\u0638\u0645|\u0639\u062c|\u0639\u0645|\u063a\u062c|\u063a\u0645|\u0641\u062c"),
  (0xFC2E, "\u0641\u062d|\u0641\u062e|\u0641\u0645|\u0641\u0649|\u0641\u064a|\u0642\u062d"),
  (0xFC34, "\u0642\u0645|\u0642\u0649|\u0642\u064a|\u0643\u0627|\u0643\u062c|\u0643\u062d"),
  (0xFC3A, "\u0643\u062e|\u0643\u0644|\u0643\u0645|\u0643\u0649|\u0643\u064a|\u0644\u062c"),
  (0xFC40, "\u0644\u062d|\u0644\u062e|\u0644\u0645|\u0644\u0649|\u0644\u064a|\u0645\u062c"),
  (0xFC46, "\u0645\u062d|\u0645\u062e|\u0645\u0645|\u0645\u0649|\u0645\u064a|\u0646\u062c"),
  (0xFC4C, "\u0646\u062d|\u0646\u062e|\u0646\u0645|\u0646\u0649|\u0646\u064a|\u0647\u062c"),
  (0xFC52, "\u0647\u0645|\u0647\u0649|\u0647\u064a|\u064a\u062c|\u064a\u062d|\u064a\u062e"),
  (0xFC58, "\u064a\u0645|\u064a\u0649|\u064a\u064a|\u0630\u0670|\u0631\u0670|\u0649\u0670"),
  (0xFC5E, " \u064c\u0651| \u064d\u0651| \u064e\u0651| \u064f\u0651| \u0650\u0651| \u0651\u0670"),
  (0xFC64, "\u0626\u0631|\u0626\u0632|\u0626\u0645|\u0626\u0646|\u0626\u0649|\u0626\u064a"),
  (0xFC6A, "\u0628\u0631|\u0628\u0632|\u0628\u0645|\u0628\u0646|\u0628\u0649|\u0628\u064a"),
  (0xFC70, "\u062a\u0631|\u062a\u0632|\u062a\u0645|\u062a\u0646|\u062a\u0649|\u062a\u064a"),
  (0xFC76, "\u062b\u0631|\u062b\u0632|\u062b\u0645|\u062b\u0646|\u062b\u0649|\u062b\u064a"),
  (0xFC7C, "\u0641\u0649|\u0641\u064a|\u0642\u0649|\u0642\u064a|\u0643\u0627|\u0643\u0644"),
  (0xFC82, "\u0643\u0645|\u0643\u0649|\u0643\u064a|\u0644\u0645|\u0644\u0649|\u0644\u064a"),
  (0xFC88, "\u0645\u0627|\u0645\u0645|\u0646\u0631|\u0646\u0632|\u0646\u0645|\u0646\u0646"),
  (0xFC8E, "\u0646\u0649|\u0646\u064a|\u0649\u0670|\u064a\u0631|\u064a\u0632|\u064a\u0645"),
  (0xFC94, "\u064a\u0646|\u064a\u0649|\u064a\u064a|\u0626\u062c|\u0626\u062d|\u0626\u062e"),
  (0xFC9A, "\u0626\u0645|\u0626\u0647|\u0628\u062c|\u0628\u062d|\u0628\u062e|\u0628\u0645"),
  (0xFCA0, "\u0628\u0647|\u062a\u062c|\u062a\u062d|\u062a\u062e|\u062a\u0645|\u062a\u0647"),
  (0xFCA6, "\u062b\u0645|\u062c\u062d|\u062c\u0645|\u062d\u062c|\u062d\u0645|\u062e\u062c"),
  (0xFCAC, "\u062e\u0645|\u0633\u062c|\u0633\u062d|\u0633\u062e|\u0633\u0645|\u0635\u062d"),
  (0xFCB2, "\u0635\u062e|\u0635\u0645|\u0636\u062c|\u0636\u062d|\u0636\u062e|\u0636\u0645"),
  (0xFCB8, "\u0637\u062d|\u0638\u0645|\u0639\u062c|\u0639\u0645|\u063a\u062c|\u063a\u0645"),
  (0xFCBE, "\u0641\u062c|\u0641\u062d|\u0641\u062e|\u0641\u0645|\u0642\u062d|\u0642\u0645"),
  (0xFCC4, "\u0643\u062c|\u0643\u062d|\u0643\u062e|\u0643\u0644|\u0643\u0645|\u0644\u062c"),
  (0xFCCA, "\u0644\u062d|\u0644\u062e|\u0644\u0645|\u0644\u0647|\u0645\u062c|\u0645\u062d"),
  (0xFCD0, "\u0645\u062e|\u0645\u0645|\u0646\u062c|\u0646\u062d|\u0646\u062e|\u0646\u0645"),
  (0xFCD6, "\u0646\u0647|\u0647\u062c|\u0647\u0645|\u0647\u0670|\u064a\u062c|\u064a\u062d"),
  (0xFCDC, "\u064a\u062e|\u064a\u0645|\u064a\u0647|\u0626\u0645|\u0626\u0647|\u0628\u0645"),
  (0xFCE2, "\u0628\u0647|\u062a\u0645|\u062a\u0647|\u062b\u0645|\u062b\u0647|\u0633\u0645"),
  (0xFCE8, "\u0633\u0647|\u0634\u0645|\u0634\u0647|\u0643\u0644|\u0643\u0645|\u0644\u0645"),
  (0xFCEE, "\u0646\u0645|\u0646\u0647|\u064a\u0645|\u064a\u0647|\u0640\u064e\u0651"),
  (0xFCF3, "\u0640\u064f\u0651|\u0640\u0650\u0651|\u0637\u0649|\u0637\u064a|\u0639\u0649"),
  (0xFCF8, "\u0639\u064a|\u063a\u0649|\u063a\u064a|\u0633\u0649|\u0633\u064a|\u0634\u0649"),
  (0xFCFE, "\u0634\u064a|\u062d\u0649|\u062d\u064a|\u062c\u0649|\u062c\u064a|\u062e\u0649"),
  (0xFD04, "\u062e\u064a|\u0635\u0649|\u0635\u064a|\u0636\u0649|\u0636\u064a|\u0634\u062c"),
  (0xFD0A, "\u0634\u062d|\u0634\u062e|\u0634\u0645|\u0634\u0631|\u0633\u0631|\u0635\u0631"),
  (0xFD10, "\u0636\u0631|\u0637\u0649|\u0637\u064a|\u0639\u0649|\u0639\u064a|\u063a\u0649"),
  (0xFD16, "\u063a\u064a|\u0633\u0649|\u0633\u064a|\u0634\u0649|\u0634\u064a|\u062d\u0649"),
  (0xFD1C, "\u062d\u064a|\u062c\u0649|\u062c\u064a|\u062e\u0649|\u062e\u064a|\u0635\u0649"),
  (0xFD22, "\u0635\u064a|\u0636\u0649|\u0636\u064a|\u0634\u062c|\u0634\u062d|\u0634\u062e"),
  (0xFD28, "\u0634\u0645|\u0634\u0631|\u0633\u0631|\u0635\u0631|\u0636\u0631|\u0634\u062c"),
  (0xFD2E, "\u0634\u062d|\u0634\u062e|\u0634\u0645|\u0633\u0647|\u0634\u0647|\u0637\u0645"),
  (0xFD34, "\u0633\u062c|\u0633\u062d|\u0633\u062e|\u0634\u062c|\u0634\u062d|\u0634\u062e"),
  (0xFD3A, "\u0637\u0645|\u0638\u0645|\u0627\u064b|\u0627\u064b"),
  (0xFD50, "\u062a\u062c\u0645|\u062a\u062d\u062c|\u062a\u062d\u062c|\u062a\u062d\u0645"),
  (0xFD54, "\u062a\u062e\u0645|\u062a\u0645\u062c|\u062a\u0645\u062d|\u062a\u0645\u062e"),
  (0xFD58, "\u062c\u0645\u062d|\u062c\u0645\u062d|\u062d\u0645\u064a|\u062d\u0645\u0649"),
  (0xFD5C, "\u0633\u062d\u062c|\u0633\u062c\u062d|\u0633\u062c\u0649|\u0633\u0645\u062d"),
  (0xFD60, "\u0633\u0645\u062d|\u0633\u0645\u062c|\u0633\u0645\u0645|\u0633\u0645\u0645"),
  (0xFD64, "\u0635\u062d\u062d|\u0635\u062d\u062d|\u0635\u0645\u0645|\u0634\u062d\u0645"),
  (0xFD68, "\u0634\u062d\u0645|\u0634\u062c\u064a|\u0634\u0645\u062e|\u0634\u0645\u062e"),
  (0xFD6C, "\u0634\u0645\u0645|\u0634\u0645\u0645|\u0636\u062d\u0649|\u0636\u062e\u0645"),
  (0xFD70, "\u0636\u062e\u0645|\u0637\u0645\u062d|\u0637\u0645\u062d|\u0637\u0645\u0645"),
  (0xFD74, "\u0637\u0645\u064a|\u0639\u062c\u0645|\u0639\u0645\u0645|\u0639\u0645\u0645"),
  (0xFD78, "\u0639\u0645\u0649|\u063a\u0645\u0645|\u063a\u0645\u064a|\u063a\u0645\u0649"),
  (0xFD7C, "\u0641\u062e\u0645|\u0641\u062e\u0645|\u0642\u0645\u062d|\u0642\u0645\u0645"),
  (0xFD80, "\u0644\u062d\u0645|\u0644\u062d\u064a|\u0644\u062d\u0649|\u0644\u062c\u062c"),
  (0xFD84, "\u0644\u062c\u062c|\u0644\u062e\u0645|\u0644\u062e\u0645|\u0644\u0645\u062d"),
  (0xFD88, "\u0644\u0645\u062d|\u0645\u062d\u062c|\u0645\u062d\u0645|\u0645\u062d\u064a"),
  (0xFD8C, "\u0645\u062c\u062d|\u0645\u062c\u0645|\u0645\u062e\u062c|\u0645\u062e\u0645"),
  (0xFD92, "\u0645\u062c\u062e|\u0647\u0645\u062c|\u0647\u0645\u0645|\u0646\u062d\u0645"),
  (0xFD96, "\u0646\u062d\u0649|\u0646\u062c\u0645|\u0646\u062c\u0645|\u0646\u062c\u0649"),
  (0xFD9A, "\u0646\u0645\u064a|\u0646\u0645\u0649|\u064a\u0645\u0645|\u064a\u0645\u0645"),
  (0xFD9E, "\u0628\u062e\u064a|\u062a\u062c\u064a|\u062a\u062c\u0649|\u062a\u062e\u064a"),
  (0xFDA2, "\u062a\u062e\u0649|\u062a\u0645\u064a|\u062a\u0645\u0649|\u062c\u0645\u064a"),
  (0xFDA6, "\u062c\u062d\u0649|\u062c\u0645\u0649|\u0633\u062e\u0649|\u0635\u062d\u064a"),
  (0xFDAA, "\u0634\u062d\u064a|\u0636\u062d\u064a|\u0644\u062c\u064a|\u0644\u0645\u064a"),
  (0xFDAE, "\u064a\u062d\u064a|\u064a\u062c\u064a|\u064a\u0645\u064a|\u0645\u0645\u064a"),
  (0xFDB2, "\u0642\u0645\u064a|\u0646\u062d\u064a|\u0642\u0645\u062d|\u0644\u062d\u0645"),
  (0xFDB6, "\u0639\u0645\u064a|\u0643\u0645\u064a|\u0646\u062c\u062d|\u0645\u062e\u064a"),
  (0xFDBA, "\u0644\u062c\u0645|\u0643\u0645\u0645|\u0644\u062c\u0645|\u0646\u062c\u062d"),
  (0xFDBE, "\u062c\u062d\u064a|\u062d\u062c\u064a|\u0645\u062c\u064a|\u0641\u0645\u064a"),
  (0xFDC2, "\u0628\u062d\u064a|\u0643\u0645\u0645|\u0639\u062c\u0645|\u0635\u0645\u0645"),
  (0xFDC6, "\u0633\u062e\u064a|\u0646\u062c\u064a"),
  (0xFDF0, "\u0635\u0644\u06d2|\u0642\u0644\u06d2|\u0627\u0644\u0644\u0647"),
  (0xFDF3, "\u0627\u0643\u0628\u0631|\u0645\u062d\u0645\u062f|\u0635\u0644\u0639\u0645"),
  (0xFDF6, "\u0631\u0633\u0648\u0644|\u0639\u0644\u064a\u0647|\u0648\u0633\u0644\u0645"),
  (0xFDF9, "\u0635\u0644\u0649"),
  (0xFDFA, "\u0635\u0644\u0649 \u0627\u0644\u0644\u0647 \u0639\u0644\u064a\u0647 \u0648\u0633\u0644\u0645"),
  (0xFDFB, "\u062c\u0644 \u062c\u0644\u0627\u0644\u0647|\u0631\u06cc\u0627\u0644"),
  (0xFE47, "[|]| \u0305| \u0305| \u0305| \u0305|_|_|_|,|、"),
  (0xFE70, " \u064b|\u0640\u064b| \u064c"), (0xFE74, " \u064d"),
  (0xFE76, " \u064e|\u0640\u064e| \u064f|\u0640\u064f| \u0650|\u0640\u0650| \u0651|\u0640\u0651"),
  (0xFE7E, " \u0652|\u0640\u0652|\u0621|\u0622|\u0622|\u0623|\u0623|\u0624|\u0624|\u0625|\u0625"),
  (0xFE89, "\u0626|\u0626|\u0626|\u0626|\u0627|\u0627|\u0628|\u0628|\u0628|\u0628|\u0629|\u0629"),
  (0xFE95, "\u062a|\u062a|\u062a|\u062a|\u062b|\u062b|\u062b|\u062b|\u062c|\u062c|\u062c|\u062c"),
  (0xFEA1, "\u062d|\u062d|\u062d|\u062d|\u062e|\u062e|\u062e|\u062e|\u062f|\u062f|\u0630|\u0630"),
  (0xFEAD, "\u0631|\u0631|\u0632|\u0632|\u0633|\u0633|\u0633|\u0633|\u0634|\u0634|\u0634|\u0634"),
  (0xFEB9, "\u0635|\u0635|\u0635|\u0635|\u0636|\u0636|\u0636|\u0636|\u0637|\u0637|\u0637|\u0637"),
  (0xFEC5, "\u0638|\u0638|\u0638|\u0638|\u0639|\u0639|\u0639|\u0639|\u063a|\u063a|\u063a|\u063a"),
  (0xFED1, "\u0641|\u0641|\u0641|\u0641|\u0642|\u0642|\u0642|\u0642|\u0643|\u0643|\u0643|\u0643"),
  (0xFEDD, "\u0644|\u0644|\u0644|\u0644|\u0645|\u0645|\u0645|\u0645|\u0646|\u0646|\u0646|\u0646"),
  (0xFEE9, "\u0647|\u0647|\u0647|\u0647|\u0648|\u0648|\u0649|\u0649|\u064a|\u064a|\u064a|\u064a"),
  (0xFEF5, "\u0644\u0622|\u0644\u0622|\u0644\u0623|\u0644\u0623|\u0644\u0625|\u0644\u0625"),
  (0xFEFB, "\u0644\u0627|\u0644\u0627"), (0xFFE0, "¢|£|¬| \u0304|¦|¥|₩"),
  (0x1D15E, "𝅗𝅥|𝅘𝅥|𝅘𝅥𝅮|𝅘𝅥𝅯|𝅘𝅥𝅰|𝅘𝅥𝅱|𝅘𝅥𝅲"), (0x1D1BB, "𝆹𝅥|𝆺𝅥|𝆹𝅥𝅮|𝆺𝅥𝅮|𝆹𝅥𝅯|𝆺𝅥𝅯"),
  (0x1F101, "0,|1,|2,|3,|4,|5,|6,|7,|8,|9,"),
  (0x1F110, "(a)|(b)|(c)|(d)|(e)|(f)|(g)|(h)|(i)|(j)|(k)|(l)|(m)|(n)|(o)|(p)|(q)|(r)|(s)|(t)"),
  (0x1F124, "(u)|(v)|(w)|(x)|(y)|(z)|〔s〕|c|r|cd|wz"), (0x1F14A, "hv|mv|sd|ss|ppv|wc"),
  (0x1F16A, "mc|md|mr"), (0x1F190, "dj"), (0x1F200, "ほか|ココ|サ"),
  (0x1F240, "〔本〕|〔三〕|〔二〕|〔安〕|〔点〕|〔打〕|〔盗〕|〔勝〕|〔敗〕")]

/-- Characters that stand for nothing. -/
def silent : List (Nat × Nat) := [
  (0xAD, 0xAD), (0x34F, 0x34F), (0x115F, 0x1160), (0x17B4, 0x17B5), (0x180B, 0x180F),
  (0x200B, 0x200B), (0x2060, 0x206F), (0x3164, 0x3164), (0xFE00, 0xFE0F), (0xFEFF, 0xFEFF),
  (0xFFA0, 0xFFA0), (0x1BCA0, 0x1BCA3), (0x1D173, 0x1D17A), (0xE0100, 0xE01EF)]

/-- What a letter in the first table stands for. -/
def shift? (n : Nat) : Option Char :=
  shifted.findSome? fun (first, count, step, target) =>
    if first ≤ n && (n - first) % step == 0 && (n - first) / step < count
    then some (Char.ofNat (target + (n - first))) else none

/-- The last entry of a table that starts at or before a code point, and the distance to it. -/
def listed? (table : List (Nat × String)) (n : Nat) : Option (Text × Nat) :=
  (table.filter (·.1 ≤ n)).getLast?.map fun (first, texts) => (texts.toList, n - first)

/-- What a character stands for, if not for itself. -/
def fold? (c : Char) : Option Text :=
  let n := c.toNat
  if Text.inRanges silent c then some []
  else
    ((shift? n).map fun target => [target])
      <|> ((listed? respelled n).bind fun (texts, i) => texts[i]?.map fun target => [target])
      <|> ((listed? spelledOut n).bind fun (texts, i) => (cut '|' texts)[i]?)

end WorkflowNav.Domain
